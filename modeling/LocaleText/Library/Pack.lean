import LocaleText.Disk.Path
import LocaleText.Disk
import LocaleText.Json.Record
import LocaleText.Library

/-!
# Locale packs

A locale pack is a JSON file with the code of a locale, optionally its name, and its messages. The
packs of a directory are the files in it whose names end in `.json`; they are loaded in the order of
their names, whatever the order in which the directory lists them. A directory that is missing holds
no packs.

Before any pack is read, everything in the directory is examined, in the order of the listing and
whether or not it is a pack. The first thing that cannot be examined ends the loading.
-/

namespace LocaleText

/-- The content of a locale pack. -/
structure Pack where
  /-- The code of the locale. -/
  locale : Text
  /-- The name under which the locale is listed. -/
  displayName : Option Text
  /-- The messages, in nested groups. -/
  strings : Entries Json

namespace Pack

/-- The names of the fields. -/
def fieldNames : List Text :=
  ["locale".toList, "display_name".toList, "strings".toList]

/-- Reads a locale pack. -/
def read? (text : Text) : Option Pack := do
  let source ← Json.Source.read? text
  match ← Json.Record.fields? fieldNames source with
  | [locale, displayName, strings] =>
    return {
      locale := ← Json.Record.required? Json.Record.text? locale
      displayName := ← Json.Record.orDefault? Json.Record.optionalText? none displayName
      strings := ← Json.Record.orDefault? Json.Record.entries? [] strings }
  | _ => none

/-- Whether a directory entry is a locale pack. -/
def isPack (entry : DirectoryEntry) : Bool :=
  entry.isFile && Path.extension? entry.name == some "json".toList

/-- The names of the packs in a directory, in order. -/
def names (entries : List DirectoryEntry) : List Text :=
  ((entries.filter isPack).map DirectoryEntry.name).mergeSort fun a b => !decide (b < a)

/-- Examines what is met in a directory. -/
def examine (directory : Text) : DirectoryItem → Except LoadError DirectoryEntry
  | .entry entry => .ok entry
  | .unexaminable name => .error (.unreadableFile (Path.join directory name))
  | .interruption => .error (.unlistableDirectory directory)

/-- The paths of the packs in a directory, in order. -/
def paths (directory : Text) : Listing → Except LoadError (List Text)
  | .missing => .ok []
  | .notListable => .error (.unlistableDirectory directory)
  | .items items => (items.mapM (examine directory)).map
    fun entries => (names entries).map (Path.join directory)

end Pack

namespace Library

/-- Adds the locale of the pack at a path. -/
def addPack (disk : Disk) (library : Library) (path : Text) : Except LoadError Library :=
  match disk.file path with
  | .text text =>
    match Pack.read? text with
    | some pack => library.add pack.locale pack.displayName pack.strings
    | none => .error (.malformedFile path)
  | _ => .error (.unreadableFile path)

/-- Adds the locales of the packs in a directory. -/
def addDirectory (disk : Disk) (library : Library) (directory : Text) :
    Except LoadError Library :=
  (Pack.paths directory (disk.directory directory)).bind
    fun paths => paths.foldlM (addPack disk) library

/-- Adds the locales of the packs in some directories, and chooses the default locale. -/
def addDirectories (disk : Disk) (library : Library) (directories : List Text)
    (defaultLocale : Text) : Except LoadError Library :=
  (directories.foldlM (addDirectory disk) library).map
    fun library => library.setDefault defaultLocale

/-- The library of the packs in some directories. -/
def load (disk : Disk) (directories : List Text) (defaultLocale : Text) (registry : Registry) :
    Except LoadError Library :=
  (new registry {}).addDirectories disk directories defaultLocale

end Library
end LocaleText
