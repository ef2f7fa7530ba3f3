import LocaleText.Formatter.Standard
import LocaleText.Library.Pack

/-!
# Configurations

A configuration names the directories that hold the locale packs and the default locale, and says
how templates are read and which formatters they see. It is a JSON file; where the file is missing,
and for every field that the file leaves out, the defaults below hold. A blank default locale counts
as left out.
-/

namespace LocaleText

/-- The settings of a library. -/
structure Config where
  /-- The code of the locale that is the fallback, if it is loaded. -/
  defaultLocale : Text := "en".toList
  /-- The directories that hold the locale packs. -/
  localeDirs : List Text := ["locales".toList]
  /-- Whether templates are compacted. -/
  compact : Bool := true
  /-- Whether messages see the standard formatters. -/
  standardFormatters : Bool := true
  deriving DecidableEq, Repr

/-- A fault of loading a configuration. -/
inductive ConfigError where
  /-- The file cannot be read. -/
  | read (path : Text)
  /-- The file is not well-formed. -/
  | parse (path : Text)
  deriving DecidableEq, Repr

/-- The report of a fault. -/
def ConfigError.message (wording : Wording) : ConfigError → Text
  | read path =>
    "failed to read configuration ".toList ++ path ++ ": ".toList ++ wording .notReadable
  | parse path =>
    "failed to parse configuration ".toList ++ path ++ ": ".toList ++ wording .malformed

namespace Config

/-- The names of the fields. -/
def fieldNames : List Text :=
  ["default_locale".toList, "locale_dirs".toList, "optimize".toList,
   "builtin_formatters".toList]

/-- Whether two configurations agree, directories being compared as paths. -/
def same (a b : Config) : Bool :=
  a.defaultLocale == b.defaultLocale && a.compact == b.compact
    && a.standardFormatters == b.standardFormatters && a.localeDirs.length == b.localeDirs.length
    && (a.localeDirs.zip b.localeDirs).all fun (left, right) => Path.same left right

/-- Reads a configuration as it stands. -/
def read? (text : Text) : Option Config := do
  let defaults : Config := {}
  let source ← Json.Source.read? text
  match ← Json.Record.fields? fieldNames source with
  | [locale, dirs, compact, standard] =>
    return {
      defaultLocale := ← Json.Record.orDefault? Json.Record.text? defaults.defaultLocale locale
      localeDirs := ← Json.Record.orDefault? Json.Record.texts? defaults.localeDirs dirs
      compact := ← Json.Record.orDefault? Json.Record.bool? defaults.compact compact
      standardFormatters :=
        ← Json.Record.orDefault? Json.Record.bool? defaults.standardFormatters standard }
  | _ => none

/-- The configuration with a default locale that is not blank. -/
def sanitize (config : Config) : Config :=
  if Text.isBlankText config.defaultLocale then
    { config with defaultLocale := ({} : Config).defaultLocale }
  else config

/-- Loads the configuration at a path. -/
def load (disk : Disk) (path : Text) : Except ConfigError Config :=
  match disk.file path with
  | .missing => .ok {}
  | .notReadable => .error (.read path)
  | .text text =>
    match read? text with
    | some config => .ok config.sanitize
    | none => .error (.parse path)

/-- How templates are read. -/
def parseOptions (config : Config) : ParseOptions :=
  { compact := config.compact }

/-- The formatters that messages see. -/
def registry (config : Config) : Registry :=
  if config.standardFormatters then Formatter.standard else ∅

/-- The directories that hold the locale packs, as seen from `base`. -/
def directories (config : Config) (base : Text) : List Text :=
  config.localeDirs.map (Path.join base)

/-- The configuration as a JSON value. -/
def toJson (config : Config) : Json :=
  .object <| Entries.ofList
    [("default_locale".toList, .string config.defaultLocale),
     ("locale_dirs".toList, .array (config.localeDirs.map .string)),
     ("optimize".toList, .bool config.compact),
     ("builtin_formatters".toList, .bool config.standardFormatters)]

end Config

/-- The library that a configuration describes, relative directories being seen from `base`. -/
def Library.ofConfig (disk : Disk) (config : Config) (base : Text) : Except LoadError Library :=
  (Library.new config.registry config.parseOptions).addDirectories disk (config.directories base)
    config.defaultLocale

end LocaleText
