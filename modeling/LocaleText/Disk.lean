import LocaleText.Text

/-!
# What is read from a disk

Locale packs and configurations are files. All that this library asks of a disk is what stands in a
directory and what a file says, so a `Disk` is a pair of functions: for a program, what has been
found; for a test, anything.
-/

namespace LocaleText

/-- An entry of a directory. -/
structure DirectoryEntry where
  /-- Its name. -/
  name : Text
  /-- Whether it is a file, as opposed to a directory, a link or anything else. -/
  isFile : Bool
  deriving DecidableEq, Repr

/-- What is met where the next entry of a directory is looked for. -/
inductive DirectoryItem where
  /-- An entry that can be examined. -/
  | entry (entry : DirectoryEntry)
  /-- An entry of this name that cannot be examined, so that nobody knows what it is. -/
  | unexaminable (name : Text)
  /-- The listing breaks off. -/
  | interruption
  deriving DecidableEq, Repr

/-- What is found where a directory is looked for. -/
inductive Listing where
  /-- Nothing. -/
  | missing
  /-- Something that cannot be listed. -/
  | notListable
  /-- A directory in which this is met, in the order of the listing, which may be any. -/
  | items (items : List DirectoryItem)
  deriving DecidableEq, Repr

/-- What is found where a file is looked for. -/
inductive Reading where
  /-- Nothing. -/
  | missing
  /-- Something that cannot be read as text. -/
  | notReadable
  /-- A file with this text. -/
  | text (text : Text)
  deriving DecidableEq, Repr

/-- What is found at each path. -/
structure Disk where
  /-- What is found where a directory is looked for. -/
  directory : Text → Listing
  /-- What is found where a file is looked for. -/
  file : Text → Reading

/-- A disk with nothing on it. -/
def Disk.blank : Disk :=
  { directory := fun _ => .missing, file := fun _ => .missing }

end LocaleText
