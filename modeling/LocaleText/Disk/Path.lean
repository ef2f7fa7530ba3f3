import LocaleText.Text

/-!
# Paths

Paths are texts with slashes between their names, and nothing about them is normalised when they
are joined or shown. An empty name and a dot name nothing: they are skipped when a path is taken
apart or compared, except for a dot at the start of a relative path.
-/

namespace LocaleText.Path

/-- What separates the names of a path. -/
def separator : Char := '/'

/-- Whether the path starts at the root. -/
def isAbsolute (path : Text) : Bool :=
  path.head? == some separator

/-- `path` as seen from `base`. -/
def join (base path : Text) : Text :=
  if isAbsolute path then path
  else if base.isEmpty || base.getLast? == some separator then base ++ path
  else base ++ separator :: path

/-- Whether a name of a path is skipped. -/
def isVoidName (name : Text) : Bool :=
  name.isEmpty || name == ['.']

/-- The start of a path that is not among its names: the root, and a dot at the start. -/
def anchor (path : Text) : Text :=
  match path with
  | '/' :: _ => ['/']
  | ['.'] => ['.']
  | '.' :: '/' :: _ => ['.']
  | _ => []

/-- The path without its last name. A lone dot has the empty path above it; the root and the empty
path have none. -/
def parent? (path : Text) : Option Text :=
  let start := anchor path
  let names := (Text.pieces separator (path.drop start.length)).reverse
  match names.dropWhile isVoidName with
  | _ :: above =>
    some (start ++ List.intercalate [separator] (above.dropWhile isVoidName).reverse)
  | [] => if start = ['.'] then some [] else none

/-- The names in a path. -/
def names (path : Text) : List Text :=
  (Text.pieces separator path).filter fun name => !isVoidName name

/-- Whether two paths have the same start and the same names behind it. -/
def same (a b : Text) : Bool :=
  anchor a == anchor b && names a == names b

/-- The most bytes that a name of a directory entry has. -/
def maxNameSize : Nat := 255

/-- The most bytes that a path has where a file or a directory is looked for. -/
def maxSize : Nat := 4095

/-- Whether something can be looked for at the path. A path that is too long or holds a null
character is refused before it is taken apart. -/
def isUsable (path : Text) : Bool :=
  !path.contains '\x00' && path.utf8Size ≤ maxSize

/-- What stands behind the last dot of a name, if the dot is not its first character. -/
def extension? (name : Text) : Option Text :=
  match (Text.pieces '.' name).reverse with
  | last :: before :: others => if others.isEmpty && before.isEmpty then none else some last
  | _ => none

end LocaleText.Path
