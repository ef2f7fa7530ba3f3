import LocaleText.Text

/-!
# Locale identifiers

A locale identifier is a list of subtags between hyphens or underscores: a language, then
optionally a script, a region and variants, then extensions, the first of which is introduced by a
subtag of one letter. Letter case carries no meaning. `LanguageId.parse` returns the part before
the extensions; of the extensions it only checks the form.

Extensions are read one subtag at a time. `Extension.step` says whether a subtag continues the
extension under way. A subtag that does not introduces the next one by its first letter, however
long it is.
-/

namespace LocaleText

/-- What can be wrong with a locale identifier. -/
inductive LocaleError where
  /-- It does not start with a language. -/
  | invalidLanguage
  /-- A subtag stands where it cannot. -/
  | invalidSubtag
  /-- An extension is not well-formed. -/
  | invalidExtension
  /-- An extension occurs twice. -/
  | duplicatedExtension
  deriving DecidableEq, Repr

/-- The report of a fault. -/
def LocaleError.message : LocaleError → Text
  | invalidLanguage => "The given language subtag is invalid".toList
  | invalidSubtag => "Invalid subtag".toList
  | invalidExtension => "Invalid extension".toList
  | duplicatedExtension => "Duplicated extension".toList

/-- The language part of a locale identifier, language in lower case, script capitalised, region in
upper case. -/
structure LanguageId where
  /-- The language. -/
  language : Text
  /-- The script. -/
  script : Option Text := none
  /-- The region. -/
  region : Option Text := none
  /-- The variants. -/
  variants : List Text := []
  deriving DecidableEq, Repr

namespace Subtag

/-- The subtags of an identifier. -/
def ofCode : Text → Text × List Text
  | [] => ([], [])
  | c :: cs =>
    let (first, others) := ofCode cs
    if c = '-' ∨ c = '_' then ([], first :: others) else (c :: first, others)

/-- From `low` to `high` characters, letters or digits of ASCII all of them. -/
def isAlphanumeric (low high : Nat) (s : Text) : Bool :=
  low ≤ s.length && s.length ≤ high && s.all Char.isAlphanum

/-- Two or three letters. -/
def isLanguage (s : Text) : Bool :=
  2 ≤ s.length && s.length ≤ 3 && s.all Char.isAlpha

/-- Four letters. -/
def isScript (s : Text) : Bool :=
  s.length == 4 && s.all Char.isAlpha

/-- Two letters or three digits. -/
def isRegion (s : Text) : Bool :=
  (s.length == 2 && s.all Char.isAlpha) || (s.length == 3 && s.all Char.isDigit)

/-- Five to eight letters or digits, or four of them that start with a digit. -/
def isVariant (s : Text) : Bool :=
  isAlphanumeric 5 8 s || (isAlphanumeric 4 4 s && (s.take 1).all Char.isDigit)

/-- One character of ASCII: what ends the language part. -/
def isSingle : Text → Bool
  | [c] => c.toNat < 0x80
  | _ => false

/-- A letter or digit and a letter: the key of a Unicode keyword. -/
def isKeyword : Text → Bool
  | [a, b] => a.isAlphanum && b.isAlpha
  | _ => false

/-- A letter and a digit: the key of a transformed field. -/
def isField : Text → Bool
  | [a, b] => a.isAlpha && b.isDigit
  | _ => false

/-- What stands behind a key, and a Unicode attribute. -/
def isValue (s : Text) : Bool :=
  isAlphanumeric 3 8 s

/-- From two to eight bytes of any characters: what an extension without a form of its own holds. -/
def isShort (s : Text) : Bool :=
  2 ≤ s.utf8Size && s.utf8Size ≤ 8

end Subtag

namespace LanguageId

/-- What may come next in the language part. -/
inductive Position where
  | script | region | variant
  deriving DecidableEq, Repr

/-- A word with its first letter in upper case and the others in lower case. -/
def capitalised : Text → Text
  | [] => []
  | c :: cs => c.toUpper :: cs.map Char.toLower

/-- Takes a subtag as script, region or variant, whichever it is by its form; `none` when it is none
of what may come next. A variant must not be repeated. -/
def take? (id : LanguageId) (position : Position) (s : Text) :
    Except LocaleError (Option (LanguageId × Position)) :=
  let variant := s.map Char.toLower
  if position = .script ∧ Subtag.isScript s then
    .ok (some ({ id with script := some (capitalised s) }, .region))
  else if position ≠ .variant ∧ Subtag.isRegion s then
    .ok (some ({ id with region := some (s.map Char.toUpper) }, .variant))
  else if Subtag.isVariant s then
    if variant ∈ id.variants then .error .invalidSubtag
    else .ok (some ({ id with variants := id.variants ++ [variant] }, .variant))
  else .ok none

end LanguageId

/-- How far the extension under way has been read. -/
inductive Extension where
  /-- No extension is under way. -/
  | done
  /-- The attributes of a Unicode extension; whether there has been one. -/
  | attributes (hasSome : Bool)
  /-- The value of a Unicode keyword. -/
  | keyword
  /-- The start of a transformation. -/
  | transformation
  /-- The language part of a transformation. -/
  | target (id : LanguageId) (position : LanguageId.Position)
  /-- The fields of a transformation; of the one under way, whether it has a value. -/
  | field (hasValue : Bool)
  /-- Private use. -/
  | privateUse
  /-- An extension of another letter. -/
  | unknown

namespace Extension

/-- The extension that a letter introduces. -/
def start (letter : Char) : Extension :=
  if letter = 'u' then attributes false
  else if letter = 't' then transformation
  else if letter = 'x' then privateUse
  else unknown

/-- Whether the extension may end here. -/
def mayEnd : Extension → Bool
  | attributes hasSome => hasSome
  | field hasValue => hasValue
  | _ => true

/-- The extension after one more subtag, or `none` when the subtag does not belong to it. -/
def step (s : Text) : Extension → Except LocaleError (Option Extension)
  | done => .ok none
  | attributes _ =>
    if Subtag.isValue s then .ok (some (attributes true))
    else if Subtag.isKeyword s then .ok (some keyword)
    else .ok none
  | keyword =>
    if Subtag.isValue s || Subtag.isKeyword s then .ok (some keyword) else .ok none
  | transformation =>
    if Subtag.isLanguage s then .ok (some (target { language := s.map Char.toLower } .script))
    else if Subtag.isField s then .ok (some (field false))
    else .ok none
  | target id position =>
    if Subtag.isSingle s then .ok none
    else
      (id.take? position s).map fun taken =>
        match taken with
        | some (id, position) => some (target id position)
        | none => if Subtag.isField s then some (field false) else none
  | field hasValue =>
    if Subtag.isValue s then .ok (some (field true))
    else if hasValue && Subtag.isField s then .ok (some (field false))
    else .ok none
  | privateUse =>
    if Subtag.isAlphanumeric 1 8 s then .ok (some privateUse) else .error .invalidExtension
  | unknown => if Subtag.isShort s then .ok (some unknown) else .ok none

/-- Checks extensions, the letters of those before in `seen` and one of them under way. -/
def check (seen : List Char) (current : Extension) : List Text → Except LocaleError Unit
  | [] => if current.mayEnd then .ok () else .error .invalidExtension
  | s :: rest =>
    match current.step s with
    | .error e => .error e
    | .ok (some next) => check seen next rest
    | .ok none =>
      if !current.mayEnd then .error .invalidExtension
      else
        match s with
        | c :: _ =>
          if !c.isAlpha then .error .invalidExtension
          else if seen.contains c.toLower then .error .duplicatedExtension
          else check (c.toLower :: seen) (start c.toLower) rest
        | [] => .error .invalidExtension

end Extension

namespace LanguageId

/-- Reads what follows the language. -/
def readFrom (id : LanguageId) (position : Position) : List Text → Except LocaleError LanguageId
  | [] => .ok id
  | s :: rest =>
    if Subtag.isSingle s then (Extension.check [] .done (s :: rest)).map fun _ => id
    else
      match id.take? position s with
      | .error e => .error e
      | .ok none => .error .invalidSubtag
      | .ok (some (id, position)) => readFrom id position rest

/-- Reads a locale identifier. -/
def parse (code : Text) : Except LocaleError LanguageId :=
  let (language, rest) := Subtag.ofCode code
  if Subtag.isLanguage language then
    readFrom { language := language.map Char.toLower } .script rest
  else .error .invalidLanguage

end LanguageId
end LocaleText
