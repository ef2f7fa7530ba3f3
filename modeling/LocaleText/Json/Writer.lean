import LocaleText.Decimal.Layout
import LocaleText.Json.Value

/-!
# Writing JSON text

The compact form: no blanks, fields in the order in which the value lists them, integers in decimal
digits, doubles as `Layout.json` says. In strings the quotation mark, the backslash and the control
characters are escaped, five of them by a letter; everything else stands for itself.
-/

namespace LocaleText.Json

/-- The two hexadecimal digits, in lower case, of a number below 256. -/
def hexPair (n : Nat) : Text :=
  [Nat.digitChar (n / 16), Nat.digitChar (n % 16)]

/-- A character as it stands in a string. -/
def escapeChar (c : Char) : Text :=
  if c = '"' then ['\\', '"']
  else if c = '\\' then ['\\', '\\']
  else if c = '\x08' then ['\\', 'b']
  else if c = '\t' then ['\\', 't']
  else if c = '\n' then ['\\', 'n']
  else if c = '\x0c' then ['\\', 'f']
  else if c = '\r' then ['\\', 'r']
  else if c < ' ' then ['\\', 'u', '0', '0'] ++ hexPair c.toNat
  else [c]

/-- A string with its quotation marks. -/
def quote (text : Text) : Text :=
  '"' :: (text.flatMap escapeChar ++ ['"'])

/-- The text of a number. -/
def writeNumber : Number → Text
  | .integer n => Text.ofInt n
  | .real x => Layout.json.write x

/-- Texts in brackets, separated by commas. -/
def enclose (opening closing : Char) (items : List Text) : Text :=
  opening :: (List.intercalate [','] items ++ [closing])

mutual

/-- The compact text of a value. -/
def write : Json → Text
  | null => "null".toList
  | bool true => "true".toList
  | bool false => "false".toList
  | number n => writeNumber n
  | string text => quote text
  | array items => enclose '[' ']' (writeItems items)
  | object fields => enclose '{' '}' (writeFields fields)

/-- The compact texts of the items of an array. -/
def writeItems : List Json → List Text
  | [] => []
  | item :: items => write item :: writeItems items

/-- The compact texts of the fields of an object. -/
def writeFields : List (Text × Json) → List Text
  | [] => []
  | (name, value) :: fields => (quote name ++ ':' :: write value) :: writeFields fields

end

end LocaleText.Json
