import LocaleText.Json.Value

/-!
# Arguments of a message

The argument list of a message names its values in one of two ways. A list that is one object gives
its fields by name; any other list gives its values by position. The same key can mean different
things in the two: `0` is a field of that name in the first and the first value in the second.
-/

namespace LocaleText

/-- Where the keys of a template are looked up. -/
inductive Arguments where
  /-- By name, in the fields of an object. -/
  | named (fields : Entries Json)
  /-- By position, in a list. -/
  | positional (values : List Json)

namespace Arguments

/-- The arguments that a list gives. -/
def ofList : List Json → Arguments
  | [.object fields] => named fields
  | values => positional values

/-- The value of `key`, if there is one. -/
def find? (key : Text) : Arguments → Option Json
  | named fields => Entries.find? key fields
  | positional values => (readPosition? key).bind fun position => values[position]?

end Arguments
end LocaleText
