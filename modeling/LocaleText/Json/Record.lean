import LocaleText.Json.Reader

/-!
# Records in JSON text

A record is written as an object whose fields have fixed names, or as an array of their values in a
fixed order. Of an object, fields of other names are skipped unread, and a repeated field of the
record is a fault. Of an array, fields may be left out at the end. What a field holds is read by one
of the small readers below; a field that is left out takes its default, where it has one.
-/

namespace LocaleText.Json.Record

/-- The nesting that is left inside a record. -/
def innerDepth : Nat := maxDepth - 1

/-- The only field called `name`, as `some none` when there is none, or `none` when there are
several. -/
def uniqueField? (name : Text) (fields : List (Text × Source)) : Option (Option Source) :=
  match fields.filter fun field => field.1 = name with
  | [] => some none
  | [field] => some (some field.2)
  | _ => none

/-- The fields called `names`, in that order. -/
def fields? (names : List Text) : Source → Option (List (Option Source))
  | .object fields => do
    let named ← fields.mapM fun (units, value) =>
      (decodeString? units).map fun name => (name, value)
    names.mapM fun name => uniqueField? name named
  | .array items =>
    if items.length ≤ names.length then
      some (items.map some ++ List.replicate (names.length - items.length) none)
    else none
  | _ => none

/-- Reads a text. -/
def text? : Source → Option Text
  | .string units => decodeString? units
  | _ => none

/-- Reads a truth value. -/
def bool? : Source → Option Bool
  | .bool b => some b
  | _ => none

/-- Reads a list of texts. -/
def texts? : Source → Option (List Text)
  | .array items => items.mapM text?
  | _ => none

/-- Reads a text or `null`. -/
def optionalText? : Source → Option (Option Text)
  | .null => some none
  | source => (text? source).map some

/-- Reads an object. -/
def entries? (source : Source) : Option (Entries Json) :=
  match source.value? innerDepth with
  | some (.object fields) => some fields
  | _ => none

/-- Reads a field that must be there. -/
def required? {α : Type} (reader : Source → Option α) (field : Option Source) : Option α :=
  field.bind reader

/-- Reads a field that may be left out. -/
def orDefault? {α : Type} (reader : Source → Option α) (default : α) :
    Option Source → Option α
  | none => some default
  | some source => reader source

end LocaleText.Json.Record
