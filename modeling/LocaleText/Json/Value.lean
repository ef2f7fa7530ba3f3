import LocaleText.Decimal.Reader
import LocaleText.Table

/-!
# Values of the JSON data model

Arguments of messages, results of formatters and the contents of locale packs are JSON values. A
number is an integer or a double, and the two are kept apart: `3` and `3.0` are written differently.
The fields of an object are kept in the order of their names (`Json.Ordered`).
-/

namespace LocaleText

/-- A number of the JSON data model. -/
inductive Number where
  /-- An integer. -/
  | integer (n : Int)
  /-- A double. -/
  | real (x : Float)

/-- The double nearest to the number. -/
def Number.toFloat : Number → Float
  | integer n => if n < 0 then -nearestFloat n.natAbs 0 else nearestFloat n.natAbs 0
  | real x => x

/-- A value of the JSON data model. -/
inductive Json where
  /-- The value `null`. -/
  | null
  /-- A truth value. -/
  | bool (b : Bool)
  /-- A number. -/
  | number (n : Number)
  /-- A text. -/
  | string (text : Text)
  /-- A list of values. -/
  | array (items : List Json)
  /-- Named values. -/
  | object (fields : List (Text × Json))

namespace Json

/-- The kinds of values. -/
inductive Kind where
  | null | boolean | number | string | array | object
  deriving DecidableEq, Repr

/-- The kind of a value. -/
def kind : Json → Kind
  | null => .null
  | bool _ => .boolean
  | number _ => .number
  | string _ => .string
  | array _ => .array
  | object _ => .object

/-- The name of a kind. -/
def Kind.name : Kind → Text
  | null => "null".toList
  | boolean => "boolean".toList
  | number => "number".toList
  | string => "string".toList
  | array => "array".toList
  | object => "object".toList

mutual

/-- Every object in the value lists its fields in the order of their names, none of them twice. -/
def Ordered : Json → Prop
  | array items => OrderedItems items
  | object fields => Entries.Sorted fields ∧ OrderedFields fields
  | _ => True

/-- Every item is ordered. -/
def OrderedItems : List Json → Prop
  | [] => True
  | item :: items => Ordered item ∧ OrderedItems items

/-- The value of every field is ordered. -/
def OrderedFields : List (Text × Json) → Prop
  | [] => True
  | (_, value) :: fields => Ordered value ∧ OrderedFields fields

end

end Json
end LocaleText
