import LocaleText.Json.Writer

/-!
# Values in running text

How a value is shown inside a message. A text stands for itself and `null` for nothing; numbers and
truth values are spelled out, a whole double below `10 ^ 15` as the integer that it is; arrays and
objects appear as JSON text.
-/

namespace LocaleText

/-- From this bound on, a whole double is not shown as an integer. -/
def wholeBound : Nat := Nat.pow 10 15

/-- A magnitude that is a natural number below `wholeBound`. -/
def smallWhole? (x : Float) : Option Nat :=
  ((Magnitude.ofFloat? x).bind Magnitude.whole?).filter (· < wholeBound)

/-- The text of a double. Minus zero is shown as zero. -/
def displayFloat (x : Float) : Text :=
  match smallWhole? x with
  | some n => Text.ofInt (if signBit x then -(n : Int) else n)
  | none => Layout.display.write x

/-- The text of a value. -/
def Json.display : Json → Text
  | null => []
  | bool true => "true".toList
  | bool false => "false".toList
  | number (.integer n) => Text.ofInt n
  | number (.real x) => displayFloat x
  | string text => text
  | array items => write (array items)
  | object fields => write (object fields)

end LocaleText
