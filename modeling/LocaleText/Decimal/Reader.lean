import LocaleText.Text

/-!
# Reading numbers from text

Three readers of numerals. `readNat?` reads decimal digits, `readPosition?` the position of an
argument (an optional plus sign and digits), and `readFloat?` a double: an optional sign, then
digits with an optional point somewhere among them or at either end, an optional exponent; or a
word for infinity or for not-a-number in any case. No blanks, no separators, ASCII digits only.
-/

namespace LocaleText

/-- The value of a decimal digit. -/
def digitValue (c : Char) : Nat :=
  c.toNat - '0'.toNat

/-- The number whose digits, after `high`, are those of the text. -/
def natOfDigits (high : Nat) (digits : Text) : Nat :=
  digits.foldl (fun n c => 10 * n + digitValue c) high

/-- Reads a text of one or more decimal digits. -/
def readNat? (text : Text) : Option Nat :=
  if !text.isEmpty && text.all Char.isDigit then some (natOfDigits 0 text) else none

/-- Positions are below this bound; a numeral for a greater number is no position. -/
def positionBound : Nat := Nat.pow 2 64

/-- Reads the position of an argument. -/
def readPosition? (text : Text) : Option Nat :=
  let digits :=
    match text with
    | '+' :: rest => rest
    | _ => text
  (readNat? digits).filter (· < positionBound)

/-- The text after an optional sign, and whether the sign is a minus. -/
def takeSign : Text → Bool × Text
  | '-' :: rest => (true, rest)
  | '+' :: rest => (false, rest)
  | text => (false, text)

/-- The double that stands for no number. -/
def notANumber : Float := Float.ofBits 0x7FF8000000000000

/-- The infinite double. -/
def infinity : Float := Float.ofBits 0x7FF0000000000000

/-- The double nearest to `digits · 10 ^ scale`. Far outside the range of doubles the answer is
given without working out the power. -/
def nearestFloat (digits : Nat) (scale : Int) : Float :=
  let size := (Text.ofNat digits).length + scale
  if digits = 0 || size < -330 then 0.0
  else if 330 < size then infinity
  else Float.ofScientific digits (scale < 0) scale.natAbs

/-- The letters of a word in lower case, ASCII letters only. -/
def lowerAscii (text : Text) : Text :=
  text.map Char.toLower

/-- Reads an exponent, introduced by `e`; the empty text stands for exponent zero. -/
def readExponent? : Text → Option Int
  | [] => some 0
  | e :: rest =>
    if e = 'e' ∨ e = 'E' then
      let (negative, digits) := takeSign rest
      (readNat? digits).map fun (n : Nat) => if negative then -(n : Int) else n
    else none

/-- Reads a numeral without a sign. -/
def readMagnitude? (text : Text) : Option Float :=
  let whole := text.takeWhile Char.isDigit
  let afterWhole := text.dropWhile Char.isDigit
  let (fraction, rest) :=
    match afterWhole with
    | '.' :: afterPoint => (afterPoint.takeWhile Char.isDigit, afterPoint.dropWhile Char.isDigit)
    | _ => ([], afterWhole)
  if whole.isEmpty && fraction.isEmpty then none
  else
    (readExponent? rest).map fun exponent =>
      nearestFloat (natOfDigits 0 (whole ++ fraction)) (exponent - fraction.length)

/-- Reads a double. -/
def readFloat? (text : Text) : Option Float :=
  let (negative, rest) := takeSign text
  let word := lowerAscii rest
  let magnitude :=
    if word = "inf".toList ∨ word = "infinity".toList then some infinity
    else if word = "nan".toList then some notANumber
    else readMagnitude? rest
  magnitude.map fun x => if negative then -x else x

end LocaleText
