import LocaleText.Json.Source
import LocaleText.Json.Value

/-!
# Reading JSON values

A value is read from the tree that its text spells. Three things can still be wrong with it: a
numeric escape in a string that is one half of a surrogate pair without the other, a number whose
magnitude is too great for a double, and too deep nesting. Of several fields of one name the last
one counts, and the fields are put in the order of their names.

A numeral without point and exponent that fits 64 bits, signed or unsigned, is an integer; minus
zero is not. All others are doubles. The digits of a double are taken into an unsigned 64-bit
significand for as long as they fit, and the double is that significand, rounded, times or over a
power of ten: two roundings, so it can be off the nearest double by one unit.
-/

namespace LocaleText.Json

/-- A character given by two halves of a surrogate pair. -/
def pairChar (high low : Nat) : Char :=
  Char.ofNat (0x10000 + (high - 0xD800) * 0x400 + (low - 0xDC00))

/-- Whether `n` is the first half of a surrogate pair. -/
def isHighHalf (n : Nat) : Bool :=
  0xD800 ≤ n && n ≤ 0xDBFF

/-- Whether `n` is the second half of a surrogate pair. -/
def isLowHalf (n : Nat) : Bool :=
  0xDC00 ≤ n && n ≤ 0xDFFF

/-- The text that a string denotes, or `none` when half a surrogate pair stands alone in it. -/
def decodeString? : List StringUnit → Option Text
  | [] => some []
  | .char c :: units => (decodeString? units).map (c :: ·)
  | .code high :: .code low :: units =>
    if isHighHalf high then
      if isLowHalf low then (decodeString? units).map (pairChar high low :: ·) else none
    else if isLowHalf high then none
    else (decodeString? (.code low :: units)).map (Char.ofNat high :: ·)
  | .code n :: units =>
    if isHighHalf n || isLowHalf n then none else (decodeString? units).map (Char.ofNat n :: ·)

/-- Significands are below this bound. -/
def significandBound : Nat := Nat.pow 2 64

/-- Exponents beyond this one are not worked out. -/
def exponentBound : Nat := Nat.pow 2 31

/-- Takes digits into a significand as long as it stays below the bound, and returns those that are
left. -/
def takeSignificand (significand : Nat) : Text → Nat × Text
  | [] => (significand, [])
  | c :: cs =>
    let next := 10 * significand + digitValue c
    if next < significandBound then takeSignificand next cs else (significand, c :: cs)

/-- The double `significand · 10 ^ scale` by one multiplication or division, or `none` when it is
too great. A scale below the least power of ten is taken in two steps, and beyond that nothing
remains. -/
def scaleFloat? (significand : Nat) (scale : Int) : Option Float :=
  let x := nearestFloat significand 0
  if 0 ≤ scale then
    if significand = 0 then some 0.0
    else if 308 < scale then none
    else
      let y := x * nearestFloat 1 scale
      if y.isFinite then some y else none
  else if -308 ≤ scale then some (x / nearestFloat 1 (-scale))
  else if -616 ≤ scale then some (x / nearestFloat 1 308 / nearestFloat 1 (-scale - 308))
  else some 0.0

namespace Numeral

/-- The double that the numeral denotes, without its sign, or `none` when it is too great. -/
def magnitude? (n : Numeral) : Option Float :=
  let (high, excess) := takeSignificand 0 n.whole
  let fraction := n.fraction.getD []
  let (significand, dropped) := takeSignificand high fraction
  let scale : Int := excess.length - (fraction.length - dropped.length : Nat)
  match n.exponent with
  | none => scaleFloat? significand scale
  | some (isNegative, digits) =>
    let exponent := natOfDigits 0 digits
    if isNegative then
      if exponentBound ≤ exponent then some 0.0 else scaleFloat? significand (scale - exponent)
    else if exponentBound ≤ exponent ∧ significand ≠ 0 then none
    else if significand = 0 then some 0.0
    else scaleFloat? significand (scale + exponent)

/-- The number that the numeral denotes, or `none` when its magnitude is too great. -/
def number? (n : Numeral) : Option Number :=
  let whole := natOfDigits 0 n.whole
  let isPlain := n.fraction.isNone && n.exponent.isNone
  if isPlain && !n.isNegative && whole < Nat.pow 2 64 then some (.integer whole)
  else if isPlain && n.isNegative && 0 < whole && whole ≤ Nat.pow 2 63 then some (.integer (-whole))
  else n.magnitude?.map fun x => .real (if n.isNegative then -x else x)

end Numeral

/-- The number of containers that a value may be nested in, itself included. -/
def maxDepth : Nat := 127

namespace Source

mutual

/-- The value of a tree whose containers are nested at most `depth` deep. -/
def value? : (depth : Nat) → Source → Option Json
  | _, null => some .null
  | _, bool b => some (.bool b)
  | _, numeral n => n.number?.map .number
  | _, string units => (decodeString? units).map .string
  | 0, array _ => none
  | depth + 1, array items => (items? depth items).map .array
  | 0, object _ => none
  | depth + 1, object fields =>
    (fields? depth fields).map fun fields => .object (Entries.ofList fields)

/-- The values of the items of an array. -/
def items? : (depth : Nat) → List Source → Option (List Json)
  | _, [] => some []
  | depth, item :: items =>
    match value? depth item, items? depth items with
    | some item, some items => some (item :: items)
    | _, _ => none

/-- The names and values of the fields of an object, as they stand. -/
def fields? : (depth : Nat) → List (List StringUnit × Source) → Option (List (Text × Json))
  | _, [] => some []
  | depth, (name, value) :: fields =>
    match decodeString? name, value? depth value, fields? depth fields with
    | some name, some value, some fields => some ((name, value) :: fields)
    | _, _, _ => none

end

end Source

/-- Reads a JSON value. -/
def read? (text : Text) : Option Json :=
  (Source.read? text).bind (Source.value? maxDepth)

end LocaleText.Json
