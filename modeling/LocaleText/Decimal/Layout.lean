import LocaleText.Decimal.Shortest
import LocaleText.Text

/-!
# Writing doubles

A double is written with its shortest digits in one of two ways: positional, or with one digit
before the point and a power of ten behind. A `Layout` records which exponents are written
positionally and what else a format decides; the digits are the same for all formats, ties apart.
-/

namespace LocaleText

/-- How a format writes doubles. -/
structure Layout where
  /-- The exponents of the leading digit that are written positionally; all of them if `none`. -/
  positional : Option (Int × Int)
  /-- Whether a whole number in positional notation gets a fraction `.0`. -/
  wholeFraction : Bool
  /-- Which of two shortest decimals at the same distance is written. -/
  tie : Shortest.Tie

namespace Layout

/-- Digits in positional notation, where `scale` is the power of ten of the last one. -/
def positionalText (layout : Layout) (digits : Text) (scale : Int) : Text :=
  let point := digits.length + scale
  if 0 ≤ scale then
    digits ++ List.replicate scale.toNat '0' ++ (if layout.wholeFraction then ['.', '0'] else [])
  else if 0 < point then
    digits.take point.toNat ++ '.' :: digits.drop point.toNat
  else
    '0' :: '.' :: (List.replicate (-point).toNat '0' ++ digits)

/-- Digits with a power of ten, where `exponent` belongs to the leading one. -/
def exponentText (digits : Text) (exponent : Int) : Text :=
  let mantissa :=
    match digits with
    | [] => []
    | [digit] => [digit]
    | digit :: fraction => digit :: '.' :: fraction
  mantissa ++ 'e' :: (if exponent < 0 then '-' else '+') :: Text.ofNat exponent.natAbs

/-- The text of a finite magnitude. -/
def magnitudeText (layout : Layout) (m : Magnitude) : Text :=
  let decimal := Shortest.decimal layout.tie m
  let digits := Text.ofNat decimal.digits
  let exponent := digits.length + decimal.scale - 1
  let isPositional :=
    match layout.positional with
    | none => true
    | some (least, greatest) => least ≤ exponent && exponent ≤ greatest
  if isPositional then layout.positionalText digits decimal.scale
  else exponentText digits exponent

/-- The text of a double. -/
def write (layout : Layout) (x : Float) : Text :=
  match Magnitude.ofFloat? x with
  | some m => (if signBit x then ['-'] else []) ++ layout.magnitudeText m
  | none =>
    if x.isNaN then "NaN".toList
    else if signBit x then "-inf".toList else "inf".toList

/-- Doubles are displayed positionally, whole ones without a fraction, and a tie goes up. -/
def display : Layout :=
  { positional := none, wholeFraction := false, tie := .up }

/-- JSON text shows a double as one: by a fraction from `0.00001` to below `10 ^ 16`, and by an
exponent elsewhere. A tie goes to the even digit. -/
def json : Layout :=
  { positional := some (-5, 15), wholeFraction := true, tie := .toEven }

end Layout
end LocaleText
