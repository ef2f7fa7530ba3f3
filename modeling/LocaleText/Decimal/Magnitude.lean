/-!
# The magnitude of a binary floating-point number

A finite double is a sign and a magnitude `mantissa · 2 ^ exponent` with integers on both sides.
Everything that this library has to know exactly about a double (whether it has a fraction, which
decimals read back as it) is a question about that pair, so `Magnitude.ofFloat?` takes the number
apart once and the rest is integer arithmetic.
-/

namespace LocaleText

/-- The rational `mantissa · 2 ^ exponent`. -/
structure Magnitude where
  /-- The integer factor. -/
  mantissa : Nat
  /-- The power of two. -/
  exponent : Int
  deriving DecidableEq, Repr

namespace Magnitude

/-- The exponent of the least positive double. -/
def leastExponent : Int := -1074

/-- The mantissa of the least normal double, and of every power of two above it. -/
def hiddenBit : Nat := Nat.pow 2 52

/-- The magnitude of a double, or `none` when it is infinite or not a number. -/
def ofFloat? (x : Float) : Option Magnitude :=
  let bits := x.toBits.toNat
  let fraction : Nat := bits % Nat.pow 2 52
  let biased : Nat := bits / Nat.pow 2 52 % Nat.pow 2 11
  if biased = 2047 then none
  else if biased = 0 then some ⟨fraction, leastExponent⟩
  else some ⟨hiddenBit + fraction, leastExponent + ((biased : Int) - 1)⟩

/-- The magnitude as a natural number, or `none` when it has a fraction. -/
def whole? (m : Magnitude) : Option Nat :=
  if 0 ≤ m.exponent then some (m.mantissa * Nat.pow 2 m.exponent.toNat)
  else
    let unit := Nat.pow 2 (-m.exponent).toNat
    if m.mantissa % unit = 0 then some (m.mantissa / unit) else none

end Magnitude

/-- Whether a double has its sign bit set. -/
def signBit (x : Float) : Bool :=
  x.toBits.toNat ≥ Nat.pow 2 63

end LocaleText
