import LocaleText.Decimal.Magnitude

/-!
# The shortest decimal that reads back

Of the decimals that lie close enough to a double to read back as it, `Shortest.decimal` picks one
with the fewest digits, and of those the nearest. The reals that read back as `m · 2 ^ e` form an
interval that reaches half way to the neighbouring doubles; below a power of two the neighbour is
twice as close. The ends belong to the interval when the mantissa is even, because a tie between two
doubles goes to the even one.

For each number of digits the value has two neighbours on the grid of decimals with that many
digits, and if the interval holds any point of the grid then it holds one of these two, so two tests
per number of digits decide. Seventeen digits always suffice. A tie between the two neighbours is
left to the format that asks.
-/

namespace LocaleText

/-- The decimal `digits · 10 ^ scale`. -/
structure Decimal where
  /-- The digits, read as a number. -/
  digits : Nat
  /-- The power of ten. -/
  scale : Int
  deriving DecidableEq, Repr

namespace Shortest

/-- Which of two decimals at the same distance is taken. -/
inductive Tie where
  /-- The one whose last digit is even. -/
  | toEven
  /-- The greater one. -/
  | up
  deriving DecidableEq, Repr

/-- A value and the interval around it that reads back as it, all three over one denominator. -/
structure Interval where
  /-- The numerator of the lower end. -/
  low : Nat
  /-- The numerator of the value. -/
  value : Nat
  /-- The numerator of the upper end. -/
  high : Nat
  /-- The common denominator. -/
  unit : Nat
  /-- Whether the ends belong to the interval. -/
  closed : Bool

/-- The interval of the reals that read back as `m`. -/
def Interval.of (m : Magnitude) : Interval :=
  let scaled (n : Nat) : Nat := if 2 ≤ m.exponent then n * Nat.pow 2 (m.exponent - 2).toNat else n
  let below :=
    if m.mantissa = Magnitude.hiddenBit ∧ Magnitude.leastExponent < m.exponent then 1 else 2
  { low := scaled (4 * m.mantissa - below)
    value := scaled (4 * m.mantissa)
    high := scaled (4 * m.mantissa + 2)
    unit := Nat.pow 2 (2 - m.exponent).toNat
    closed := m.mantissa % 2 == 0 }

/-- Compares `numerator / unit` with `digits · 10 ^ scale`, both sides multiplied out. -/
def sides (numerator unit digits : Nat) (scale : Int) : Nat × Nat :=
  (numerator * Nat.pow 10 (-scale).toNat, digits * Nat.pow 10 scale.toNat * unit)

/-- Whether the decimal lies in the interval. -/
def Interval.holds (i : Interval) (d : Decimal) : Bool :=
  let (low, point) := sides i.low i.unit d.digits d.scale
  let (high, _) := sides i.high i.unit d.digits d.scale
  if i.closed then low ≤ point && point ≤ high else low < point && point < high

/-- The exponent of the leading digit of a positive `numerator / unit`: the estimate from the binary
logarithm is at most one off. -/
def leadingExponent (numerator unit : Nat) : Int :=
  let guess := (((numerator.log2 : Int) - unit.log2) * 30103).fdiv 100000
  let reaches (e : Int) : Bool :=
    let (value, power) := sides numerator unit 1 e
    power ≤ value
  if reaches (guess + 1) then guess + 1
  else if reaches guess then guess
  else guess - 1

/-- The decimal that reads back among those whose last digit stands for `10 ^ scale`, if there is
one: the nearer of the value's two neighbours that lies in the interval. -/
def Interval.onGrid? (tie : Tie) (i : Interval) (scale : Int) : Option Decimal :=
  let (value, unit) := sides i.value i.unit 1 scale
  let floor : Decimal := ⟨value / unit, scale⟩
  let ceil : Decimal := ⟨value / unit + 1, scale⟩
  match i.holds floor, i.holds ceil with
  | false, false => none
  | true, false => some floor
  | false, true => some ceil
  | true, true =>
    match compare (2 * (value % unit)) unit with
    | .lt => some floor
    | .gt => some ceil
    | .eq =>
      match tie with
      | .up => some ceil
      | .toEven => if floor.digits % 2 == 0 then some floor else some ceil

/-- Drops trailing zeros of the digits, at most `count` of them. -/
def dropZeros : (count : Nat) → Decimal → Decimal
  | 0, d => d
  | count + 1, d =>
    if d.digits % 10 = 0 then dropZeros count ⟨d.digits / 10, d.scale + 1⟩ else d

/-- The nearest of the shortest decimals that read back as `m`; zero for zero. -/
def decimal (tie : Tie) (m : Magnitude) : Decimal :=
  if m.mantissa = 0 then ⟨0, 0⟩
  else
    let i := Interval.of m
    let leading := leadingExponent i.value i.unit
    let found := (List.range 17).findSome? fun (n : Nat) => i.onGrid? tie (leading - n)
    dropZeros 18 (found.getD ⟨m.mantissa, m.exponent⟩)

end Shortest
end LocaleText
