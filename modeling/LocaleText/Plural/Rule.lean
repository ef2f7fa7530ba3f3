import LocaleText.Decimal.Shortest
import LocaleText.Plural.Category

/-!
# Plural rules

A language says for each plural category which numbers belong to it, by conditions on the digits of
the number: its integer part, its fraction and the length of the fraction. Numbers are written
without exponent and without trailing zeros, so no rule can tell apart more than these three.

`Rules.category` is total: numbers that are not finite, or whose integer part has more than 64 bits,
are not shown to the rules.
-/

namespace LocaleText

/-- The digits of a number, as plural rules see them. The sign is not among them. -/
structure Digits where
  /-- The integer part. -/
  whole : Nat
  /-- The fraction digits, read as an integer. -/
  fraction : Nat
  /-- The number of fraction digits. -/
  fractionLength : Nat
  deriving DecidableEq, Repr

namespace Digits

/-- The digits of a decimal. -/
def ofDecimal (d : Decimal) : Digits :=
  if 0 ≤ d.scale then ⟨d.digits * Nat.pow 10 d.scale.toNat, 0, 0⟩
  else
    let length := (-d.scale).toNat
    ⟨d.digits / Nat.pow 10 length, d.digits % Nat.pow 10 length, length⟩

/-- The digits of a magnitude. -/
def ofMagnitude (m : Magnitude) : Digits :=
  ofDecimal (Shortest.decimal .up m)

end Digits

namespace Plural

/-- What a condition looks at. -/
inductive Operand where
  /-- The number itself. -/
  | n
  /-- The integer part. -/
  | i
  /-- The number of fraction digits. -/
  | v
  /-- The fraction digits. -/
  | f
  deriving DecidableEq, Repr

/-- The value of an operand; a number with a fraction is no natural number. -/
def Operand.value? (digits : Digits) : Operand → Option Nat
  | n => if digits.fractionLength = 0 then some digits.whole else none
  | i => some digits.whole
  | v => some digits.fractionLength
  | f => some digits.fraction

/-- An operand, or its remainder, that has to lie in one of some ranges, or in none of them. -/
structure Relation where
  /-- What is looked at. -/
  operand : Operand
  /-- The divisor when the remainder is looked at. -/
  modulus : Option Nat
  /-- Whether the value has to lie in the ranges. -/
  isInside : Bool
  /-- The ranges, both ends included. -/
  ranges : List (Nat × Nat)
  deriving DecidableEq, Repr

/-- Whether the relation holds of a number. A value that is no natural number lies in no range. -/
def Relation.holds (digits : Digits) (r : Relation) : Bool :=
  let value := (r.operand.value? digits).map fun k =>
    match r.modulus with
    | some modulus => k % modulus
    | none => k
  let inside :=
    match value with
    | some k => r.ranges.any fun (low, high) => low ≤ k && k ≤ high
    | none => false
  inside == r.isInside

/-- Alternatives, each of them relations that have to hold together. -/
abbrev Condition := List (List Relation)

/-- Whether the condition holds of a number. -/
def Condition.holds (digits : Digits) (c : Condition) : Bool :=
  List.any c fun relations => relations.all (Relation.holds digits)

/-- The plural rules of a language: the condition of each category but the last, which takes all
other numbers. -/
structure Rules where
  /-- The numbers of the category zero. -/
  zero : Condition := []
  /-- The numbers of the category one. -/
  one : Condition := []
  /-- The numbers of the category two. -/
  two : Condition := []
  /-- The numbers of the category few. -/
  few : Condition := []
  /-- The numbers of the category many. -/
  many : Condition := []

namespace Rules

/-- The condition of a category. -/
def condition (rules : Rules) : Category → Condition
  | .zero => rules.zero
  | .one => rules.one
  | .two => rules.two
  | .few => rules.few
  | .many => rules.many
  | .other => [[]]

/-- The first category whose condition holds. -/
def categoryOf (rules : Rules) (digits : Digits) : Category :=
  (Category.all.find? fun category => (rules.condition category).holds digits).getD .other

/-- The bound of the integers that rules are asked about. -/
def integerBound : Nat := Nat.pow 2 64

/-- The category of a number. -/
def category (rules : Rules) : Selector := fun x =>
  match Magnitude.ofFloat? x with
  | none => .other
  | some m =>
    let digits := Digits.ofMagnitude m
    if digits.whole < integerBound then rules.categoryOf digits else .other

end Rules
end Plural
end LocaleText
