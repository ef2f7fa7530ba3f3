import LocaleText.Text

/-!
# Plural categories

The six categories into which languages sort numbers, and what chooses among them. Plural rules are
a parameter of rendering: a selector is any function from numbers to categories, and whatever is no
number is passed to it as not-a-number.
-/

namespace LocaleText

/-- A plural category. -/
inductive Category where
  | zero | one | two | few | many | other
  deriving DecidableEq, Repr

namespace Category

/-- All categories, in the order in which rules are tried. -/
def all : List Category :=
  [zero, one, two, few, many, other]

/-- The name of a category. -/
def name : Category → Text
  | zero => "zero".toList
  | one => "one".toList
  | two => "two".toList
  | few => "few".toList
  | many => "many".toList
  | other => "other".toList

/-- The category of that name. -/
def ofName? (name : Text) : Option Category :=
  all.find? fun category => category.name = name

end Category

/-- Plural rules. -/
abbrev Selector := Float → Category

end LocaleText
