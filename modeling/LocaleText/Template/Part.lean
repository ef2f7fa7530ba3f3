import LocaleText.Text

/-!
# Parts of a template

A template is a list of parts: literal text, placeholders that show an argument, and plural blocks
that choose one of up to six alternatives by an argument. The alternatives of a block are written
in a row, and their number decides which plural category each of them serves
(`PluralForms.ofAlternatives`).
-/

namespace LocaleText

/-- A placeholder that shows one argument. -/
structure Placeholder where
  /-- The name or the position of the argument. -/
  key : Text
  /-- The type written after the key. -/
  typeTag : Option Text
  /-- Whether the key is marked with a question mark. -/
  isOptional : Bool
  /-- The formatting steps, to be applied from left to right. -/
  steps : List Text
  deriving DecidableEq, Repr

/-- The alternatives of a plural block, by plural category. -/
structure PluralForms where
  /-- The alternative for zero. -/
  zero : Option Text := none
  /-- The alternative for the category of one. -/
  one : Option Text := none
  /-- The alternative for the category of two. -/
  two : Option Text := none
  /-- The alternative for few. -/
  few : Option Text := none
  /-- The alternative for many. -/
  many : Option Text := none
  /-- The alternative for all else. -/
  other : Option Text := none
  deriving DecidableEq, Repr

/-- A placeholder that chooses one of several texts by an argument. -/
structure PluralBlock where
  /-- The name or the position of the argument. -/
  key : Text
  /-- The alternatives. -/
  forms : PluralForms
  deriving DecidableEq, Repr

/-- A part of a template. -/
inductive Part where
  /-- Text that stands for itself. -/
  | literal (text : Text)
  /-- An argument, formatted. -/
  | placeholder (placeholder : Placeholder)
  /-- A choice by an argument. -/
  | plural (block : PluralBlock)
  deriving DecidableEq, Repr

namespace PluralForms

/-- The most alternatives that a block may list. -/
def maxCount : Nat := 6

/-- Assigns alternatives to categories by how many were written: one serves `other`; two serve
`one, other`; three `zero, one, other`; four `zero, one, two, other`; five leave `other` out; six
serve all. No other number of alternatives makes a block. -/
def ofAlternatives : List Text → Option PluralForms
  | [a] => some { other := some a }
  | [a, b] => some { one := some a, other := some b }
  | [a, b, c] => some { zero := some a, one := some b, other := some c }
  | [a, b, c, d] => some { zero := some a, one := some b, two := some c, other := some d }
  | [a, b, c, d, e] =>
    some { zero := some a, one := some b, two := some c, few := some d, many := some e }
  | [a, b, c, d, e, f] =>
    some { zero := some a, one := some b, two := some c, few := some d, many := some e,
           other := some f }
  | _ => none

/-- Applies `f` to every slot. -/
def map (f : Option Text → Option Text) (forms : PluralForms) : PluralForms where
  zero := f forms.zero
  one := f forms.one
  two := f forms.two
  few := f forms.few
  many := f forms.many
  other := f forms.other

theorem ofAlternatives_isSome_iff {alternatives : List Text} :
    (ofAlternatives alternatives).isSome ↔
      1 ≤ alternatives.length ∧ alternatives.length ≤ maxCount := by
  match alternatives with
  | [] => simp [ofAlternatives]
  | [_] | [_, _] | [_, _, _] | [_, _, _, _] | [_, _, _, _, _] | [_, _, _, _, _, _] =>
    simp [ofAlternatives, maxCount]
  | _ :: _ :: _ :: _ :: _ :: _ :: _ :: rest =>
    simp only [ofAlternatives, Option.isSome_none, List.length_cons, maxCount]
    constructor
    · nofun
    · omega

end PluralForms

namespace Part

/-- The key of the argument that the part reads; literal text reads none. -/
def key? : Part → Option Text
  | literal _ => none
  | placeholder p => some p.key
  | plural block => some block.key

/-- Whether the part stands for itself. -/
def isLiteral : Part → Bool
  | literal _ => true
  | _ => false

/-- Whether the part is a plural block. -/
def isPlural : Part → Bool
  | plural _ => true
  | _ => false

end Part

/-- A template: its parts from left to right. -/
structure Template where
  /-- The parts. -/
  parts : List Part
  deriving DecidableEq, Repr

namespace Template

/-- Whether the template has no part. -/
def isEmpty (template : Template) : Bool :=
  template.parts.isEmpty

/-- Whether the template reads no argument. -/
def isLiteral (template : Template) : Bool :=
  template.parts.all Part.isLiteral

/-- Whether a plural block occurs in the template. -/
def isPlural (template : Template) : Bool :=
  template.parts.any Part.isPlural

/-- Appends to `seen` the names of `keys` that are not in it yet, in order. -/
def addNew (seen : List Text) : List Text → List Text
  | [] => seen
  | key :: keys => addNew (if key ∈ seen then seen else seen ++ [key]) keys

theorem addNew_nil (seen : List Text) : addNew seen [] = seen := rfl

theorem addNew_cons (seen : List Text) (key : Text) (keys : List Text) :
    addNew seen (key :: keys) = addNew (if key ∈ seen then seen else seen ++ [key]) keys := rfl

/-- The keys of the arguments that the template reads, each once, in order of first use. -/
def keys (template : Template) : List Text :=
  addNew [] (template.parts.filterMap Part.key?)

end Template
end LocaleText
