import LocaleText.Text

/-!
# Nesting of braces

`nesting? d text` is the number of braces open after `text` when `d` were open before it, and `none`
when `text` closes a brace that is not open. A text is `Balanced` when it leads from no open brace
to no open brace. Two cuts respect nesting: `splitTop` cuts at the separators outside all braces,
and `unbrace?` takes off one pair of braces that encloses the whole text.

Whatever reads a text by splitting it leaves the splitting to a `Splitter`, an effect that sees what
is split and in which order. The splitter in use, `Splitter.plain`, does nothing but split.

The splitter closes no brace below level zero; on a balanced text that never comes up, which is
what `nesting?` is there to say.
-/

namespace LocaleText

/-- The number of open braces after `text` when `depth` are open before it, or `none` when a brace
closes that is not open. -/
def nesting? : (depth : Nat) → Text → Option Nat
  | depth, [] => some depth
  | depth, c :: cs =>
    if c = '{' then nesting? (depth + 1) cs
    else if c = '}' then
      match depth with
      | 0 => none
      | outer + 1 => nesting? outer cs
    else nesting? depth cs

/-- Every brace of the text has its partner, in the right order. -/
def Balanced (text : Text) : Prop :=
  nesting? 0 text = some 0

instance (text : Text) : Decidable (Balanced text) :=
  inferInstanceAs (Decidable (nesting? 0 text = some 0))

/-- No brace at all occurs in the text. -/
def BraceFree (text : Text) : Prop :=
  '{' ∉ text ∧ '}' ∉ text

instance (text : Text) : Decidable (BraceFree text) :=
  inferInstanceAs (Decidable (_ ∧ _))

/-- The stretches of a text between the occurrences of `sep` outside braces, the first one apart,
when `depth` braces are open before it. -/
def topCuts (sep : Char) : (depth : Nat) → Text → Text × List Text
  | _, [] => ([], [])
  | depth, c :: cs =>
    if c = '{' then
      let (first, others) := topCuts sep (depth + 1) cs
      (c :: first, others)
    else if c = '}' then
      let (first, others) := topCuts sep (depth - 1) cs
      (c :: first, others)
    else
      let (first, others) := topCuts sep depth cs
      if c = sep ∧ depth = 0 then ([], first :: others) else (c :: first, others)

/-- The stretches of `text` between the occurrences of `sep` outside braces; always at least one. -/
def splitTop (sep : Char) (text : Text) : List Text :=
  let (first, others) := topCuts sep 0 text
  first :: others

/-- How a reader takes texts apart. -/
structure Splitter (m : Type → Type) where
  /-- The stretches of a text between the occurrences of a character outside braces. -/
  split : Char → Text → m (List Text)
  /-- The text that a list of labelled texts starts with when its first stretch has no label. -/
  unlabelled : Text → m Text

/-- Splits and does nothing else; a first stretch without a label is itself a text. -/
def Splitter.plain : Splitter Id where
  split := splitTop
  unlabelled fragment := fragment

/-- The inside of `text` when its first `{` is matched by its last `}`. -/
def unbrace? : Text → Option Text
  | [] => none
  | c :: cs =>
    if c = '{' ∧ cs.getLast? = some '}' ∧ Balanced cs.dropLast then some cs.dropLast else none

theorem nesting?_append (depth : Nat) (left right : Text) :
    nesting? depth (left ++ right) = (nesting? depth left).bind (nesting? · right) := by
  induction left generalizing depth with
  | nil => simp [nesting?]
  | cons c cs ih =>
    simp only [List.cons_append, nesting?]
    split
    · exact ih _
    · split
      · cases depth with
        | zero => rfl
        | succ outer => exact ih _
      · exact ih _

theorem splitTop_ne_nil (sep : Char) (text : Text) : splitTop sep text ≠ [] := by
  simp [splitTop]

/-- Exactly the texts in one enclosing pair of braces are unwrapped, and the inside is balanced. -/
theorem unbrace?_eq_some_iff {text inner : Text} :
    unbrace? text = some inner ↔ text = '{' :: (inner ++ ['}']) ∧ Balanced inner := by
  cases text with
  | nil => simp [unbrace?]
  | cons c cs =>
    simp only [unbrace?, Option.ite_none_right_eq_some, Option.some.injEq, List.cons.injEq]
    constructor
    · rintro ⟨⟨rfl, last, balanced⟩, rfl⟩
      obtain ⟨front, rfl⟩ := List.getLast?_eq_some_iff.1 last
      simpa using balanced
    · rintro ⟨⟨rfl, rfl⟩, balanced⟩
      simpa using balanced

end LocaleText
