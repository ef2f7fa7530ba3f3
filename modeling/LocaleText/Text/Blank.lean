import LocaleText.Text

/-!
# Blank characters and trimming

Blank characters are those with the Unicode property White_Space. `Text.trim` drops them at both
ends of a text and nowhere else; a text is `Trimmed` when there is nothing to drop.
-/

namespace LocaleText

/-- The characters with the property White_Space. The last group is a range of the general
punctuation block, from the en quad to the hair space. -/
def isBlank (c : Char) : Bool :=
  ('\t' ≤ c && c ≤ '\r') || c == ' ' || c == '\u0085' || c == '\u00a0' || c == '\u1680'
    || ('\u2000' ≤ c && c ≤ '\u200a') || c == '\u2028' || c == '\u2029' || c == '\u202f'
    || c == '\u205f' || c == '\u3000'

namespace Text

/-- `text` without its leading blanks. -/
def trimLeft (text : Text) : Text :=
  text.dropWhile isBlank

/-- `text` without its trailing blanks. -/
def trimRight (text : Text) : Text :=
  (text.reverse.dropWhile isBlank).reverse

/-- `text` without the blanks at its two ends. -/
def trim (text : Text) : Text :=
  trimRight (trimLeft text)

/-- A text is blank when every character of it is. -/
def isBlankText (text : Text) : Bool :=
  text.all isBlank

/-- A text is trimmed when it neither starts nor ends with a blank. -/
def Trimmed (text : Text) : Prop :=
  trim text = text

instance (text : Text) : Decidable (Trimmed text) :=
  inferInstanceAs (Decidable (trim text = text))

theorem trimLeft_eq_nil_iff {text : Text} : trimLeft text = [] ↔ isBlankText text = true := by
  induction text with
  | nil => simp [trimLeft, isBlankText]
  | cons c cs ih =>
    by_cases h : isBlank c
    · simp_all [trimLeft, isBlankText]
    · simp [trimLeft, isBlankText, h]

/-- Only a blank text is trimmed away. -/
theorem trim_eq_nil_iff {text : Text} : trim text = [] ↔ isBlankText text = true := by
  have right (cs : Text) : trimRight cs = [] ↔ isBlankText cs = true := by
    rw [trimRight, List.reverse_eq_nil_iff, isBlankText, ← List.all_reverse]
    exact trimLeft_eq_nil_iff
  rw [trim, right, trimLeft, isBlankText, List.all_eq_true]
  constructor
  · intro h
    -- The blanks in front are blank, and so is all that comes after them.
    rw [isBlankText, List.all_eq_true, ← List.takeWhile_append_dropWhile (p := isBlank) (l := text)]
    intro c mem
    rcases List.mem_append.1 mem with mem | mem
    · exact List.all_eq_true.1 List.all_takeWhile c mem
    · exact h c mem
  · intro h c mem
    exact List.all_eq_true.1 h c ((List.dropWhile_sublist _).subset mem)

theorem trimLeft_cons_of_not_blank {c : Char} (h : isBlank c = false) (cs : Text) :
    trimLeft (c :: cs) = c :: cs := by
  rw [trimLeft, List.dropWhile_cons, h]
  rfl

theorem trimRight_concat_of_not_blank {c : Char} (h : isBlank c = false) (cs : Text) :
    trimRight (cs ++ [c]) = cs ++ [c] := by
  rw [trimRight, List.reverse_append, List.reverse_singleton, List.singleton_append,
    List.dropWhile_cons, h, if_neg Bool.false_ne_true, List.reverse_cons, List.reverse_reverse]

/-- A first character that is not blank stays in front. -/
theorem trim_cons_of_not_blank {c : Char} (h : isBlank c = false) (cs : Text) :
    ∃ rest, trim (c :: cs) = c :: rest := by
  rw [trim, trimLeft_cons_of_not_blank h, trimRight, List.reverse_cons, List.dropWhile_append,
    List.dropWhile_cons, h]
  split
  · exact ⟨[], rfl⟩
  · exact ⟨(cs.reverse.dropWhile isBlank).reverse, by rw [List.reverse_append]; rfl⟩

/-- A text between two characters that are not blank is trimmed. -/
theorem trimmed_of_not_blank {c d : Char} (hc : isBlank c = false) (hd : isBlank d = false)
    (inner : Text) : Trimmed (c :: (inner ++ [d])) := by
  rw [Trimmed, trim, trimLeft_cons_of_not_blank hc]
  exact trimRight_concat_of_not_blank hd (c :: inner)

/-- A trimmed text that is not empty is not blank. -/
theorem Trimmed.isBlankText_eq_false {text : Text} (h : Trimmed text) (notEmpty : text ≠ []) :
    isBlankText text = false := by
  cases blank : isBlankText text with
  | false => rfl
  | true =>
      rw [Trimmed, trim, trimLeft_eq_nil_iff.2 blank] at h
      exact absurd h.symm notEmpty

end Text
end LocaleText
