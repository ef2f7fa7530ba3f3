import LocaleText.Text.Blank
import Mathlib.Data.List.DropRight

/-!
# LocaleText.Proofs.Trimming

Trimming looks at the two ends of a text only: blanks put around a text are dropped again
(`trim_surround`), what has been trimmed is trimmed (`trimmed_trim`), and a character that is not
blank keeps the two ends apart (`trim_append_cons`).
-/

namespace LocaleText

namespace Text

theorem isBlankText_append {left right : Text} :
    isBlankText (left ++ right) = true ↔
      isBlankText left = true ∧ isBlankText right = true := by
  rw [isBlankText, List.all_append, Bool.and_eq_true]
  rfl

/-- A blank text holds only blanks. In particular it has none of the characters that have a meaning
in templates. -/
theorem not_mem_of_isBlankText {c : Char} {gap : Text} (blank : isBlankText gap = true)
    (notBlank : isBlank c = false) : c ∉ gap := by
  intro mem
  rw [List.all_eq_true.1 blank c mem] at notBlank
  cases notBlank

theorem trimLeft_append_of_blank {gap : Text} (blank : isBlankText gap = true) (text : Text) :
    trimLeft (gap ++ text) = trimLeft text := by
  have nothing : gap.dropWhile isBlank = [] := trimLeft_eq_nil_iff.2 blank
  rw [trimLeft, List.dropWhile_append, nothing]
  rfl

theorem trimRight_append_of_blank {gap : Text} (blank : isBlankText gap = true) (text : Text) :
    trimRight (text ++ gap) = trimRight text := by
  have reversed : isBlankText gap.reverse = true := by
    rw [isBlankText, List.all_reverse]
    exact blank
  rw [trimRight, List.reverse_append]
  exact congrArg List.reverse (trimLeft_append_of_blank reversed text.reverse)

theorem trim_append_of_blank {gap : Text} (blank : isBlankText gap = true) (text : Text) :
    trim (text ++ gap) = trim text := by
  cases left : trimLeft text with
  | nil =>
      have both := isBlankText_append.2 ⟨trimLeft_eq_nil_iff.1 left, blank⟩
      rw [trim_eq_nil_iff.2 both, trim, left]
      rfl
  | cons c cs =>
      have kept : trimLeft (text ++ gap) = trimLeft text ++ gap := by
        have stops : text.dropWhile isBlank = c :: cs := left
        rw [left, trimLeft, List.dropWhile_append, stops]
        rfl
      rw [trim, kept, trimRight_append_of_blank blank]
      rfl

/-- **Blanks around a text are dropped**, and nothing else. -/
theorem trim_surround {before after : Text} (blankBefore : isBlankText before = true)
    (blankAfter : isBlankText after = true) (text : Text) :
    trim (before ++ text ++ after) = trim text := by
  rw [trim_append_of_blank blankAfter, trim, trimLeft_append_of_blank blankBefore]
  rfl

/-- What has been trimmed starts with no blank: the end is trimmed last, and does not bring blanks
to the front. -/
theorem trimLeft_trim (text : Text) : trimLeft (trim text) = trim text := by
  cases left : trimLeft text with
  | nil =>
      rw [trim, left]
      rfl
  | cons c cs =>
      -- The first character left is not blank, and stays when the other end is trimmed.
      have notBlank : isBlank c = false := by
        have again : (c :: cs).dropWhile isBlank = c :: cs := by
          rw [← left]
          exact List.dropWhile_idempotent isBlank text
        cases blank : isBlank c with
        | false => rfl
        | true =>
            rw [List.dropWhile_cons, if_pos blank] at again
            have shorter := (List.dropWhile_sublist (l := cs) isBlank).length_le
            rw [again, List.length_cons] at shorter
            omega
      obtain ⟨rest, same⟩ := trim_cons_of_not_blank notBlank cs
      rw [trim, trimLeft_cons_of_not_blank notBlank] at same
      rw [trim, left, same]
      exact trimLeft_cons_of_not_blank notBlank rest

/-- What has been trimmed is trimmed. -/
theorem trimmed_trim (text : Text) : Trimmed (trim text) := by
  rw [Trimmed, trim, trimLeft_trim, trim, trimRight, trimRight, List.reverse_reverse]
  exact congrArg List.reverse (List.dropWhile_idempotent isBlank _)

/-- A text is trimmed when the characters at its two ends are not blank. The empty text has no ends,
and is trimmed. -/
theorem trimmed_iff {text : Text} :
    Trimmed text ↔
      (∀ c ∈ text.head?, isBlank c = false) ∧ ∀ c ∈ text.getLast?, isBlank c = false := by
  have left : trimLeft text = text ↔ ∀ c ∈ text.head?, isBlank c = false := by
    cases text with
    | nil => exact ⟨fun _ c mem => absurd mem (Option.not_mem_none c), fun _ => rfl⟩
    | cons c cs =>
        rw [trimLeft, List.dropWhile_eq_self_iff]
        simp
  have right : trimRight text = text ↔ ∀ c ∈ text.getLast?, isBlank c = false := by
    rcases List.eq_nil_or_concat text with rfl | ⟨front, c, rfl⟩
    · exact ⟨fun _ c mem => absurd mem (Option.not_mem_none c), fun _ => rfl⟩
    · refine Iff.trans List.rdropWhile_eq_self_iff ?_
      simp
  rw [← left, ← right]
  -- Trimming begins on the left; a text that loses nothing loses nothing on either side.
  constructor
  · intro h
    have stays : trimLeft text = text := by
      have again := trimLeft_trim text
      rwa [show trim text = text from h] at again
    refine ⟨stays, ?_⟩
    rw [Trimmed, trim, stays] at h
    exact h
  · intro h
    rw [Trimmed, trim, h.1, h.2]

/-! ### Around a character that is not blank -/

section Around

variable {c : Char} (notBlank : isBlank c = false) (left right : Text)

include notBlank in
theorem trimLeft_append_cons : trimLeft (left ++ c :: right) = trimLeft left ++ c :: right := by
  induction left with
  | nil => exact trimLeft_cons_of_not_blank notBlank right
  | cons head left ih =>
      cases blank : isBlank head with
      | true =>
          have dropped (rest : Text) : trimLeft (head :: rest) = trimLeft rest := by
            rw [trimLeft, List.dropWhile_cons, if_pos blank]
            rfl
          rw [List.cons_append, dropped, dropped, ih]
      | false =>
          rw [List.cons_append, trimLeft_cons_of_not_blank blank, trimLeft_cons_of_not_blank blank,
            List.cons_append]

include notBlank in
theorem trimRight_append_cons : trimRight (left ++ c :: right) = left ++ c :: trimRight right := by
  have turned : (left ++ c :: right).reverse = right.reverse ++ c :: left.reverse := by
    rw [List.reverse_append, List.reverse_cons, List.append_assoc, List.singleton_append]
  have kept := trimLeft_append_cons notBlank right.reverse left.reverse
  rw [trimRight, turned]
  rw [trimLeft] at kept
  rw [kept, List.reverse_append, List.reverse_cons, List.reverse_reverse, List.append_assoc,
    List.singleton_append]
  rfl

include notBlank in
/-- A character that is not blank keeps apart what is trimmed before and behind it, so that only the
outer ends of the two are trimmed. -/
theorem trim_append_cons :
    trim (left ++ c :: right) = trimLeft left ++ c :: trimRight right := by
  rw [trim, trimLeft_append_cons notBlank, trimRight_append_cons notBlank]

end Around

/-- Trimming the end drops blanks. -/
theorem exists_trimRight (text : Text) :
    ∃ gap, text = trimRight text ++ gap ∧ isBlankText gap = true := by
  refine ⟨(text.reverse.takeWhile isBlank).reverse, ?_, ?_⟩
  · rw [trimRight, ← List.reverse_append, List.takeWhile_append_dropWhile, List.reverse_reverse]
  · rw [isBlankText, List.all_reverse]
    exact List.all_takeWhile

end Text

end LocaleText
