import LocaleText.Proofs.Pieces
import LocaleText.Template.Alternatives

/-!
# LocaleText.Proofs.Alternatives

How many alternatives a list writes, said without the reader: `Counts list count` looks at the
pieces between commas and between bars outside braces only. The reader returns exactly that many
(`counts_iff`), none of them exactly for a blank list (`Counts.eq_zero_iff`), and of a list between
bars it returns the pieces themselves (`read_intercalate`).
-/

namespace LocaleText

namespace Alternatives

/-! ### Labels -/

/-- The fragment has a colon, and no bar before it. A bar in front of the colon belongs to a list
between bars, whose alternatives may hold colons of their own, so it does not end a label. -/
def OpensWithLabel (fragment : Text) : Prop :=
  ∃ label text, fragment = label ++ ':' :: text ∧ ':' ∉ label ∧ '|' ∉ label

/-- The test that the reader makes is the condition: the first cut at a colon, if there is one,
leaves the label in front of it. -/
theorem hasLabel_iff {fragment : Text} : hasLabel fragment = true ↔ OpensWithLabel fragment := by
  unfold hasLabel OpensWithLabel
  cases h : Text.cut? ':' fragment with
  | none =>
      constructor
      · nofun
      · intro h
        obtain ⟨label, text, rfl, -, -⟩ := h
        exact absurd (List.mem_append_right label List.mem_cons_self) (Text.cut?_eq_none_iff.1 h)
  | some cut =>
      obtain ⟨label, text⟩ := cut
      obtain ⟨rfl, noColon⟩ := Text.cut?_eq_some_iff.1 h
      simp only [Bool.not_eq_true', List.contains_eq_mem, decide_eq_false_iff_not]
      constructor
      · intro noBar
        exact ⟨label, text, rfl, noColon, noBar⟩
      · intro h
        obtain ⟨label', text', same, noColon', noBar'⟩ := h
        have again : Text.cut? ':' (label ++ ':' :: text) = some (label', text') :=
          Text.cut?_eq_some_iff.2 ⟨same, noColon'⟩
        rw [h, Option.some.injEq, Prod.mk.injEq] at again
        rw [again.1]
        exact noBar'

/-- The pieces between commas make a labelled list. There have to be two of them: a single piece
with a colon is an alternative that happens to hold a colon. -/
def Labelled (fragments : List Text) : Prop :=
  ∃ first second others, fragments = first :: second :: others ∧ OpensWithLabel first

/-! ### Counting -/

/-- The number of pieces that have a colon. -/
def labels (fragments : List Text) : Nat :=
  fragments.countP fun fragment => ':' ∈ fragment

/-- A piece with a colon starts an alternative, whatever stands on the two sides of the colon. -/
theorem labels_cons_of_colon (label text : Text) (fragments : List Text) :
    labels ((label ++ ':' :: text) :: fragments) = labels fragments + 1 := by
  rw [labels, List.countP_cons_of_pos (by simp)]
  rfl

theorem labels_cons_of_not_mem {fragment : Text} (noColon : ':' ∉ fragment)
    (fragments : List Text) : labels (fragment :: fragments) = labels fragments := by
  rw [labels, List.countP_cons_of_neg (by simpa using noColon)]
  rfl

/-- The number of alternatives that a list writes: none when it is blank; in a labelled list, one
for every piece between commas that has a colon; else one for every piece between bars. The pieces
are those outside braces (`PiecesOf`), so nothing here depends on how the reader finds them. -/
inductive Counts (list : Text) : Nat → Prop
  | blank : Text.isBlankText list = true → Counts list 0
  | labelled {fragments : List Text} : Text.isBlankText list = false →
      PiecesOf ',' list fragments → Labelled fragments →
      Counts list (labels fragments)
  | piped {fragments pieces : List Text} : Text.isBlankText list = false →
      PiecesOf ',' list fragments → ¬Labelled fragments → PiecesOf '|' list pieces →
      Counts list pieces.length

/-- Only a blank list writes no alternative: a labelled list has at least its first label, and
cutting at bars always leaves a piece. -/
theorem Counts.eq_zero_iff {list : Text} {count : Nat} (h : Counts list count) :
    count = 0 ↔ Text.isBlankText list = true := by
  cases h with
  | blank blank => exact ⟨fun _ => blank, fun _ => rfl⟩
  | labelled notBlank pieces labelled =>
      obtain ⟨first, second, others, rfl, label, text, rfl, -, -⟩ := labelled
      rw [notBlank, labels_cons_of_colon]
      constructor
      · intro h; exact absurd h (Nat.succ_ne_zero _)
      · nofun
  | piped notBlank fragments unlabelled pieces =>
      rw [notBlank, List.length_eq_zero_iff]
      constructor
      · intro h; exact absurd h pieces.ne_nil
      · nofun

/-! ### What the reader returns -/

/-- Each piece with a colon starts a text; the others continue one. The text under way counts for
one, and it may be any, because a piece without a colon changes it. -/
theorem length_labelledFrom (current : Text) (fragments : List Text) :
    (labelledFrom current fragments).length = labels fragments + 1 := by
  induction fragments generalizing current with
  | nil => rfl
  | cons fragment fragments ih =>
      rw [labelledFrom]
      cases h : Text.cut? ':' fragment with
      | none =>
          rw [labels_cons_of_not_mem (Text.cut?_eq_none_iff.1 h)]
          exact ih _
      | some cut =>
          obtain ⟨label, text⟩ := cut
          obtain ⟨rfl, -⟩ := Text.cut?_eq_some_iff.1 h
          rw [labels_cons_of_colon, ← ih text]
          rfl

/-- As the first piece has a label, the reader takes up its text, so that every text of the result
has a label of its own. -/
theorem length_labelled {first : Text} (label : OpensWithLabel first) (others : List Text) :
    (labelled (first :: others)).length = labels (first :: others) := by
  obtain ⟨label, text, rfl, noColon, -⟩ := label
  have cut : Text.cut? ':' (label ++ ':' :: text) = some (label, text) :=
    Text.cut?_eq_some_iff.2 ⟨rfl, noColon⟩
  rw [labelled_cons, cut, labels_cons_of_colon]
  exact length_labelledFrom text others

/-- The reader on a labelled list. Nothing is left to a first piece without a label, which the
reader would take for a text. -/
theorem read_of_labelled {list : Text} (notBlank : Text.isBlankText list = false)
    {fragments : List Text} (split : splitTop ',' list = fragments) (h : Labelled fragments) :
    read list = labelled fragments := by
  obtain ⟨first, second, others, rfl, label⟩ := h
  rw [read_eq, notBlank, split]
  simp only [hasLabel_iff.2 label, if_true, if_false, Bool.false_eq_true]

/-- The reader on any other list that is not blank: one without a comma outside braces, or with a
bar in front of its first colon. -/
theorem read_of_unlabelled {list : Text} (notBlank : Text.isBlankText list = false)
    {fragments : List Text} (split : splitTop ',' list = fragments) (h : ¬Labelled fragments) :
    read list = splitTop '|' list := by
  rw [read_eq, notBlank, split, if_neg Bool.false_ne_true]
  match fragments with
  | [] | [_] => rfl
  | first :: second :: others =>
      have noLabel : hasLabel first = false := by
        rw [Bool.eq_false_iff]
        exact fun label => h ⟨first, second, others, rfl, hasLabel_iff.1 label⟩
      simp only [noLabel, if_false, Bool.false_eq_true]

/-- **The reader counts right**, in both notations. On a balanced list the cuts are the pieces
(`splitTop_eq_iff`), and which notation it is depends on the pieces between commas alone. -/
theorem counts_length_read {list : Text} (balanced : Balanced list) :
    Counts list (read list).length := by
  cases blank : Text.isBlankText list with
  | true =>
      rw [read_eq, blank, if_pos rfl]
      exact Counts.blank blank
  | false =>
      have commas : PiecesOf ',' list (splitTop ',' list) :=
        (splitTop_eq_iff (by decide) (by decide) balanced).1 rfl
      have bars : PiecesOf '|' list (splitTop '|' list) :=
        (splitTop_eq_iff (by decide) (by decide) balanced).1 rfl
      by_cases h : Labelled (splitTop ',' list)
      · rw [read_of_labelled blank rfl h]
        obtain ⟨first, second, others, same, label⟩ := id h
        rw [same, length_labelled label, ← same]
        exact Counts.labelled blank commas h
      · rw [read_of_unlabelled blank rfl h]
        exact Counts.piped blank commas h bars

/-- A list writes one number of alternatives, and that is what the reader returns. From left to
right the pieces that `Counts` speaks of are the ones that the reader cuts, since a balanced list
has no others. -/
theorem counts_iff {list : Text} (balanced : Balanced list) {count : Nat} :
    Counts list count ↔ count = (read list).length := by
  constructor
  · intro h
    cases h with
    | blank blank => rw [read_eq, blank, if_pos rfl]; rfl
    | labelled notBlank commas h =>
        have split := (splitTop_eq_iff (by decide) (by decide) balanced).2 commas
        rw [read_of_labelled notBlank split h]
        obtain ⟨first, second, others, rfl, label⟩ := h
        exact (length_labelled label _).symm
    | piped notBlank commas h bars =>
        have split := (splitTop_eq_iff (by decide) (by decide) balanced).2 commas
        rw [read_of_unlabelled notBlank split h,
          (splitTop_eq_iff (by decide) (by decide) balanced).2 bars]
  · intro same
    rw [same]
    exact counts_length_read balanced

/-! ### Lists between bars -/

/-- **Alternatives between bars are read back** when the first has no colon: then no comma makes
the list a labelled one, because a bar comes before every colon. -/
theorem read_intercalate {first : Text} {others : List Text}
    (notBlank : Text.isBlankText (List.intercalate ['|'] (first :: others)) = false)
    (balanced : ∀ text ∈ first :: others, Balanced text)
    (shielded : ∀ text ∈ first :: others, Shielded '|' text) (noColon : ':' ∉ first) :
    read (List.intercalate ['|'] (first :: others)) = first :: others := by
  have commas : PiecesOf ',' _ _ := (splitTop_eq_iff (by decide) (by decide)
    (balanced_intercalate '|' (by decide) (by decide) balanced)).1 rfl
  have unlabelled : ¬Labelled (splitTop ',' (List.intercalate ['|'] (first :: others))) := by
    intro h
    obtain ⟨_, second, rest, same, label, text, rfl, -, noBar⟩ := h
    have joined := commas.joined
    rw [same, List.intercalate_cons_cons, List.append_assoc, List.append_assoc] at joined
    cases others with
    | nil =>
        rw [List.intercalate_singleton] at joined
        exact noColon (joined ▸ List.mem_append_right label List.mem_cons_self)
    | cons next others =>
        -- The first colon stands behind the first bar, so the label would hold that bar.
        rw [List.intercalate_cons_cons, List.append_assoc] at joined
        exact noBar (Text.mem_of_cut noColon (by decide) joined.symm)
  rw [read_of_unlabelled notBlank rfl unlabelled, splitTop,
    topCuts_intercalate (by decide) (by decide) balanced shielded]

end Alternatives

end LocaleText
