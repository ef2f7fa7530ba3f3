import LocaleText.Formatter.Switch
import LocaleText.Proofs.Alternatives
import LocaleText.Proofs.Trimming

/-!
# LocaleText.Proofs.LabelledLists

**Lists of texts under labels.** A list `label:text, label:text` is read in two places: as the
alternatives of a plural block, for which the labels only mark where a text starts, and as the cases
of a switch table. Both readers go through its stretches between commas, and a stretch without a
colon continues the text before it. A `LabelledEntry` is an entry of such a list in its stretches.
Every list that starts with a label is made of entries (`exists_entries`), and what each reader
makes of an entry is one lemma (`labelled_stretches`, `casesOf_stretches`).

The two do not treat blanks alike. An alternative is read whole and trimmed later; the text of a
case is trimmed before it is continued, so it loses the blanks in front of its first comma and keeps
those at its end. The readers agree on the texts that have none there
(`labelled_readers_compared`).
-/

namespace LocaleText

/-! ### Entries -/

/-- An entry of a labelled list: the stretch that opens with its label, and those that continue its
text. The two conditions are what makes the entry readable: they say that no other cut into entries
is possible. -/
structure LabelledEntry where
  /-- The label. -/
  label : Text
  /-- The text up to its first comma. -/
  opening : Text
  /-- The stretches that continue the text. -/
  further : List Text
  /-- The label ends at the first colon. -/
  noColon_label : ':' ∉ label
  /-- A stretch with a colon would start an entry of its own. -/
  noColon_further : ∀ stretch ∈ further, ':' ∉ stretch

namespace LabelledEntry

/-- The stretches of the entry. -/
def stretches (entry : LabelledEntry) : List Text :=
  (entry.label ++ ':' :: entry.opening) :: entry.further

/-- The text of the entry as it is written, commas included, with the blanks around each of its
stretches. -/
def text (entry : LabelledEntry) : Text :=
  List.intercalate [','] (entry.opening :: entry.further)

/-- The entry as a case of a switch table. The text is trimmed up to its first comma only: that is
what has been read when it is trimmed, and the rest is added afterwards. -/
def switchCase (entry : LabelledEntry) : SwitchCase where
  label := Text.trim entry.label
  text := List.intercalate [','] (Text.trim entry.opening :: entry.further)

/-- The label is what stands before the first colon of the entry. -/
theorem cut?_stretch (entry : LabelledEntry) :
    Text.cut? ':' (entry.label ++ ':' :: entry.opening) = some (entry.label, entry.opening) :=
  Text.cut?_eq_some_iff.2 ⟨rfl, entry.noColon_label⟩

/-- Any stretches are a continuation and the entries behind it. A stretch with a colon takes the
continuation that the stretches behind it begin with; one without a colon is added to it. -/
theorem exists_continuation (pieces : List Text) :
    ∃ (further : List Text) (entries : List LabelledEntry),
      pieces = further ++ entries.flatMap stretches ∧ ∀ stretch ∈ further, ':' ∉ stretch := by
  induction pieces with
  | nil => exact ⟨[], [], rfl, fun stretch mem => absurd mem List.not_mem_nil⟩
  | cons stretch rest ih =>
      obtain ⟨further, entries, rfl, noColon⟩ := ih
      by_cases colon : ':' ∈ stretch
      · -- What continued nothing so far belongs to the entry that starts here.
        obtain ⟨label, opening, rfl, noColonLabel⟩ := List.eq_append_cons_of_mem colon
        refine ⟨[], ⟨label, opening, further, noColonLabel, noColon⟩ :: entries, rfl,
          fun stretch mem => absurd mem List.not_mem_nil⟩
      · exact ⟨stretch :: further, entries, rfl, List.forall_mem_cons.2 ⟨colon, noColon⟩⟩

/-- **Every labelled list is made of entries.** The first stretch has a colon; otherwise the list
would open with a continuation of nothing. -/
theorem exists_entries {first : Text} (colon : ':' ∈ first) (others : List Text) :
    ∃ entry entries,
      first :: others = (entry :: entries : List LabelledEntry).flatMap stretches := by
  obtain ⟨further, entries, rfl, noColon⟩ := exists_continuation others
  obtain ⟨label, opening, rfl, noColonLabel⟩ := List.eq_append_cons_of_mem colon
  exact ⟨⟨label, opening, further, noColonLabel, noColon⟩, entries, rfl⟩

end LabelledEntry

/-! ### The two readers -/

namespace Alternatives

open LabelledEntry (stretches)

/-- Stretches without a colon continue the text under way, each behind the comma that it was cut at.
-/
theorem labelledFrom_append {further : List Text} (noColon : ∀ stretch ∈ further, ':' ∉ stretch)
    (current : Text) (rest : List Text) :
    labelledFrom current (further ++ rest) =
      labelledFrom (List.intercalate [','] (current :: further)) rest := by
  induction further generalizing current with
  | nil => rw [List.nil_append, List.intercalate_singleton]
  | cons stretch further ih =>
      obtain ⟨here, later⟩ := List.forall_mem_cons.1 noColon
      rw [List.cons_append, labelledFrom, Text.cut?_eq_none_iff.2 here]
      have joined : current ++ ',' :: stretch = current ++ [','] ++ stretch := by
        rw [List.append_assoc, List.singleton_append]
      show labelledFrom (current ++ ',' :: stretch) (further ++ rest) = _
      rw [ih later, joined, intercalate_merge]

/-- The reader returns the text under way when the next label comes, and starts over. -/
theorem labelledFrom_stretches (current : Text) (entries : List LabelledEntry) :
    labelledFrom current (entries.flatMap stretches) =
      current :: entries.map LabelledEntry.text := by
  induction entries generalizing current with
  | nil => rfl
  | cons entry entries ih =>
      rw [List.flatMap_cons, stretches, List.cons_append, labelledFrom, entry.cut?_stretch]
      show current :: labelledFrom entry.opening (entry.further ++ _) = _
      rw [labelledFrom_append entry.noColon_further, ih]
      rfl

/-- **Alternatives** are the texts of the entries as they are written. Labels are dropped. -/
theorem labelled_stretches (entries : List LabelledEntry) :
    labelled (entries.flatMap stretches) = entries.map LabelledEntry.text := by
  cases entries with
  | nil => rfl
  | cons entry entries =>
      rw [List.flatMap_cons, stretches, List.cons_append, labelled_cons, entry.cut?_stretch]
      show labelledFrom entry.opening (entry.further ++ _) = _
      rw [labelledFrom_append entry.noColon_further, labelledFrom_stretches]
      rfl

end Alternatives

namespace Switch

open LabelledEntry (stretches)

/-- Stretches without a colon continue the case under way. They are added as they are, behind a text
that has been trimmed. -/
theorem casesFrom_append {further : List Text} (noColon : ∀ stretch ∈ further, ':' ∉ stretch)
    (label text : Text) (rest : List Text) :
    casesFrom label text (further ++ rest) =
      casesFrom label (List.intercalate [','] (text :: further)) rest := by
  induction further generalizing text with
  | nil => rw [List.nil_append, List.intercalate_singleton]
  | cons stretch further ih =>
      obtain ⟨here, later⟩ := List.forall_mem_cons.1 noColon
      rw [List.cons_append, casesFrom, Text.cut?_eq_none_iff.2 here]
      have joined : text ++ ',' :: stretch = text ++ [','] ++ stretch := by
        rw [List.append_assoc, List.singleton_append]
      show casesFrom label (text ++ ',' :: stretch) (further ++ rest) = _
      rw [ih later, joined, intercalate_merge]

theorem casesFrom_stretches (label text : Text) (entries : List LabelledEntry) :
    casesFrom label text (entries.flatMap stretches) =
      ⟨label, text⟩ :: entries.map LabelledEntry.switchCase := by
  induction entries generalizing label text with
  | nil => rfl
  | cons entry entries ih =>
      rw [List.flatMap_cons, stretches, List.cons_append, casesFrom, entry.cut?_stretch]
      show ⟨label, text⟩ :: casesFrom _ (Text.trim entry.opening) (entry.further ++ _) = _
      rw [casesFrom_append entry.noColon_further, ih]
      rfl

/-- **Cases** are the entries, each text trimmed up to its first comma. Entries with equal labels
all stay; which one is used is decided when a value is looked up. -/
theorem casesOf_stretches (entries : List LabelledEntry) :
    casesOf (entries.flatMap stretches) = entries.map LabelledEntry.switchCase := by
  cases entries with
  | nil => rfl
  | cons entry entries =>
      rw [List.flatMap_cons, stretches, List.cons_append, casesOf, entry.cut?_stretch]
      show casesFrom _ (Text.trim entry.opening) (entry.further ++ _) = _
      rw [casesFrom_append entry.noColon_further, casesFrom_stretches]
      rfl

/-- A balanced list in braces is read as a table, whatever it lists. The braces themselves keep
blanks away from its ends. -/
theorem parse?_braced {list : Text} (balanced : Balanced list) :
    parse? ('{' :: (list ++ ['}'])) = some { cases := casesOf (splitTop ',' list) } := by
  have trimmed : Text.trim ('{' :: (list ++ ['}'])) = '{' :: (list ++ ['}']) :=
    Text.trimmed_of_not_blank (by decide) (by decide) list
  rw [parse?_eq, trimmed, unbrace?_eq_some_iff.2 ⟨rfl, balanced⟩]
  rfl

end Switch

/-! ### Lists that are read both ways -/

namespace Alternatives

/-- A labelled list is not blank: it has a colon. -/
theorem isBlankText_of_labelled {list : Text} (labelled : Labelled (splitTop ',' list)) :
    Text.isBlankText list = false := by
  obtain ⟨first, second, others, split, label, text, rfl, -, -⟩ := labelled
  have joined : List.intercalate [','] (splitTop ',' list) = list := intercalate_topCuts ',' 0 list
  rw [split, List.intercalate_cons_cons, List.append_assoc, List.append_assoc] at joined
  rw [← joined, Bool.eq_false_iff]
  intro blank
  refine Text.not_mem_of_isBlankText blank (by decide : isBlank ':' = false) ?_
  exact List.mem_append_right label List.mem_cons_self

/-- The entries of a labelled list, and the alternatives that are read from it. -/
theorem exists_entries_of_labelled {list : Text} (labelled : Labelled (splitTop ',' list)) :
    ∃ entries : List LabelledEntry, splitTop ',' list = entries.flatMap LabelledEntry.stretches ∧
      read list = entries.map LabelledEntry.text := by
  have alternatives := read_of_labelled (isBlankText_of_labelled labelled) rfl labelled
  obtain ⟨first, second, others, split, label, text, rfl, -, -⟩ := labelled
  have colon : ':' ∈ label ++ ':' :: text := List.mem_append_right label List.mem_cons_self
  obtain ⟨entry, entries, same⟩ := LabelledEntry.exists_entries colon (second :: others)
  rw [split, same, labelled_stretches] at alternatives
  exact ⟨entry :: entries, split.trans same, alternatives⟩

end Alternatives

/-- The text has no blanks that only one of the readers drops: none between its first comma and what
stands before that, and none at its end. A text without a comma is always tight, for then both
readers trim all of it. -/
def LabelledEntry.Tight (entry : LabelledEntry) : Prop :=
  entry.further ≠ [] →
    Text.trim entry.opening = Text.trimLeft entry.opening ∧ Text.trimRight entry.text = entry.text

/-- Both readers make the same of a text exactly when it is tight. One side trims the text up to its
first comma and leaves the rest, the other trims the whole; the comma keeps the two ends apart. -/
theorem LabelledEntry.tight_iff (entry : LabelledEntry) :
    entry.switchCase.text = Text.trim entry.text ↔ entry.Tight := by
  rw [Tight, switchCase, text]
  cases entry.further with
  | nil =>
      rw [List.intercalate_singleton, List.intercalate_singleton]
      exact ⟨fun _ more => absurd rfl more, fun _ => rfl⟩
  | cons stretch further =>
      have comma : isBlank ',' = false := by decide
      simp only [List.intercalate_cons_cons, List.append_assoc, List.singleton_append]
      generalize List.intercalate [','] (stretch :: further) = rest
      rw [Text.trim_append_cons comma, Text.trimRight_append_cons comma]
      constructor
      · intro same _
        -- Any blanks dropped before the comma would have to be the comma.
        obtain ⟨gap, before, blank⟩ := Text.exists_trimRight (Text.trimLeft entry.opening)
        rw [Text.trim, before, List.append_assoc, ← before] at same
        have behind := List.append_cancel_left same
        cases gap with
        | nil =>
            rw [List.append_nil] at before
            rw [Text.trim, ← before, ← (List.cons.inj behind).2]
            exact ⟨rfl, rfl⟩
        | cons c gap =>
            rw [← (List.cons.inj behind).1] at blank
            cases blank
      · intro tight
        obtain ⟨before, after⟩ := tight (List.cons_ne_nil _ _)
        rw [before, (List.cons.inj (List.append_cancel_left after)).2]

/-- **The two readers compared.** A balanced list that starts with a label and has a comma is made
of entries. As the list of a block, its alternatives are their texts as they are written; as the
list of a switch table, its cases have their labels, and their texts with the part before the first
comma trimmed.

Alternatives are trimmed when the template is tidied. The cases have the texts of the alternatives,
trimmed, exactly when all texts are tight. Lists without a comma are left out, since a block reads
these by their bars. -/
theorem labelled_readers_compared {list : Text} (balanced : Balanced list)
    (labelled : Alternatives.Labelled (splitTop ',' list)) :
    ∃ (entries : List LabelledEntry) (switch : Switch),
      splitTop ',' list = entries.flatMap LabelledEntry.stretches ∧
      Alternatives.read list = entries.map LabelledEntry.text ∧
      Switch.parse? ('{' :: (list ++ ['}'])) = some switch ∧
      switch.cases = entries.map LabelledEntry.switchCase ∧
      (switch.cases.map SwitchCase.text = (Alternatives.read list).map Text.trim ↔
        ∀ entry ∈ entries, entry.Tight) := by
  obtain ⟨entries, split, alternatives⟩ := Alternatives.exists_entries_of_labelled labelled
  have table : Switch.casesOf (splitTop ',' list) = entries.map LabelledEntry.switchCase := by
    rw [split, Switch.casesOf_stretches]
  refine ⟨entries, _, split, alternatives, Switch.parse?_braced balanced, table, ?_⟩
  show (Switch.casesOf (splitTop ',' list)).map SwitchCase.text = _ ↔ _
  rw [table, alternatives, List.map_map, List.map_map, List.map_inj_left]
  exact forall₂_congr fun entry _ => entry.tight_iff

/-- A list with blanks on both sides of a comma that belongs to a text, and behind it. -/
def spacedList : Text := "a: one , two ,b:x".toList

theorem labelled_spacedList :
    Balanced spacedList ∧ Alternatives.Labelled (splitTop ',' spacedList) :=
  ⟨by decide, "a: one ".toList, " two ".toList, ["b:x".toList], by decide, "a".toList,
    " one ".toList, by decide⟩

theorem labelled_readers_compared_spaced :
    Balanced spacedList ∧ Alternatives.Labelled (splitTop ',' spacedList) ∧
      ∃ entries : List LabelledEntry,
        splitTop ',' spacedList = entries.flatMap LabelledEntry.stretches ∧
        entries.map LabelledEntry.text = [" one , two ".toList, "x".toList] ∧
        entries.map LabelledEntry.switchCase =
          [⟨"a".toList, "one, two ".toList⟩, ⟨"b".toList, "x".toList⟩] ∧
        ¬∀ entry ∈ entries, entry.Tight := by
  obtain ⟨balanced, labelled⟩ := labelled_spacedList
  obtain ⟨entries, switch, split, alternatives, table, found, agree⟩ :=
    labelled_readers_compared balanced labelled
  have texts : Alternatives.read spacedList = [" one , two ".toList, "x".toList] := by decide
  have read : Switch.parse? ('{' :: (spacedList ++ ['}'])) =
      some { cases := [⟨"a".toList, "one, two ".toList⟩, ⟨"b".toList, "x".toList⟩] } := by decide
  rw [read, Option.some.injEq] at table
  subst table
  refine ⟨balanced, labelled, entries, split, alternatives.symm.trans texts, found.symm, ?_⟩
  rw [← agree, texts]
  decide

/-- **The readers disagree** on a text with blanks before its first comma and at its end: the case
has lost the one and kept the other, while the alternative keeps the one and loses the other. -/
theorem case_loses_blank_before_comma :
    ¬∀ list, Balanced list → Alternatives.Labelled (splitTop ',' list) →
      ∃ switch, Switch.parse? ('{' :: (list ++ ['}'])) = some switch ∧
        switch.cases.map SwitchCase.text = (Alternatives.read list).map Text.trim := by
  intro agree
  obtain ⟨balanced, labelled⟩ := labelled_spacedList
  obtain ⟨switch, read, same⟩ := agree spacedList balanced labelled
  have table : Switch.parse? ('{' :: (spacedList ++ ['}'])) =
      some { cases := [⟨"a".toList, "one, two ".toList⟩, ⟨"b".toList, "x".toList⟩] } := by decide
  rw [table, Option.some.injEq] at read
  rw [← read] at same
  revert same
  decide

end LocaleText
