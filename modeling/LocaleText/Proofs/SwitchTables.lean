import LocaleText.Proofs.LabelledTexts

/-!
# LocaleText.Proofs.SwitchTables

**Tables are read back, and answer exactly.** Texts under labels that are written as a table are
read back as its cases when nothing is trimmed away from them (`LabelledText.Snug`). Reading trims
both ends of a text, and the end of what stands in front of its first comma outside braces, because
a case is trimmed before it is continued.

What a table says of a value is stated without a search (`Switch.Answers`): the first case under the
value, else the first under the wildcard, else nothing. Looking the value up finds that answer
(`Switch.find?_eq_iff`), for tables of any size, with labels repeated and wildcards anywhere.
-/

namespace LocaleText

/-! ### What a table says -/

namespace Switch

variable {cases : List SwitchCase} {value : Text}

/-- What a table with these cases says of a value. The cases exclude each other; a value that is
itself the wildcard is answered like any other. -/
inductive Answers (cases : List SwitchCase) (value : Text) : Option Text → Prop
  /-- The first case under the value counts. -/
  | own (before after : List SwitchCase) {text : Text} :
      cases = before ++ ⟨value, text⟩ :: after → (∀ earlier ∈ before, earlier.label ≠ value) →
      Answers cases value (some text)
  /-- Without one, the first case under the wildcard does. -/
  | wild (before after : List SwitchCase) {text : Text} :
      (∀ entry ∈ cases, entry.label ≠ value) → cases = before ++ ⟨wildcard, text⟩ :: after →
      (∀ earlier ∈ before, earlier.label ≠ wildcard) → Answers cases value (some text)
  /-- Without either, the table says nothing. -/
  | silent : (∀ entry ∈ cases, entry.label ≠ value ∧ entry.label ≠ wildcard) →
      Answers cases value none

/-- The case that is found under a label is the first one. -/
theorem caseFor?_eq_some_iff {switch : Switch} {label text : Text} :
    switch.caseFor? label = some text ↔
      ∃ before after, switch.cases = before ++ ⟨label, text⟩ :: after ∧
        ∀ earlier ∈ before, earlier.label ≠ label := by
  rw [caseFor?, Option.map_eq_some_iff]
  constructor
  · intro h
    obtain ⟨⟨found, _⟩, here, rfl⟩ := h
    obtain ⟨same, before, after, parts, others⟩ := List.find?_eq_some_iff_append.1 here
    rw [decide_eq_true_eq] at same
    subst same
    refine ⟨before, after, parts, fun earlier mem => ?_⟩
    simpa using others earlier mem
  · intro h
    obtain ⟨before, after, parts, others⟩ := h
    refine ⟨⟨label, text⟩, List.find?_eq_some_iff_append.2 ⟨?_, before, after, parts, ?_⟩, rfl⟩
    · exact decide_eq_true rfl
    · intro earlier mem
      simpa using others earlier mem

theorem caseFor?_eq_none_iff {switch : Switch} {label : Text} :
    switch.caseFor? label = none ↔ ∀ entry ∈ switch.cases, entry.label ≠ label := by
  rw [caseFor?, Option.map_eq_none_iff, List.find?_eq_none]
  simp only [decide_eq_true_eq, ne_eq]

/-- Looking a value up finds something that the table says of it. -/
theorem answers_find? (switch : Switch) (value : Text) :
    Answers switch.cases value (switch.find? value) := by
  rw [find?]
  cases own : switch.caseFor? value with
  | some text =>
      obtain ⟨before, after, parts, others⟩ := caseFor?_eq_some_iff.1 own
      exact Answers.own before after parts others
  | none =>
      have noOwn := caseFor?_eq_none_iff.1 own
      cases wild : switch.caseFor? wildcard with
      | some text =>
          obtain ⟨before, after, parts, others⟩ := caseFor?_eq_some_iff.1 wild
          exact Answers.wild before after noOwn parts others
      | none =>
          have noWild := caseFor?_eq_none_iff.1 wild
          exact Answers.silent fun entry mem => ⟨noOwn entry mem, noWild entry mem⟩

/-- **Looking a value up** finds what the table says of it, and that is one answer. One direction is
`answers_find?`; for the other, each of the answers determines what is found. -/
theorem find?_eq_iff {switch : Switch} {value : Text} {answer : Option Text} :
    switch.find? value = answer ↔ Answers switch.cases value answer := by
  constructor
  · intro same
    rw [← same]
    exact answers_find? switch value
  · intro due
    rw [find?]
    cases due with
    | own before after parts others =>
        rw [caseFor?_eq_some_iff.2 ⟨before, after, parts, others⟩]
        rfl
    | wild before after noOwn parts others =>
        rw [caseFor?_eq_none_iff.2 noOwn, caseFor?_eq_some_iff.2 ⟨before, after, parts, others⟩]
        rfl
    | silent noCase =>
        rw [caseFor?_eq_none_iff.2 fun entry mem => (noCase entry mem).1,
          caseFor?_eq_none_iff.2 fun entry mem => (noCase entry mem).2]
        rfl

/-- Only a text in one pair of braces is a table. What stands between the two must not close the
first, nor leave any open. -/
theorem parse?_eq_none_iff {text : Text} :
    parse? text = none ↔
      ¬∃ inner, Text.trim text = '{' :: (inner ++ ['}']) ∧
        (∀ front, front <+: inner → front.count '}' ≤ front.count '{') ∧
        inner.count '{' = inner.count '}' := by
  simp only [parse?_eq, Option.map_eq_none_iff, ← balanced_iff_count, ← unbrace?_eq_some_iff,
    ← Option.isSome_iff_exists, Option.not_isSome_iff_eq_none]

end Switch

/-! ### Writing a table -/

namespace LabelledText

/-- Nothing of the label or the text is trimmed away when they are read as a case. Blanks may stand
anywhere else, also behind commas. -/
structure Snug (entry : LabelledText) : Prop where
  /-- The label neither starts nor ends with a blank. -/
  trimmed_label : Text.Trimmed entry.label
  /-- Nor does the text. -/
  trimmed_text : Text.Trimmed entry.text
  /-- No blank stands directly before the first comma outside braces. -/
  closed : ∀ front back, entry.text = front ++ ',' :: back → Balanced front ∧ Shielded ',' front →
    ∀ c ∈ front.getLast?, isBlank c = false

instance (entry : LabelledText) : Decidable entry.Snug :=
  -- Named, because characters can also be searched all of them.
  haveI (front : Text) : Decidable (∀ c ∈ front.getLast?, isBlank c = false) :=
    Option.decidableForallMem front.getLast?
  decidable_of_iff
    (Text.Trimmed entry.label ∧ Text.Trimmed entry.text ∧
      ∀ i < entry.text.length, entry.text[i]? = some ',' →
        Balanced (entry.text.take i) ∧ Shielded ',' (entry.text.take i) →
          ∀ c ∈ (entry.text.take i).getLast?, isBlank c = false)
    ⟨fun h => ⟨h.1, h.2.1, forall_cut_iff.2 h.2.2⟩,
      fun h => ⟨h.trimmed_label, h.trimmed_text, forall_cut_iff.1 h.closed⟩⟩

/-- A text under its label as a case. -/
def asCase (entry : LabelledText) : SwitchCase where
  label := entry.label
  text := entry.text

/-- Trimming up to the first comma keeps all of a snug text. The stretch in front of that comma
starts like the text, and ends before the comma. -/
theorem Snug.trim_opening {entry : LabelledText} (snug : entry.Snug) :
    Text.trim entry.toEntry.opening = entry.toEntry.opening := by
  obtain ⟨balanced, shielded, rest, whole, comma⟩ :=
    topCuts_fst (by decide : ',' ≠ '{') (by decide) entry.balanced
  have trimmed := snug.trimmed_text
  show Text.Trimmed (topCuts ',' 0 entry.text).1
  generalize (topCuts ',' 0 entry.text).1 = opening at balanced shielded whole
  cases rest with
  | nil =>
      rw [whole, List.append_nil] at trimmed
      exact trimmed
  | cons c back =>
      rw [comma c rfl] at whole
      have last := snug.closed opening back whole ⟨balanced, shielded⟩
      have first := (Text.trimmed_iff.1 trimmed).1
      refine Text.trimmed_iff.2 ⟨fun d mem => first d ?_, last⟩
      rw [whole, List.head?_append, mem]
      rfl

theorem Snug.switchCase_toEntry {entry : LabelledText} (snug : entry.Snug) :
    entry.toEntry.switchCase = entry.asCase := by
  have label : Text.trim entry.toEntry.label = entry.label := snug.trimmed_label
  have text : List.intercalate [','] (entry.toEntry.opening :: entry.toEntry.further) =
      entry.text := entry.text_toEntry
  rw [LabelledEntry.switchCase, label, snug.trim_opening, text]
  rfl

/-- Texts under labels as they are written in a table. -/
def writeTable (entries : List LabelledText) : Text :=
  '{' :: (writeList entries ++ ['}'])

/-- **A table is read back** as the cases that were written. There has to be one: a list of none has
a stretch, too, which is empty and no entry. -/
theorem parse?_writeTable {entries : List LabelledText} (notEmpty : entries ≠ [])
    (snug : ∀ entry ∈ entries, entry.Snug) :
    Switch.parse? (writeTable entries) = some { cases := entries.map asCase } := by
  have cases : Switch.casesOf (splitTop ',' (writeList entries)) = entries.map asCase := by
    rw [splitTop_writeList notEmpty, listStretches, Switch.casesOf_stretches, List.map_map]
    exact List.map_congr_left fun entry mem => (snug entry mem).switchCase_toEntry
  rw [writeTable, Switch.parse?_braced (balanced_writeList entries), cases]

end LabelledText

/-- **Switch tables are exact.** Texts under labels that are written as a table are read back as so
many cases, if there is at least one and none would lose blanks. The table then answers as the cases
written say, for every value: with the first case under the value, or else under the wildcard, or
not at all.

Nothing is a table but one pair of braces around balanced text, blanks around it aside; this is said
of every text, written as a table or not. -/
theorem switch_tables_are_exact :
    (∀ entries : List LabelledText, entries ≠ [] → (∀ entry ∈ entries, entry.Snug) →
      ∃ switch, Switch.parse? (LabelledText.writeTable entries) = some switch ∧
        switch.size = entries.length ∧
        ∀ value answer, switch.find? value = answer ↔
          Switch.Answers (entries.map LabelledText.asCase) value answer) ∧
    ∀ text, Switch.parse? text = none ↔
      ¬∃ inner, Text.trim text = '{' :: (inner ++ ['}']) ∧
        (∀ front, front <+: inner → front.count '}' ≤ front.count '{') ∧
        inner.count '{' = inner.count '}' := by
  refine ⟨fun entries notEmpty snug => ?_, fun text => Switch.parse?_eq_none_iff⟩
  refine ⟨_, LabelledText.parse?_writeTable notEmpty snug, List.length_map _, ?_⟩
  exact fun value answer => Switch.find?_eq_iff

/-- A table with a label and the wildcard twice, and an empty label. -/
def crowdedTable : List LabelledText :=
  [⟨"*".toList, "any".toList, by decide, by decide, by decide⟩,
    ⟨"a".toList, "{p ,q:r}, s".toList, by decide, by decide, by decide⟩,
    ⟨"a".toList, "again".toList, by decide, by decide, by decide⟩,
    ⟨[], [], by decide, by decide, by decide⟩,
    ⟨"*".toList, "later".toList, by decide, by decide, by decide⟩]

theorem switch_tables_are_exact_crowded :
    (crowdedTable ≠ [] ∧ (∀ entry ∈ crowdedTable, entry.Snug) ∧
      ∃ switch, Switch.parse? "{*:any,a:{p ,q:r}, s,a:again,:,*:later}".toList = some switch ∧
        switch.size = 5 ∧ switch.find? "a".toList = some "{p ,q:r}, s".toList ∧
        switch.find? [] = some [] ∧ switch.find? "b".toList = some "any".toList) ∧
    ∃ switch, Switch.parse? "{a:{p ,q:r}, s}".toList = some switch ∧
      switch.find? "b".toList = none ∧ Switch.parse? "{a:x}{b:y}".toList = none := by
  obtain ⟨tables, others⟩ := switch_tables_are_exact
  have notEmpty : crowdedTable ≠ [] := List.cons_ne_nil _ _
  have snug : ∀ entry ∈ crowdedTable, entry.Snug := by decide
  refine ⟨⟨notEmpty, snug, ?_⟩, ?_⟩
  · obtain ⟨switch, read, size, asks⟩ := tables crowdedTable notEmpty snug
    refine ⟨switch, read, size, (asks _ _).2 ?_, (asks _ _).2 ?_, (asks _ _).2 ?_⟩
    · exact .own ((crowdedTable.take 1).map LabelledText.asCase) _ rfl (by decide)
    · exact .own ((crowdedTable.take 3).map LabelledText.asCase) _ rfl (by decide)
    · exact .wild [] _ (by decide) rfl (by decide)
  · obtain ⟨switch, read, -, asks⟩ := tables [crowdedTable[1]] (List.cons_ne_nil _ _) (by decide)
    refine ⟨switch, read, (asks _ _).2 (.silent (by decide)), (others _).2 ?_⟩
    -- What stands between the outer braces closes the first of them.
    intro group
    obtain ⟨inner, same, covered, -⟩ := group
    have whole : Text.trim "{a:x}{b:y}".toList =
        '{' :: ("a:x\x7d\x7bb:y".toList ++ ['}']) := by decide
    rw [whole] at same
    rw [← List.append_cancel_right (List.cons.inj same).2] at covered
    exact absurd (covered "a:x\x7d".toList (by decide)) (by decide)

end LocaleText
