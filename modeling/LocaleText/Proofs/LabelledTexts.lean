import LocaleText.Proofs.LabelledLists
import LocaleText.Proofs.Spellings

/-!
# LocaleText.Proofs.LabelledTexts

**Writing a labelled list.** A `LabelledText` is a label and a text that can stand in such a list:
behind its first comma outside braces the text has no colon, for that would start the next entry.
The written list falls into the stretches of its texts (`splitTop_writeList`), whatever bars, commas
and colons they hold, so that its entries are the ones written.

A plural block with such a list has the texts as its alternatives, in the slots that their number
gives them, or fails for their number (`labelled_block_reads`). Only a single text without a comma
makes no labelled list.
-/

namespace LocaleText

/-! ### Texts under labels -/

/-- No colon stands behind a comma outside braces. -/
def ColonsFirst (text : Text) : Prop :=
  ∀ front back, text = front ++ ',' :: back → Balanced front → ':' ∉ back

instance (text : Text) : Decidable (ColonsFirst text) :=
  decidable_of_iff _ forall_cut_iff.symm

/-- The stretches behind the first comma have no colon, so they continue the text. The comma at
which the first of them starts is outside braces, hence the front before it is balanced. -/
theorem ColonsFirst.not_mem_further {text : Text} (h : ColonsFirst text)
    (balanced : Balanced text) : ∀ stretch ∈ (topCuts ',' 0 text).2, ':' ∉ stretch := by
  intro stretch mem colon
  obtain ⟨⟨level, -⟩, -⟩ := topCuts_sound (by decide : ',' ≠ '{') (by decide) balanced
  have joined := intercalate_topCuts ',' 0 text
  cases further : (topCuts ',' 0 text).2 with
  | nil =>
      rw [further] at mem
      cases mem
  | cons second rest =>
      rw [further, List.intercalate_cons_cons, List.append_assoc, List.singleton_append] at joined
      rw [further] at mem
      exact h _ _ joined.symm level (mem_intercalate _ mem colon)

/-- None of the characters stands in the text. Stated for a list of characters, so that it can be
decided at once. -/
def Lacks (marks : List Char) (text : Text) : Prop :=
  ∀ c ∈ marks, c ∉ text

instance (marks : List Char) (text : Text) : Decidable (Lacks marks text) :=
  -- Named, because characters can also be searched all of them.
  List.decidableBAll _ marks

/-- A text under a label, as they can stand in a labelled list. Everything that the syntax asks of
the two is in the fields, so a list of these can be written without further conditions; bars,
question marks and braces in pairs may stand in the text. -/
structure LabelledText where
  /-- The label. -/
  label : Text
  /-- The text. -/
  text : Text
  /-- The label ends at the colon behind it, and no brace or comma stands in it. -/
  plain : Lacks [':', ',', '{', '}'] label
  /-- The text ends at a comma outside its braces. -/
  balanced : Balanced text
  /-- No colon in the text starts another entry. -/
  colonsFirst : ColonsFirst text

namespace LabelledText

/-- The label and the text as they are written. -/
def write (entry : LabelledText) : Text :=
  entry.label ++ ':' :: entry.text

/-- Texts under labels as they are written in a list. -/
def writeList (entries : List LabelledText) : Text :=
  List.intercalate [','] (entries.map write)

/-- The text under its label in stretches: it is cut at the commas outside its braces. -/
def toEntry (entry : LabelledText) : LabelledEntry where
  label := entry.label
  opening := (topCuts ',' 0 entry.text).1
  further := (topCuts ',' 0 entry.text).2
  noColon_label := entry.plain ':' (by decide)
  noColon_further := entry.colonsFirst.not_mem_further entry.balanced

variable (entry : LabelledText)

/-- Joined again, the stretches are the text. -/
theorem text_toEntry : entry.toEntry.text = entry.text :=
  intercalate_topCuts ',' 0 entry.text

/-- The stretches of the text, the label standing in front of the first. -/
theorem stretches_toEntry :
    entry.toEntry.stretches =
      ((entry.label ++ [':']) ++ (topCuts ',' 0 entry.text).1) :: (topCuts ',' 0 entry.text).2 := by
  rw [← List.append_cons]
  rfl

theorem write_eq : entry.write = List.intercalate [','] entry.toEntry.stretches := by
  rw [stretches_toEntry, intercalate_append_cons, intercalate_topCuts, ← List.append_cons]
  rfl

/-- The stretches are balanced, and have commas inside braces only. The label adds nothing to this,
for it has neither braces nor commas. -/
theorem stretches_sound :
    ∀ stretch ∈ entry.toEntry.stretches, Balanced stretch ∧ Shielded ',' stretch := by
  obtain ⟨⟨level, shielded⟩, further⟩ :=
    topCuts_sound (by decide : ',' ≠ '{') (by decide) entry.balanced
  have free : BraceFree (entry.label ++ [':']) :=
    BraceFree.append ⟨entry.plain '{' (by decide), entry.plain '}' (by decide)⟩ (by decide)
  have noComma : ',' ∉ entry.label ++ [':'] := by
    rw [List.mem_append, not_or]
    exact ⟨entry.plain ',' (by decide), by decide⟩
  rw [stretches_toEntry]
  exact List.forall_mem_cons.2 ⟨⟨free.balanced.append level,
    (shielded_of_not_mem noComma).append free.balanced shielded⟩, further⟩

/-! ### Reading the list -/

/-- The stretches of a written list. -/
def listStretches (entries : List LabelledText) : List Text :=
  (entries.map LabelledText.toEntry).flatMap LabelledEntry.stretches

/-- A written list is its stretches joined by commas: commas between entries are like those in
texts. -/
theorem writeList_eq (entries : List LabelledText) :
    writeList entries = List.intercalate [','] (listStretches entries) := by
  have notEmpty (entry : LabelledEntry) : entry.stretches ≠ [] := List.cons_ne_nil _ _
  rw [writeList, listStretches, intercalate_flatMap _ notEmpty, List.map_map]
  congr 1
  exact List.map_congr_left fun entry _ => entry.write_eq

/-- **A written list falls into the stretches of its texts.** The commas between its entries are
outside braces, and so are those at which a text was cut; all others are inside. -/
theorem piecesOf_writeList {entries : List LabelledText} (notEmpty : entries ≠ []) :
    PiecesOf ',' (writeList entries) (listStretches entries) := by
  have sound : ∀ stretch ∈ listStretches entries, Balanced stretch ∧ Shielded ',' stretch := by
    intro stretch mem
    obtain ⟨entry, here, mem⟩ := List.mem_flatMap.1 mem
    obtain ⟨written, -, rfl⟩ := List.mem_map.1 here
    exact written.stretches_sound stretch mem
  refine ⟨?_, (writeList_eq entries).symm, fun stretch mem => (sound stretch mem).1,
    fun stretch mem => (sound stretch mem).2⟩
  cases entries with
  | nil => exact absurd rfl notEmpty
  | cons entry entries => exact List.cons_ne_nil _ _

theorem balanced_writeList (entries : List LabelledText) : Balanced (writeList entries) := by
  cases entries with
  | nil => exact balanced_nil
  | cons entry entries =>
      have pieces := piecesOf_writeList (List.cons_ne_nil entry entries)
      rw [← pieces.joined]
      exact balanced_intercalate ',' (by decide) (by decide) pieces.balanced

theorem splitTop_writeList {entries : List LabelledText} (notEmpty : entries ≠ []) :
    splitTop ',' (writeList entries) = listStretches entries :=
  (splitTop_eq_iff (by decide) (by decide) (balanced_writeList entries)).2
    (piecesOf_writeList notEmpty)

/-- A text with a comma outside braces is continued: had it one stretch only, the comma would be
inside. -/
theorem further_ne_nil (comma : ¬Shielded ',' entry.text) : (topCuts ',' 0 entry.text).2 ≠ [] := by
  intro none
  obtain ⟨⟨-, shielded⟩, -⟩ := topCuts_sound (by decide : ',' ≠ '{') (by decide) entry.balanced
  have joined := intercalate_topCuts ',' 0 entry.text
  rw [none, List.intercalate_singleton] at joined
  rw [joined] at shielded
  exact comma shielded

/-- The list has a comma outside braces: two texts, or one with such a comma. A block takes a list
without one for alternatives between bars. -/
def Several (entries : List LabelledText) : Prop :=
  2 ≤ entries.length ∨ ∃ entry ∈ entries, ¬Shielded ',' entry.text

theorem Several.ne_nil {entries : List LabelledText} (several : Several entries) :
    entries ≠ [] := by
  rcases several with two | ⟨entry, mem, -⟩
  · exact List.ne_nil_of_length_pos (Nat.lt_of_lt_of_le Nat.zero_lt_two two)
  · exact List.ne_nil_of_mem mem

/-- A list with a comma is read as a labelled one when no bar comes before its first colon. What
stands in the texts does not matter for that. -/
theorem labelled_listStretches {entries : List LabelledText} (several : Several entries)
    (noBar : ∀ entry ∈ entries, '|' ∉ entry.label) :
    Alternatives.Labelled (listStretches entries) := by
  cases entries with
  | nil => exact absurd rfl several.ne_nil
  | cons first rest =>
      have more : first.toEntry.further ++ listStretches rest ≠ [] := by
        cases rest with
        | cons second rest => exact List.append_ne_nil_of_right_ne_nil _ (List.cons_ne_nil _ _)
        | nil =>
            rcases several with two | ⟨entry, mem, comma⟩
            · exact absurd two (by rw [List.length_singleton]; decide)
            · rw [List.mem_singleton.1 mem] at comma
              exact List.append_ne_nil_of_left_ne_nil (first.further_ne_nil comma) _
      obtain ⟨second, others, same⟩ := List.exists_cons_of_ne_nil more
      refine ⟨first.label ++ ':' :: first.toEntry.opening, second, others, ?_, first.label,
        first.toEntry.opening, rfl, first.plain ':' (by decide), noBar first List.mem_cons_self⟩
      rw [← same]
      rfl

/-- **The texts are read back** as they were written, blanks included and without their labels. -/
theorem read_writeList {entries : List LabelledText} (several : Several entries)
    (noBar : ∀ entry ∈ entries, '|' ∉ entry.label) :
    Alternatives.read (writeList entries) = entries.map LabelledText.text := by
  have split := splitTop_writeList several.ne_nil
  have labelled := labelled_listStretches several noBar
  have notBlank : Text.isBlankText (writeList entries) = false := by
    refine Alternatives.isBlankText_of_labelled ?_
    rw [split]
    exact labelled
  rw [Alternatives.read_of_labelled notBlank split labelled, listStretches,
    Alternatives.labelled_stretches, List.map_map]
  exact List.map_congr_left fun entry _ => entry.text_toEntry

end LabelledText

/-! ### Blocks with a labelled list -/

open LabelledText (Several writeList)
open PluralBlock (keyed)

namespace Template

/-- **A labelled list yields exactly its texts.** In a block with any key that is plain, texts under
labels are the alternatives, trimmed, each in the slot for its position, if there are at most six;
more of them are reported with their number and the body of the block.

The texts can be anything that a `LabelledText` allows. The list needs a comma, and no label may
hold a bar, for either would make it a list between bars. -/
theorem labelled_block_reads (options : ParseOptions) {key : Text} {entries : List LabelledText}
    (plainKey : Lacks [':', '|', '{', '}'] key) (several : Several entries)
    (noBar : ∀ entry ∈ entries, '|' ∉ entry.label) :
    (entries.length ≤ 6 →
      parse options (Segment.expression (keyed key (writeList entries))).write =
        .ok { parts := [.plural {
          key := Part.orElseKey (Text.trim key) Part.defaultKey
          forms := Item.forms options (entries.map fun entry => Text.trim entry.text) }] }) ∧
    (6 < entries.length →
      parse options (Segment.expression (keyed key (writeList entries))).write =
        .error (.pluralArity (keyed key (writeList entries)) entries.length)) := by
  have balanced := LabelledText.balanced_writeList entries
  have balancedBody : Balanced (keyed key (writeList entries)) :=
    PluralBlock.balanced_colon_list ⟨plainKey '{' (by decide), plainKey '}' (by decide)⟩
      balanced.enclose
  have least : 1 ≤ entries.length := List.length_pos_of_ne_nil several.ne_nil
  rw [parse_expression options balancedBody, Part.ofExpression_keyed plainKey balanced,
    LabelledText.read_writeList several noBar, List.length_map]
  refine ⟨fun most => ?_, fun tooMany => ?_⟩
  · rw [if_pos ⟨least, most⟩]
    show Except.ok (Template.mk [Part.tidy options (.plural _)]) = _
    rw [Item.tidy_plural, List.map_map]
    rfl
  · rw [if_neg (by omega)]
    rfl

/-- Texts with all the marks that a text can have, one of them under a blank label. -/
def markedTexts : List LabelledText :=
  [⟨" ".toList, " {p,q:r}: |, {s|t} ".toList, by decide, by decide, by decide⟩,
    ⟨"other".toList, "||".toList, by decide, by decide, by decide⟩]

/-- Seven times the same text. -/
def sevenTexts : List LabelledText :=
  List.replicate 7 ⟨"n".toList, "x".toList, by decide, by decide, by decide⟩

theorem labelled_block_reads_marked :
    (Lacks [':', '|', '{', '}'] " n, m".toList ∧ Several markedTexts ∧
      (∀ entry ∈ markedTexts, '|' ∉ entry.label) ∧ markedTexts.length ≤ 6 ∧
      parse { compact := false } "{ n, m:{ : {p,q:r}: |, {s|t} ,other:||}}".toList =
        .ok { parts := [.plural {
          key := "n, m".toList
          forms := { one := "{p,q:r}: |, {s|t}".toList, other := "||".toList } }] }) ∧
    Several sevenTexts ∧ (∀ entry ∈ sevenTexts, '|' ∉ entry.label) ∧ 6 < sevenTexts.length ∧
      parse { compact := false } "{:{n:x,n:x,n:x,n:x,n:x,n:x,n:x}}".toList =
        .error (.pluralArity ":{n:x,n:x,n:x,n:x,n:x,n:x,n:x}".toList 7) := by
  have plainKey : Lacks [':', '|', '{', '}'] " n, m".toList := by decide
  have two : Several markedTexts := Or.inl (by decide)
  have seven : Several sevenTexts := Or.inl (by decide)
  have noBar : ∀ entry ∈ markedTexts, '|' ∉ entry.label := by decide
  have noBar' : ∀ entry ∈ sevenTexts, '|' ∉ entry.label := by decide
  have few : markedTexts.length ≤ 6 := by decide
  have many : 6 < sevenTexts.length := by decide
  refine ⟨⟨plainKey, two, noBar, few, ?_⟩, seven, noBar', many, ?_⟩
  · exact (labelled_block_reads { compact := false } plainKey two noBar).1 few
  · have blank : Lacks [':', '|', '{', '}'] [] := by decide
    exact (labelled_block_reads { compact := false } blank seven noBar').2 many

end Template

end LocaleText
