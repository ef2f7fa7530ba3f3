import LocaleText.Plural.Category
import LocaleText.Proofs.Alternatives
import LocaleText.Proofs.Inheritance
import LocaleText.Proofs.Segments
import LocaleText.Template.Parse

/-!
# LocaleText.Proofs.RoundTrip

**Reading back what was written.** An `Item` is what an author means to write: literal text, an
argument with its mark, type and steps, or a plural block with its alternatives. `Item.writeAll`
writes items down in one spelling, and `Item.part` says which part of a template an item stands for,
with the alternatives in the slots of `Category.served` and the key of `Item.keyAfter`. Reading the
written text gives these parts (`parse_writeAll`), for all items that are `Writable`.

Five cuts have to come out right: the outer braces, the two tests for a plural block, the bars
outside braces, commas against labels, and the colon and question mark of an argument. Each has its
lemma here on the written form of one item; keys are the only thing that crosses from one item to
another (`inheritFrom_map`).
-/

namespace LocaleText

/-! ### Items -/

/-- The categories that a block of so many alternatives serves, in the order of the alternatives.
Five are served as six are, less the last. -/
def Category.served : (count : Nat) → List Category
  | 1 => [other]
  | 2 => [one, other]
  | 3 => [zero, one, other]
  | 4 => [zero, one, two, other]
  | _ => [zero, one, two, few, many, other]

/-- What an author writes into a template. -/
inductive Item where
  /-- Text that stands for itself. -/
  | literal (text : Text)
  /-- An argument: its key, whether it is marked as optional, its type and its steps. -/
  | argument (key : Text) (isOptional : Bool) (typeTag : Option Text) (steps : List Text)
  /-- A choice by an argument: its key and the alternatives. -/
  | plural (key : Text) (alternatives : List Text)
  deriving DecidableEq, Repr

namespace Item

/-- Whether the item is literal text. -/
def isLiteral : Item → Bool
  | literal _ => true
  | _ => false

/-- Two items may meet unless both are literals. -/
def Apart (left right : Item) : Prop :=
  ¬(left.isLiteral = true ∧ right.isLiteral = true)

instance : DecidableRel Apart := fun left right =>
  inferInstanceAs (Decidable (¬(left.isLiteral = true ∧ right.isLiteral = true)))

/-- The text is trimmed and has none of the characters `marks`. Keys and types are plain, with the
characters that would end them. -/
def Plain (marks : List Char) (text : Text) : Prop :=
  Text.Trimmed text ∧ ∀ c ∈ marks, c ∉ text

instance (marks : List Char) (text : Text) : Decidable (Plain marks text) :=
  -- Named, because characters can also be searched all of them.
  haveI : Decidable (∀ c ∈ marks, c ∉ text) := List.decidableBAll _ marks
  inferInstanceAs (Decidable (Text.Trimmed text ∧ ∀ c ∈ marks, c ∉ text))

/-- The text can stand between two bars: it is trimmed and balanced, and has bars inside braces
only. -/
def Barred (text : Text) : Prop :=
  Text.Trimmed text ∧ Balanced text ∧ Shielded '|' text

instance (text : Text) : Decidable (Barred text) :=
  inferInstanceAs (Decidable (_ ∧ _))

/-- The item can be written so that it reads back. Nothing else stands in the way: `parse_writeAll`
holds of all writable items. A block must not write a single empty alternative, which would be no
alternative, and none with a colon first, which would be a label. -/
def Writable : Item → Prop
  | literal text => text ≠ [] ∧ BraceFree text
  | argument key _ typeTag steps =>
    Plain [':', '?', '|', '{', '}'] key ∧ (∀ tag ∈ typeTag, Plain [':', '|', '{', '}'] tag) ∧
      ∀ step ∈ steps, Barred step
  | plural key alternatives =>
    Plain [':', '|', '{', '}'] key ∧ (1 ≤ alternatives.length ∧ alternatives.length ≤ 6) ∧
      (∀ text ∈ alternatives, Barred text) ∧ (∀ first ∈ alternatives.head?, ':' ∉ first) ∧
      alternatives ≠ [[]]

instance : DecidablePred Writable
  | literal _ => inferInstanceAs (Decidable (_ ∧ _))
  | argument _ _ _ _ => inferInstanceAs (Decidable (_ ∧ _ ∧ _))
  | plural _ _ => inferInstanceAs (Decidable (_ ∧ _ ∧ _ ∧ _ ∧ _))

/-! ### Writing -/

/-- A mark after the key of an argument. -/
def mark (isOptional : Bool) : Text :=
  if isOptional then ['?'] else []

/-- A type after the key of an argument. -/
def typing : Option Text → Text
  | some tag => ':' :: tag
  | none => []

/-- What stands in the braces of an argument: `key?:type|step|…|step`. -/
def argumentBody (key : Text) (isOptional : Bool) (typeTag : Option Text) (steps : List Text) :
    Text :=
  List.intercalate ['|'] ((key ++ mark isOptional ++ typing typeTag) :: steps)

/-- What stands in the braces of a plural block: `key:{alternative|…|alternative}`. -/
def pluralBody (key : Text) (alternatives : List Text) : Text :=
  key ++ ':' :: '{' :: (List.intercalate ['|'] alternatives ++ ['}'])

/-- An item as it is written. -/
def write : Item → Text
  | literal text => text
  | argument key isOptional typeTag steps =>
    '{' :: (argumentBody key isOptional typeTag steps ++ ['}'])
  | plural key alternatives => '{' :: (pluralBody key alternatives ++ ['}'])

/-- Items as they are written one after the other. -/
def writeAll (items : List Item) : Text :=
  items.flatMap write

/-! ### The part of an item -/

/-- What is kept of a field: all of it, unless the template is compacted and the field is empty or
just `0`. -/
def kept (options : ParseOptions) (field : Text) : Option Text :=
  if options.compact = true ∧ (field = [] ∨ field = ['0']) then none else some field

/-- The alternative for a category, by the table of categories served. -/
def slot (alternatives : List Text) (category : Category) : Option Text :=
  ((Category.served alternatives.length).idxOf? category).bind fun i => alternatives[i]?

/-- The alternatives in their slots. -/
def forms (options : ParseOptions) (alternatives : List Text) : PluralForms where
  zero := (slot alternatives .zero).bind (kept options)
  one := (slot alternatives .one).bind (kept options)
  two := (slot alternatives .two).bind (kept options)
  few := (slot alternatives .few).bind (kept options)
  many := (slot alternatives .many).bind (kept options)
  other := (slot alternatives .other).bind (kept options)

/-- The part that the item stands for, under a key. Literal text is kept as it is, compacted or not.
-/
def part (options : ParseOptions) (key : Text) : Item → Part
  | literal text => .literal text
  | argument _ isOptional typeTag steps =>
    .placeholder {
      key, isOptional
      typeTag := typeTag.bind (kept options)
      steps := if options.compact then steps.filter (· ≠ []) else steps }
  | plural _ alternatives => .plural { key, forms := forms options alternatives }

/-- The key that the item writes; literal text writes none. -/
def ownKey : Item → Text
  | literal _ => []
  | argument key _ _ _ => key
  | plural key _ => key

/-- The keys that arguments among the items write, in order. -/
def offeredKeys (items : List Item) : List Text :=
  items.filterMap fun
    | argument key _ _ _ => if key = [] then none else some key
    | _ => none

/-- What stands in for a key that is left out: the first key that an argument writes, or `0`. -/
def standIn (items : List Item) : Text :=
  (offeredKeys items).headD ['0']

/-- The key of an item that stands after `before` among `items`. A key that is left out is that of
the closest argument before a plural block which writes one, and else the one that stands in. For an
argument it is always the latter. -/
def keyAfter (items before : List Item) : Item → Text
  | literal _ => []
  | argument key _ _ _ => if key = [] then standIn items else key
  | plural key _ => if key = [] then (offeredKeys before).getLastD (standIn items) else key

/-- The parts that the items stand for. -/
def parts (options : ParseOptions) (items : List Item) : List Part :=
  items.mapIdx fun i item => item.part options (item.keyAfter items (items.take i))

/-! ### The segments of items -/

/-- The segment that an item is written as. -/
def segment : Item → Segment
  | literal text => .literal text
  | argument key isOptional typeTag steps =>
    .expression (argumentBody key isOptional typeTag steps)
  | plural key alternatives => .expression (pluralBody key alternatives)

theorem isLiteral_segment (item : Item) : item.segment.isLiteral = item.isLiteral := by
  cases item <;> rfl

/-- Items are written as their segments are. -/
theorem writeAll_eq (items : List Item) :
    writeAll items = Segment.writeAll (items.map segment) := by
  rw [writeAll, Segment.writeAll, List.flatMap_map]
  congr 1
  funext item
  cases item <;> rfl

theorem Plain.braceFree {marks : List Char} {text : Text} (h : Plain marks text)
    (noOpen : '{' ∈ marks) (noClose : '}' ∈ marks) : BraceFree text :=
  ⟨h.2 '{' noOpen, h.2 '}' noClose⟩

section Argument

variable {key : Text} {typeTag : Option Text} {steps : List Text}

/-- What stands before the first bar of an argument holds no brace and no bar, so the first bar is
found behind it. -/
theorem argumentHead_plain (isOptional : Bool)
    (plainKey : Plain [':', '?', '|', '{', '}'] key)
    (plainTag : ∀ tag ∈ typeTag, Plain [':', '|', '{', '}'] tag) :
    BraceFree (key ++ mark isOptional ++ typing typeTag) ∧
      '|' ∉ key ++ mark isOptional ++ typing typeTag := by
  have freeMark : BraceFree (mark isOptional) ∧ '|' ∉ mark isOptional := by
    cases isOptional <;> decide
  have freeTag : BraceFree (typing typeTag) ∧ '|' ∉ typing typeTag := by
    cases typeTag with
    | none => decide
    | some tag =>
        have plain := plainTag tag rfl
        have free := plain.braceFree (by decide) (by decide)
        refine ⟨braceFree_cons.2 ⟨by decide, free⟩, fun mem => ?_⟩
        rcases List.mem_cons.1 mem with same | mem
        · exact absurd same (by decide)
        · exact plain.2 '|' (by decide) mem
  have freeKey := plainKey.braceFree (by decide) (by decide)
  refine ⟨(freeKey.append freeMark.1).append freeTag.1, fun mem => ?_⟩
  rcases List.mem_append.1 mem with mem | mem
  · rcases List.mem_append.1 mem with mem | mem
    · exact plainKey.2 '|' (by decide) mem
    · exact freeMark.2 mem
  · exact freeTag.2 mem

/-- The head and the steps of an argument are balanced, and have bars inside braces only: they are
the pieces at the bars outside braces. -/
theorem argument_pieces {isOptional : Bool}
    (h : Writable (argument key isOptional typeTag steps)) :
    (∀ piece ∈ (key ++ mark isOptional ++ typing typeTag) :: steps, Balanced piece) ∧
      ∀ piece ∈ (key ++ mark isOptional ++ typing typeTag) :: steps, Shielded '|' piece := by
  obtain ⟨plainKey, plainTag, barred⟩ := h
  obtain ⟨free, noBar⟩ := argumentHead_plain isOptional plainKey plainTag
  constructor
  · intro piece mem
    rcases List.mem_cons.1 mem with rfl | mem
    · exact free.balanced
    · exact (barred piece mem).2.1
  · intro piece mem
    rcases List.mem_cons.1 mem with rfl | mem
    · exact shielded_of_not_mem noBar
    · exact (barred piece mem).2.2

end Argument

/-- The alternatives of a block are balanced, and so is the block. -/
theorem balanced_pluralBody {key : Text} {alternatives : List Text}
    (h : Writable (plural key alternatives)) :
    Balanced (List.intercalate ['|'] alternatives) ∧ Balanced (pluralBody key alternatives) := by
  obtain ⟨plainKey, -, barred, -, -⟩ := h
  have list := balanced_intercalate '|' (by decide) (by decide)
    fun text mem => (barred text mem).2.1
  have free := plainKey.braceFree (by decide) (by decide)
  refine ⟨list, free.balanced.append ?_⟩
  rw [Balanced, nesting?_other (by decide) (by decide)]
  exact list.enclose

/-- Writable items are cut into their segments, if no two literals meet: those would be read as one.
-/
theorem wellCut_segments {items : List Item} (writable : ∀ item ∈ items, item.Writable)
    (apart : items.IsChain Apart) : Segment.WellCut (items.map segment) := by
  constructor
  · intro segment mem
    obtain ⟨item, here, rfl⟩ := List.mem_map.1 mem
    have h := writable item here
    cases item with
    | literal text => exact h
    | argument key isOptional typeTag steps =>
        exact balanced_intercalate '|' (by decide) (by decide) (argument_pieces h).1
    | plural key alternatives => exact (balanced_pluralBody h).2
  · rw [List.isChain_map]
    refine apart.imp fun left right h => ?_
    rw [Segment.Apart, isLiteral_segment, isLiteral_segment]
    exact h

/-! ### Telling arguments from plural blocks -/

/-- A text that starts with neither a blank nor a brace is not in braces. -/
theorem unbrace?_trim_of_head {c : Char} (notBlank : isBlank c = false) (notOpen : c ≠ '{')
    (cs : Text) : unbrace? (Text.trim (c :: cs)) = none := by
  obtain ⟨rest, same⟩ := Text.trim_cons_of_not_blank notBlank cs
  rw [same, unbrace?, if_neg fun h => notOpen h.1]

/-- A text without braces in front does not help a text to be in braces. Blanks in front are
dropped, and any other character is in the way. -/
theorem unbrace?_trim_append {front back : Text} (noOpen : '{' ∉ front)
    (h : unbrace? (Text.trim back) = none) : unbrace? (Text.trim (front ++ back)) = none := by
  induction front with
  | nil => exact h
  | cons c cs ih =>
      obtain ⟨notOpen, noOpen⟩ := not_or.1 (fun here => noOpen (List.mem_cons.2 here))
      cases blank : isBlank c with
      | false => exact unbrace?_trim_of_head blank (Ne.symm notOpen) (cs ++ back)
      | true =>
          have dropped : Text.trim (c :: cs ++ back) = Text.trim (cs ++ back) := by
            rw [Text.trim, Text.trimLeft, List.cons_append, List.dropWhile_cons, if_pos blank]
            rfl
          rw [dropped]
          exact ih noOpen

/-- The steps of an argument, each after its bar. -/
def stepsTail (steps : List Text) : Text :=
  steps.flatMap fun step => '|' :: step

theorem intercalate_eq_append (head : Text) (steps : List Text) :
    List.intercalate ['|'] (head :: steps) = head ++ stepsTail steps :=
  intercalate_cons ['|'] head steps

/-- What starts with a bar is not in braces. -/
theorem unbrace?_trim_stepsTail (steps : List Text) :
    unbrace? (Text.trim (stepsTail steps)) = none := by
  cases steps with
  | nil => rfl
  | cons step steps =>
      rw [stepsTail, List.flatMap_cons, List.cons_append]
      exact unbrace?_trim_of_head (by decide) (by decide) _

theorem colon_not_mem_argument {key : Text} (plainKey : Plain [':', '?', '|', '{', '}'] key)
    (isOptional : Bool) : ':' ∉ key ++ mark isOptional := by
  intro mem
  rcases List.mem_append.1 mem with mem | mem
  · exact plainKey.2 ':' (by decide) mem
  · revert mem
    cases isOptional <;> decide

/-- Where only the steps hold colons, a bar comes before the first of them. It ends the key of what
would otherwise be a plural block. -/
theorem bar_before_colon {head before after : Text} {steps : List Text} (noColon : ':' ∉ head)
    (cut : Text.cut? ':' (head ++ stepsTail steps) = some (before, after)) : '|' ∈ before := by
  obtain ⟨same, -⟩ := Text.cut?_eq_some_iff.1 cut
  cases steps with
  | nil =>
      rw [stepsTail, List.flatMap_nil, List.append_nil] at same
      exact absurd (same ▸ List.mem_append_right before List.mem_cons_self) noColon
  | cons step steps =>
      rw [stepsTail, List.flatMap_cons, List.cons_append] at same
      exact Text.mem_of_cut noColon (by decide) same

/-- What is written like an argument is not taken for a plural block. It starts with no brace, what
follows a colon before the first bar starts with none, and a colon behind a bar does not count. -/
theorem source?_of_head {head : Text} {typeTag : Option Text} {steps : List Text}
    (noColon : ':' ∉ head) (noOpen : '{' ∉ head) (noOpenTag : ∀ tag ∈ typeTag, '{' ∉ tag) :
    PluralBlock.source? (List.intercalate ['|'] ((head ++ typing typeTag) :: steps)) = none := by
  rw [intercalate_eq_append]
  have typed : unbrace? (Text.trim (typing typeTag ++ stepsTail steps)) = none := by
    cases typeTag with
    | none => exact unbrace?_trim_stepsTail steps
    | some tag => exact unbrace?_trim_of_head (by decide) (by decide) _
  have whole : unbrace? (Text.trim (head ++ typing typeTag ++ stepsTail steps)) = none := by
    rw [List.append_assoc]
    exact unbrace?_trim_append noOpen typed
  rw [PluralBlock.source?, whole]
  cases typeTag with
  | some tag =>
      -- The first colon is that of the type, and no brace can open right behind it.
      have cut : Text.cut? ':' (head ++ typing (some tag) ++ stepsTail steps) =
          some (head, tag ++ stepsTail steps) := by
        refine Text.cut?_eq_some_iff.2 ⟨?_, noColon⟩
        rw [List.append_assoc]
        rfl
      have rest : unbrace? (Text.trim (tag ++ stepsTail steps)) = none :=
        unbrace?_trim_append (noOpenTag tag rfl) (unbrace?_trim_stepsTail steps)
      simp only [cut, rest]
      split <;> rfl
  | none =>
      rw [typing, List.append_nil]
      cases cut : Text.cut? ':' (head ++ stepsTail steps) with
      | none => rfl
      | some found =>
          have ends : found.1.any PluralBlock.endsKey = true :=
            List.any_eq_true.2 ⟨'|', bar_before_colon noColon cut, by decide⟩
          simp only [ends, if_true]

/-- An argument is not taken for a plural block. -/
theorem source?_argumentBody {key : Text} {isOptional : Bool} {typeTag : Option Text}
    {steps : List Text} (h : Writable (argument key isOptional typeTag steps)) :
    PluralBlock.source? (argumentBody key isOptional typeTag steps) = none := by
  obtain ⟨plainKey, plainTag, -⟩ := h
  have noOpen : '{' ∉ key ++ mark isOptional := by
    intro mem
    rcases List.mem_append.1 mem with mem | mem
    · exact plainKey.2 '{' (by decide) mem
    · revert mem
      cases isOptional <;> decide
  rw [argumentBody]
  exact source?_of_head (colon_not_mem_argument plainKey isOptional) noOpen
    fun tag here => (plainTag tag here).2 '{' (by decide)

/-- The key and the list of a plural block are found, in the spelling with the key in front. -/
theorem source?_of_braced {key list : Text} (free : ∀ c ∈ [':', '|', '{', '}'], c ∉ key)
    (balanced : Balanced list) :
    PluralBlock.source? (key ++ ':' :: '{' :: (list ++ ['}'])) = some (key, list) := by
  have whole : unbrace? (Text.trim (key ++ ':' :: '{' :: (list ++ ['}']))) = none :=
    unbrace?_trim_append (free '{' (by decide))
      (unbrace?_trim_of_head (by decide) (by decide) _)
  have cut : Text.cut? ':' (key ++ ':' :: '{' :: (list ++ ['}'])) =
      some (key, '{' :: (list ++ ['}'])) :=
    Text.cut?_eq_some_iff.2 ⟨rfl, free ':' (by decide)⟩
  have ends : key.any PluralBlock.endsKey = false := by
    refine List.any_eq_false.2 fun c mem => ?_
    rw [PluralBlock.endsKey, Bool.not_eq_true, Bool.or_eq_false_iff, Bool.or_eq_false_iff,
      beq_eq_false_iff_ne, beq_eq_false_iff_ne, beq_eq_false_iff_ne]
    exact ⟨⟨fun same => free '|' (by decide) (same ▸ mem),
      fun same => free '{' (by decide) (same ▸ mem)⟩,
      fun same => free '}' (by decide) (same ▸ mem)⟩
  have trimmed : Text.trim ('{' :: (list ++ ['}'])) = '{' :: (list ++ ['}']) :=
    Text.trimmed_of_not_blank (by decide) (by decide) _
  have inner : unbrace? ('{' :: (list ++ ['}'])) = some list :=
    unbrace?_eq_some_iff.2 ⟨rfl, balanced⟩
  rw [PluralBlock.source?, whole]
  simp only [cut, ends, trimmed, inner, Bool.false_eq_true, if_false, Option.map_some]

/-- The key and the alternatives of a plural block are found. -/
theorem source?_pluralBody {key : Text} {alternatives : List Text}
    (h : Writable (plural key alternatives)) :
    PluralBlock.source? (pluralBody key alternatives) =
      some (key, List.intercalate ['|'] alternatives) :=
  source?_of_braced h.1.2 (balanced_pluralBody h).1

/-! ### Reading one item -/

/-- What is written like an argument is cut at its bars and at its colon. This is stated for any
pieces, with blanks or without, since arguments with blanks are cut in the same way. -/
theorem read_intercalate {typed : Text} {typeTag : Option Text} {steps : List Text}
    (noColon : ':' ∉ typed) (noColonTag : ∀ tag ∈ typeTag, ':' ∉ tag)
    (balanced : ∀ piece ∈ (typed ++ typing typeTag) :: steps, Balanced piece)
    (shielded : ∀ piece ∈ (typed ++ typing typeTag) :: steps, Shielded '|' piece) :
    Placeholder.read (List.intercalate ['|'] ((typed ++ typing typeTag) :: steps)) =
      { key := Text.trim (Text.cuts '?' typed).1, typeTag,
        isOptional := (Text.cuts '?' typed).2.head? == some [], steps } := by
  have bars : splitTop '|' _ = _ :=
    congrArg (fun cuts : Text × List Text => cuts.1 :: cuts.2)
      (topCuts_intercalate (by decide) (by decide) balanced shielded)
  have colons : Text.cuts ':' (typed ++ typing typeTag) = (typed, typeTag.toList) := by
    cases typeTag with
    | none => rw [typing, List.append_nil]; exact Text.cuts_of_not_mem noColon
    | some tag =>
        rw [typing, Text.cuts_append noColon, Text.cuts_of_not_mem (noColonTag tag rfl)]
        rfl
  rw [Placeholder.read_eq, bars]
  simp only [Placeholder.ofStretches, List.headD_cons, List.tail_cons, colons]
  cases typeTag <;> rfl

/-- The fields of an argument are found. -/
theorem read_argumentBody {key : Text} {isOptional : Bool} {typeTag : Option Text}
    {steps : List Text} (h : Writable (argument key isOptional typeTag steps)) :
    Placeholder.read (argumentBody key isOptional typeTag steps) =
      { key, typeTag, isOptional, steps } := by
  obtain ⟨balanced, shielded⟩ := argument_pieces h
  obtain ⟨plainKey, plainTag, -⟩ := h
  have noMark : '?' ∉ key := plainKey.2 '?' (by decide)
  have marks : Text.cuts '?' (key ++ mark isOptional) =
      (key, if isOptional then [[]] else []) := by
    cases isOptional with
    | true => exact Text.cuts_append noMark []
    | false =>
        rw [mark, if_neg Bool.false_ne_true, List.append_nil]
        exact Text.cuts_of_not_mem noMark
  have trimmed : Text.trim key = key := plainKey.1
  rw [argumentBody, read_intercalate (colon_not_mem_argument plainKey isOptional)
    (fun tag here => (plainTag tag here).2 ':' (by decide)) balanced shielded, marks, trimmed]
  cases isOptional <;> rfl

/-- A block has a slot for each of up to six alternatives, which is the one of the table. -/
theorem ofAlternatives_eq {alternatives : List Text}
    (h : 1 ≤ alternatives.length ∧ alternatives.length ≤ 6) :
    PluralForms.ofAlternatives alternatives = some (forms { compact := false } alternatives) := by
  match alternatives, h with
  | [_], _ | [_, _], _ | [_, _, _], _ | [_, _, _, _], _ | [_, _, _, _, _], _
  | [_, _, _, _, _, _], _ => rfl

/-- Alternatives, written between bars, are no blank list: there is a bar, or there is one
alternative, which is not empty. -/
theorem isBlankText_alternatives {key : Text} {alternatives : List Text}
    (h : Writable (plural key alternatives)) :
    Text.isBlankText (List.intercalate ['|'] alternatives) = false := by
  obtain ⟨-, ⟨least, -⟩, barred, -, notEmpty⟩ := h
  match alternatives with
  | [] => exact absurd least (by decide)
  | [only] =>
      rw [List.intercalate_singleton]
      have trimmed := (barred only List.mem_cons_self).1
      exact trimmed.isBlankText_eq_false fun same => notEmpty (by rw [same])
  | first :: second :: others =>
      rw [List.intercalate_cons_cons, Text.isBlankText, List.all_append, List.all_append]
      simp only [List.all_cons, List.all_nil, show isBlank '|' = false from by decide,
        Bool.false_and, Bool.and_false]

/-- **One item reads back**, its key being as it is written. Fields are all kept here; they are
compacted when the keys have been filled in. -/
theorem ofSegment_segment {item : Item} (h : item.Writable) :
    Part.ofSegment item.segment = .ok (item.part { compact := false } item.ownKey) := by
  cases item with
  | literal text => rfl
  | argument key isOptional typeTag steps =>
      rw [segment, Part.ofSegment_expression, Part.ofExpression_eq, source?_argumentBody h]
      simp only [read_argumentBody h]
      cases typeTag <;> rfl
  | plural key alternatives =>
      rw [segment, Part.ofSegment_expression, Part.ofExpression_eq, source?_pluralBody h]
      have notBlank := isBlankText_alternatives h
      obtain ⟨plainKey, count, barred, noColon, -⟩ := h
      have trimmed : Text.trim key = key := plainKey.1
      have read : Alternatives.read (List.intercalate ['|'] alternatives) = alternatives := by
        cases alternatives with
        | nil => exact absurd count.1 (by decide)
        | cons first others =>
            exact Alternatives.read_intercalate notBlank (fun text mem => (barred text mem).2.1)
              (fun text mem => (barred text mem).2.2) (noColon first rfl)
      simp only [read, ofAlternatives_eq count, trimmed]
      rfl

/-! ### Keys -/

/-- The parts of items, their keys being as they are written. They are what the segments are read
as. -/
def rawParts (items : List Item) : List Part :=
  items.map fun item => item.part { compact := false } item.ownKey

theorem offeredKeys_append (left right : List Item) :
    offeredKeys (left ++ right) = offeredKeys left ++ offeredKeys right :=
  List.filterMap_append

/-- Only an argument offers a key to what follows, and only one that it writes. -/
theorem getLast?_offeredKeys_singleton (item : Item) :
    (offeredKeys [item]).getLast? =
      (item.part { compact := false } item.ownKey).offeredKey? := by
  cases item with
  | literal text => rfl
  | plural key alternatives => rfl
  | argument key isOptional typeTag steps => cases key <;> rfl

/-- What filling in does to the part of an item is what `keyAfter` says. -/
theorem inherit_part (items before : List Item) (item : Item) :
    (item.part { compact := false } item.ownKey).inherit (standIn items)
        (offeredKeys before).getLast? =
      item.part { compact := false } (item.keyAfter items before) := by
  cases item with
  | literal text => rfl
  | plural key alternatives =>
      simp only [part, Part.inherit, ownKey, keyAfter, Part.orElseKey_eq,
        List.getLastD_eq_getLast?]
  | argument key isOptional typeTag steps =>
      simp only [part, Part.inherit, ownKey, keyAfter, Part.orElseKey_eq]

/-- Reading fills keys in from left to right; the last key offered before an item is that of the
arguments among the items read so far. The induction moves items from `rest` to `before`, with the
items as a whole fixed, because their first key counts everywhere. -/
theorem inheritFrom_map (items before rest : List Item) :
    Part.inheritFrom (standIn items) (offeredKeys before).getLast? (rawParts rest) =
      rest.mapIdx fun i item =>
        item.part { compact := false } (item.keyAfter items (before ++ rest.take i)) := by
  induction rest generalizing before with
  | nil => rfl
  | cons item rest ih =>
      have later := ih (before ++ [item])
      rw [offeredKeys_append, List.getLast?_append, getLast?_offeredKeys_singleton] at later
      simp only [List.append_assoc, List.singleton_append] at later
      rw [rawParts, List.map_cons, Part.inheritFrom_cons, inherit_part, List.mapIdx_cons,
        List.take_zero, List.append_nil]
      simp only [List.take_succ_cons]
      rw [← later, rawParts]

/-- The keys that reading fills in are those of the items. -/
theorem inheritKeys_rawParts (items : List Item) :
    Part.inheritKeys (rawParts items) = parts { compact := false } items := by
  have first : (rawParts items).findSome? Part.offeredKey? = (offeredKeys items).head? := by
    rw [offeredKeys, List.head?_filterMap, rawParts, List.findSome?_map]
    congr 1
    funext item
    cases item with
    | literal text => rfl
    | plural key alternatives => rfl
    | argument key isOptional typeTag steps => cases key <;> rfl
  have all := inheritFrom_map items [] items
  rw [Part.inheritKeys, first, ← List.headD_eq_head?_getD]
  exact all

/-! ### Trimming and compacting -/

/-- Every alternative in a slot is one of those written. -/
theorem mem_of_slot {alternatives : List Text} {category : Category} {text : Text}
    (h : slot alternatives category = some text) : text ∈ alternatives := by
  obtain ⟨i, -, here⟩ := Option.bind_eq_some_iff.1 h
  exact List.mem_of_getElem? here

/-- A slot holds what is made of its alternative, since only the number of alternatives decides
where each goes. -/
theorem slot_map (f : Text → Text) (alternatives : List Text) (category : Category) :
    slot (alternatives.map f) category = (slot alternatives category).map f := by
  rw [slot, slot, List.length_map]
  cases (Category.served alternatives.length).idxOf? category with
  | none => rfl
  | some i => rw [Option.bind_some, Option.bind_some, List.getElem?_map]

/-- Trimming the alternatives in their slots is trimming them before. -/
theorem forms_trim (alternatives : List Text) :
    (forms { compact := false } alternatives).map (Option.map Text.trim) =
      forms { compact := false } (alternatives.map Text.trim) := by
  have same : ∀ category : Category,
      ((slot alternatives category).bind (kept { compact := false })).map Text.trim =
        (slot (alternatives.map Text.trim) category).bind (kept { compact := false }) := by
    intro category
    rw [slot_map]
    cases slot alternatives category <;> rfl
  simp only [forms, PluralForms.map, same]

/-- Compacting keeps of a field what `kept` says. -/
theorem compactField_bind (field : Option Text) :
    compactField (field.bind (kept { compact := false })) =
      field.bind (kept { compact := true }) := by
  cases field with
  | none => rfl
  | some text =>
      by_cases void : text = [] ∨ text = ['0']
      · rcases void with rfl | rfl <;> rfl
      · have notVoid : isVoid text = false := by
          rw [not_or] at void
          rw [isVoid, Bool.or_eq_false_iff, beq_eq_false_iff_ne, List.isEmpty_eq_false_iff]
          exact void
        simp only [Option.bind_some, kept, Bool.false_eq_true, if_false, void, and_false,
          compactField, Option.filter_some, notVoid, Bool.not_false, if_true]

/-- Tidying a block trims its alternatives and leaves what the options keep. -/
theorem tidy_plural (options : ParseOptions) (key : Text) (alternatives : List Text) :
    (Part.plural { key, forms := forms { compact := false } alternatives }).tidy options =
      .plural { key, forms := forms options (alternatives.map Text.trim) } := by
  obtain ⟨compact⟩ := options
  cases compact with
  | false =>
      rw [Part.tidy, if_neg Bool.false_ne_true, Part.trimFields, forms_trim]
  | true =>
      rw [Part.tidy, if_pos rfl, Part.trimFields, forms_trim]
      simp only [Part.compact, forms, PluralForms.map, compactField_bind]

/-- Tidying the part of a writable item leaves what its options keep. -/
theorem tidy_part {item : Item} (h : item.Writable) (options : ParseOptions) (key : Text) :
    (item.part { compact := false } key).tidy options = item.part options key := by
  -- The fields of a writable item are trimmed, so all that tidying can do is to compact them.
  cases item with
  | literal text =>
      obtain ⟨compact⟩ := options
      cases compact <;> rfl
  | plural own alternatives =>
      obtain ⟨-, -, barred, -⟩ := h
      have all : alternatives.map Text.trim = alternatives :=
        (List.map_congr_left fun text mem => (barred text mem).1).trans (List.map_id alternatives)
      rw [part, part, tidy_plural, all]
  | argument own isOptional typeTag steps =>
      obtain ⟨-, plainTag, barred⟩ := h
      have tag : (typeTag.bind (kept { compact := false })).map Text.trim =
          typeTag.bind (kept { compact := false }) := by
        cases typeTag with
        | none => rfl
        | some tag => exact congrArg some (plainTag tag rfl).1
      have all : steps.map Text.trim = steps :=
        (List.map_congr_left fun step mem => (barred step mem).1).trans (List.map_id steps)
      have filtered : (steps.filter fun step => !step.isEmpty) =
          steps.filter fun step => step ≠ [] := by
        refine List.filter_congr fun step _ => ?_
        cases step <;> rfl
      obtain ⟨compact⟩ := options
      cases compact with
      | false =>
          rw [Part.tidy, if_neg Bool.false_ne_true]
          simp only [part, Part.trimFields, tag, Bool.false_eq_true, if_false, all]
      | true =>
          rw [Part.tidy, if_pos rfl]
          simp only [part, Part.trimFields, tag, Part.compact, compactField_bind,
            Bool.false_eq_true, if_false, if_true, all, filtered]

/-! ### The round trip -/

/-- **Reading back what was written.** Writable items, no two literals of which meet, are read back
as the parts that they stand for, in order: with compaction or without it, each alternative in the
slot of its category and every other slot empty, and no key changed but those left out.

Compaction takes away what `Item.kept` says and empty steps, nothing else. The conditions are on
single items, apart from literals that would meet, so that any number of items can be put together.
-/
theorem parse_writeAll (options : ParseOptions) (items : List Item)
    (writable : ∀ item ∈ items, item.Writable) (apart : items.IsChain Apart) :
    Template.parse options (writeAll items) = .ok { parts := parts options items } := by
  have cut : Segment.split (writeAll items) = .ok (items.map segment) := by
    rw [writeAll_eq]
    exact Segment.split_writeAll (wellCut_segments writable apart)
  have read : (items.map segment).mapM Part.ofSegment = .ok (rawParts items) := by
    rw [List.mapM_map]
    exact mapM_eq_ok fun item mem => ofSegment_segment (writable item mem)
  have tidied :
      (parts { compact := false } items).map (Part.tidy options) = parts options items := by
    refine List.ext_getElem? fun i => ?_
    rw [parts, parts, List.getElem?_map, List.getElem?_mapIdx, List.getElem?_mapIdx]
    cases here : items[i]? with
    | none => rfl
    | some item =>
        exact congrArg some (tidy_part (writable item (List.mem_of_getElem? here)) options _)
  rw [Template.parse_eq, Template.readParts_eq, cut]
  simp only [Except.bind, read, Except.map, inheritKeys_rawParts, tidied]

/-- Items with everything in them: keys left out in front of and behind an argument, bars, commas
and colons inside braces, an empty type, an empty step and alternatives that carry nothing. -/
def sample : List Item :=
  [literal "né ".toList, plural [] ["a{|}b".toList, "c:, d".toList],
    argument "n".toList true (some "0".toList) ["{a:b|c}".toList, []], argument [] false none [],
    plural [] ["one".toList, [], "0".toList, "x".toList, "y".toList], literal "!".toList]

theorem parse_writeAll_sample :
    (∀ item ∈ sample, item.Writable) ∧ sample.IsChain Apart ∧
      writeAll sample = "né {:{a{|}b|c:, d}}{n?:0|{a:b|c}|}{}{:{one||0|x|y}}!".toList ∧
      Template.parse { compact := true } (writeAll sample) =
        .ok { parts := [.literal "né ".toList,
          .plural ⟨"n".toList, { one := some "a{|}b".toList, other := some "c:, d".toList }⟩,
          .placeholder ⟨"n".toList, none, true, ["{a:b|c}".toList]⟩,
          .placeholder ⟨"n".toList, none, false, []⟩,
          .plural ⟨"n".toList,
            { zero := some "one".toList, few := some "x".toList, many := some "y".toList }⟩,
          .literal "!".toList] } := by
  have writable : ∀ item ∈ sample, item.Writable := by decide
  have apart : sample.IsChain Apart := by decide
  refine ⟨writable, apart, by decide, ?_⟩
  rw [parse_writeAll { compact := true } sample writable apart]
  rfl

end Item

end LocaleText
