import LocaleText.Proofs.Keys
import LocaleText.Proofs.RoundTrip
import LocaleText.Proofs.Surroundings

/-!
# LocaleText.Proofs.Spacing

**Blanks between the tokens of an argument.** A `SpacedArgument` is an argument with blanks before
and after any of its tokens: the key, the mark, the colon, the type, the bars and the steps. Its
fields are trimmed when the template is read, so it may stand in place of the argument without
blanks anywhere in a template (`blanks_between_tokens`).

There is one exception. A question mark is a mark only when nothing stands between it and the colon,
the bar or the brace behind it, so with blanks there the argument is not optional, and all else
stays as it is (`blank_behind_mark_unmarks`).
-/

namespace LocaleText

/-! ### Arguments with blanks -/

/-- A token and the blanks around it. The token may have blanks at its ends itself, or be empty. -/
structure Padded where
  /-- The blanks before the token. -/
  before : Text
  /-- The token. -/
  token : Text
  /-- The blanks after the token. -/
  after : Text
  /-- Only blanks stand before the token. -/
  blank_before : Text.isBlankText before = true
  /-- Only blanks stand after the token. -/
  blank_after : Text.isBlankText after = true

theorem Text.braceFree_of_isBlankText {gap : Text} (blank : isBlankText gap = true) :
    BraceFree gap :=
  ⟨not_mem_of_isBlankText blank (by decide), not_mem_of_isBlankText blank (by decide)⟩

namespace Padded

/-- A token as it is written, with its blanks. -/
def write (padded : Padded) : Text :=
  padded.before ++ padded.token ++ padded.after

variable (padded : Padded)

/-- Trimming takes the blanks away, and those at the ends of the token. -/
theorem trim_write : Text.trim padded.write = Text.trim padded.token :=
  Text.trim_surround padded.blank_before padded.blank_after padded.token

/-- Characters that are not blank stand in the token only, so blanks are no mark of their own. -/
theorem not_mem_write {c : Char} (notBlank : isBlank c = false) (absent : c ∉ padded.token) :
    c ∉ padded.write := by
  rw [write, List.mem_append, List.mem_append, not_or, not_or]
  exact ⟨⟨Text.not_mem_of_isBlankText padded.blank_before notBlank, absent⟩,
    Text.not_mem_of_isBlankText padded.blank_after notBlank⟩

/-- Blanks around a token that can stand between two bars change nothing about that. -/
theorem barred_write (barred : Item.Barred padded.token) :
    Balanced padded.write ∧ Shielded '|' padded.write := by
  obtain ⟨-, balanced, shielded⟩ := barred
  have free := (Text.braceFree_of_isBlankText padded.blank_before).balanced
  have noBar {gap : Text} (blank : Text.isBlankText gap = true) : Shielded '|' gap :=
    shielded_of_not_mem (Text.not_mem_of_isBlankText blank (by decide))
  have front := (noBar padded.blank_before).append free shielded
  exact ⟨(free.append balanced).append (Text.braceFree_of_isBlankText padded.blank_after).balanced,
    front.append (free.append balanced) (noBar padded.blank_after)⟩

end Padded

/-- An argument with blanks around its tokens. The blanks before a colon and a bar are those after
the token in front of it; the blanks behind the mark are its own, as the mark is no token with
blanks before it: those are behind the key. -/
structure SpacedArgument where
  /-- The key. -/
  key : Padded
  /-- The blanks behind the mark, if there is one. -/
  mark : Option { gap : Text // Text.isBlankText gap = true }
  /-- The type, if there is one. -/
  typeTag : Option Padded
  /-- The steps. -/
  steps : List Padded

namespace SpacedArgument

/-- A mark and the blanks behind it. -/
def marking : Option { gap : Text // Text.isBlankText gap = true } → Text
  | some gap => '?' :: gap.1
  | none => []

/-- The key and the mark. -/
def head (spaced : SpacedArgument) : Text :=
  spaced.key.write ++ marking spaced.mark

/-- What stands in the braces. -/
def body (spaced : SpacedArgument) : Text :=
  List.intercalate ['|']
    ((spaced.head ++ Item.typing (spaced.typeTag.map Padded.write)) ::
      spaced.steps.map Padded.write)

/-- The argument as it is written. -/
def write (spaced : SpacedArgument) : Text :=
  (Segment.expression spaced.body).write

/-- The tokens of the argument as an item, marked as optional or not. -/
def item (spaced : SpacedArgument) (isOptional : Bool) : Item :=
  .argument spaced.key.token isOptional (spaced.typeTag.map Padded.token)
    (spaced.steps.map Padded.token)

/-- Whether there is a mark. -/
def isMarked (spaced : SpacedArgument) : Bool :=
  spaced.mark.isSome

/-- Whether there is a mark with no blanks behind it. This is what the reader takes for optional. -/
def isOptional (spaced : SpacedArgument) : Bool :=
  spaced.mark.any fun gap => gap.1.isEmpty

theorem isOptional_of_close {spaced : SpacedArgument} (close : ∀ gap ∈ spaced.mark, gap.1 = []) :
    spaced.isOptional = spaced.isMarked := by
  rw [isOptional, isMarked]
  cases mark : spaced.mark with
  | none => rfl
  | some gap => exact List.isEmpty_iff.2 (close gap mark)

theorem isOptional_of_apart {spaced : SpacedArgument} (apart : ∃ gap ∈ spaced.mark, gap.1 ≠ []) :
    spaced.isOptional = false := by
  obtain ⟨gap, mark, blanks⟩ := apart
  rw [isOptional, Option.mem_def.1 mark]
  exact List.isEmpty_eq_false_iff.2 blanks

section Reading

variable {spaced : SpacedArgument} {marked : Bool}

/-- Neither a colon nor a bar nor a brace stands in front of the type, so the cuts at these come
where they are to come. -/
theorem not_mem_head {c : Char} (notBlank : isBlank c = false) (notMark : c ≠ '?')
    (absent : c ∉ spaced.key.token) : c ∉ spaced.head := by
  rw [head, List.mem_append, not_or]
  refine ⟨spaced.key.not_mem_write notBlank absent, ?_⟩
  cases spaced.mark with
  | none => exact List.not_mem_nil
  | some gap =>
      rw [marking, List.mem_cons, not_or]
      exact ⟨notMark, Text.not_mem_of_isBlankText gap.2 notBlank⟩

/-- The head and the steps of an argument with blanks are balanced, and have bars inside braces
only, like those of the argument without them. -/
theorem pieces_spaced (h : (spaced.item marked).Writable) :
    ∀ piece ∈ (spaced.head ++ Item.typing (spaced.typeTag.map Padded.write)) ::
        spaced.steps.map Padded.write, Balanced piece ∧ Shielded '|' piece := by
  obtain ⟨plainKey, plainTag, barred⟩ := h
  have absent {c : Char} (notBlank : isBlank c = false) (notMark : c ≠ '?') (notColon : c ≠ ':')
      (inKey : c ∈ [':', '?', '|', '{', '}']) (inTag : c ∈ [':', '|', '{', '}']) :
      c ∉ spaced.head ++ Item.typing (spaced.typeTag.map Padded.write) := by
    rw [List.mem_append, not_or]
    refine ⟨not_mem_head notBlank notMark (plainKey.2 c inKey), ?_⟩
    cases tag : spaced.typeTag with
    | none => exact List.not_mem_nil
    | some padded =>
        have plain := plainTag padded.token (by rw [tag]; rfl)
        rw [Option.map_some, Item.typing, List.mem_cons, not_or]
        exact ⟨notColon, padded.not_mem_write notBlank (plain.2 c inTag)⟩
  have free : BraceFree (spaced.head ++ Item.typing (spaced.typeTag.map Padded.write)) :=
    ⟨absent (by decide) (by decide) (by decide) (by decide) (by decide),
      absent (by decide) (by decide) (by decide) (by decide) (by decide)⟩
  intro piece mem
  rcases List.mem_cons.1 mem with rfl | mem
  · refine ⟨free.balanced, shielded_of_not_mem ?_⟩
    exact absent (by decide) (by decide) (by decide) (by decide) (by decide)
  · obtain ⟨padded, inSteps, rfl⟩ := List.mem_map.1 mem
    exact padded.barred_write (barred padded.token (List.mem_map_of_mem inSteps))

theorem balanced_body (h : (spaced.item marked).Writable) : Balanced spaced.body :=
  balanced_intercalate '|' (by decide) (by decide) fun piece mem => (pieces_spaced h piece mem).1

/-- **An argument with blanks reads** as its tokens, the type and the steps with their blanks. Keys
are trimmed when they are read, types and steps later. Whether it is optional depends on whether
anything is left between the mark and the next cut. -/
theorem ofExpression_body (h : (spaced.item marked).Writable) :
    Part.ofExpression spaced.body =
      .ok (.placeholder {
        key := spaced.key.token
        typeTag := spaced.typeTag.map Padded.write
        isOptional := spaced.isOptional
        steps := spaced.steps.map Padded.write }) := by
  have pieces := pieces_spaced h
  obtain ⟨plainKey, plainTag, -⟩ := h
  have noColon : ':' ∉ spaced.head :=
    not_mem_head (by decide) (by decide) (plainKey.2 ':' (by decide))
  have absentTag {c : Char} (notBlank : isBlank c = false) (inTag : c ∈ [':', '|', '{', '}']) :
      ∀ tag ∈ spaced.typeTag.map Padded.write, c ∉ tag := by
    intro tag here
    obtain ⟨padded, same, rfl⟩ := Option.map_eq_some_iff.1 here
    have plain := plainTag padded.token (by rw [same]; rfl)
    exact padded.not_mem_write notBlank (plain.2 c inTag)
  have source : PluralBlock.source? spaced.body = none :=
    Item.source?_of_head noColon
      (not_mem_head (by decide) (by decide) (plainKey.2 '{' (by decide)))
      (absentTag (by decide) (by decide))
  -- Between the mark and the next cut there is nothing but blanks, and the cut keeps these.
  have marks : Text.cuts '?' spaced.head =
      (spaced.key.write, (spaced.mark.map Subtype.val).toList) := by
    have noMark := spaced.key.not_mem_write (by decide) (plainKey.2 '?' (by decide))
    cases mark : spaced.mark with
    | none =>
        rw [head, mark, marking, List.append_nil]
        exact Text.cuts_of_not_mem noMark
    | some gap =>
        have noMore := Text.not_mem_of_isBlankText gap.2 (by decide : isBlank '?' = false)
        rw [head, mark, marking, Text.cuts_append noMark, Text.cuts_of_not_mem noMore]
        rfl
  have trimmed : Text.trim spaced.key.write = spaced.key.token :=
    spaced.key.trim_write.trans plainKey.1
  have optional : ((spaced.mark.map Subtype.val).toList.head? == some []) = spaced.isOptional := by
    rw [isOptional]
    cases spaced.mark with
    | none => rfl
    | some gap =>
        obtain ⟨blanks, -⟩ := gap
        cases blanks <;> rfl
  rw [Part.ofExpression_eq, source, body, Item.read_intercalate noColon
    (absentTag (by decide) (by decide)) (fun piece mem => (pieces piece mem).1)
    (fun piece mem => (pieces piece mem).2), marks, trimmed, optional]

/-- The blanks around the type and the steps are all in which an argument differs from the same
argument without blanks, the mark counting only with no blanks behind it. Trimmed, the two parts are
the same. -/
theorem exists_alike (h : (spaced.item marked).Writable) :
    ∃ part part', Part.ofExpression spaced.body = .ok part ∧
      Part.ofSegment (spaced.item spaced.isOptional).segment = .ok part' ∧
      part.trimFields = part'.trimFields := by
  have writable : (spaced.item spaced.isOptional).Writable := h
  refine ⟨_, _, ofExpression_body h, Item.ofSegment_segment writable, ?_⟩
  have tag : (spaced.typeTag.map Padded.write).map Text.trim =
      (spaced.typeTag.map Padded.token).map Text.trim := by
    rw [Option.map_map, Option.map_map]
    exact congrArg (Option.map · spaced.typeTag) (funext Padded.trim_write)
  have steps : (spaced.steps.map Padded.write).map Text.trim =
      (spaced.steps.map Padded.token).map Text.trim := by
    rw [List.map_map, List.map_map]
    exact congrArg (List.map · spaced.steps) (funext Padded.trim_write)
  have all : (spaced.typeTag.map Padded.token).bind (Item.kept { compact := false }) =
      spaced.typeTag.map Padded.token := by
    cases spaced.typeTag <;> rfl
  simp only [Part.trimFields, item, Item.part, Item.ownKey, tag, steps, all, Bool.false_eq_true,
    if_false]

end Reading

end SpacedArgument

/-! ### The argument in a template -/

/-- An argument that writes a key, alone in a template. It takes no key from others, and has none to
give. -/
theorem Item.parse_argument (options : ParseOptions) {key : Text} {isOptional : Bool}
    {typeTag : Option Text} {steps : List Text}
    (h : (argument key isOptional typeTag steps).Writable) (named : key ≠ []) :
    Template.parse options (argument key isOptional typeTag steps).write =
      .ok { parts := [(argument key isOptional typeTag steps).part options key] } := by
  have only : ∀ item ∈ [argument key isOptional typeTag steps], item.Writable := by
    intro item mem
    rw [List.mem_singleton.1 mem]
    exact h
  have cut := Segment.split_writeAll (wellCut_segments only (List.isChain_singleton _))
  have written : Segment.writeAll ([argument key isOptional typeTag steps].map segment) =
      (argument key isOptional typeTag steps).write := List.append_nil _
  rw [written] at cut
  have read : ([argument key isOptional typeTag steps].map segment).mapM Part.ofSegment =
      .ok (rawParts [argument key isOptional typeTag steps]) := by
    rw [List.mapM_map]
    exact mapM_eq_ok fun item mem => ofSegment_segment (only item mem)
  have keyed : parts { compact := false } [argument key isOptional typeTag steps] =
      [(argument key isOptional typeTag steps).part { compact := false } key] := by
    simp only [parts, List.mapIdx_cons, List.mapIdx_nil, keyAfter, if_neg named]
  rw [Template.parse_eq, Template.readParts_of_split_ok cut, read, Except.map, inheritKeys_rawParts,
    keyed, List.map_singleton, tidy_part h]

namespace Template

section Spaced

variable (options : ParseOptions) {spaced : SpacedArgument} {front back : Text}

/-- An argument with blanks in place of the one without, the mark counting only with no blanks
behind it. The two have different numbers of bytes, so that what stands behind has to be balanced:
the position of a fault there would differ. -/
theorem parse_spaced (writable : (spaced.item spaced.isMarked).Writable)
    (balancedFront : Balanced front) (balancedBack : Balanced back) :
    parse options (front ++ spaced.write ++ back) =
      parse options (front ++ (spaced.item spaced.isOptional).write ++ back) := by
  obtain ⟨part, part', read, read', alike⟩ := SpacedArgument.exists_alike writable
  have plain : (spaced.item spaced.isOptional).Writable := writable
  exact parse_surrounded_congr options balancedFront balancedBack
    (SpacedArgument.balanced_body writable)
    (balanced_intercalate '|' (by decide) (by decide) (Item.argument_pieces plain).1) read read'
    alike

/-- **Blanks between the tokens of an argument** do not matter, be they before or after its key, its
mark, its type or its steps, with any options and between any balanced texts. Only the blanks behind
the mark do: with any there, the argument is read as without the mark.

Alone in a template, an argument that writes its key is read as the part of its tokens. The tokens
have to be such that the argument without blanks reads back. -/
theorem blanks_between_tokens (writable : (spaced.item spaced.isMarked).Writable)
    (balancedFront : Balanced front) (balancedBack : Balanced back) :
    ((∀ gap ∈ spaced.mark, gap.1 = []) →
      parse options (front ++ spaced.write ++ back) =
        parse options (front ++ (spaced.item spaced.isMarked).write ++ back)) ∧
    ((∃ gap ∈ spaced.mark, gap.1 ≠ []) →
      parse options (front ++ spaced.write ++ back) =
        parse options (front ++ (spaced.item false).write ++ back)) ∧
    (spaced.key.token ≠ [] →
      parse options spaced.write =
        .ok { parts := [(spaced.item spaced.isOptional).part options spaced.key.token] }) := by
  refine ⟨fun close => ?_, fun apart => ?_, fun named => ?_⟩
  · rw [parse_spaced options writable balancedFront balancedBack,
      SpacedArgument.isOptional_of_close close]
  · rw [parse_spaced options writable balancedFront balancedBack,
      SpacedArgument.isOptional_of_apart apart]
  · have alone := parse_spaced options writable balanced_nil balanced_nil
    rw [List.nil_append, List.append_nil, List.nil_append, List.append_nil] at alone
    rw [alone]
    exact Item.parse_argument options writable named

end Spaced

/-- An argument with blanks in every place but behind the mark: `{ a  ?: int |  {x|y} | }`. -/
def airy : SpacedArgument where
  key := ⟨[' '], ['a'], [' ', ' '], rfl, rfl⟩
  mark := some ⟨[], rfl⟩
  typeTag := some ⟨[' '], "int".toList, [' '], rfl, rfl⟩
  steps := [⟨[' ', ' '], "{x|y}".toList, [' '], rfl, rfl⟩, ⟨[' '], [], [], rfl, rfl⟩]

/-- An argument with a blank behind the mark: `{a? }`. -/
def detached : SpacedArgument where
  key := ⟨[], ['a'], [], rfl, rfl⟩
  mark := some ⟨[' '], rfl⟩
  typeTag := none
  steps := []

theorem blanks_between_tokens_airy :
    parse {} "é { a  ?: int |  {x|y} | }!".toList = parse {} "é {a?:int|{x|y}|}!".toList ∧
    parse {} "é {a? }!".toList = parse {} "é {a}!".toList ∧
    parse {} "{ a  ?: int |  {x|y} | }".toList =
      .ok { parts := [.placeholder ⟨['a'], some "int".toList, true, ["{x|y}".toList]⟩] } := by
  have writable : (airy.item airy.isMarked).Writable := by decide
  have writable' : (detached.item detached.isMarked).Writable := by decide
  have front : Balanced "é ".toList := by decide
  have back : Balanced "!".toList := by decide
  obtain ⟨close, -, alone⟩ := blanks_between_tokens {} writable front back
  obtain ⟨-, apart, -⟩ := blanks_between_tokens {} writable' front back
  refine ⟨close ?_, apart ⟨⟨[' '], rfl⟩, rfl, List.cons_ne_nil _ _⟩,
    alone (List.cons_ne_nil _ _)⟩
  intro gap mem
  cases mem
  rfl

/-- **A blank behind the mark** is not like a blank elsewhere: the argument loses its mark. -/
theorem blank_behind_mark_unmarks :
    ¬∀ spaced : SpacedArgument, (spaced.item spaced.isMarked).Writable → spaced.key.token ≠ [] →
      parse {} spaced.write = parse {} (spaced.item spaced.isMarked).write := by
  intro alike
  have same := alike detached (by decide) (List.cons_ne_nil _ _)
  have unmarked : parse {} detached.write =
      .ok { parts := [.placeholder ⟨['a'], none, false, []⟩] } := rfl
  have marked : parse {} (detached.item detached.isMarked).write =
      .ok { parts := [.placeholder ⟨['a'], none, true, []⟩] } := rfl
  rw [unmarked, marked] at same
  revert same
  decide

end Template

end LocaleText
