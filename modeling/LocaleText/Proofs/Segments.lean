import LocaleText.Proofs.Nesting
import LocaleText.Proofs.Traversal
import LocaleText.Template.Segment
import Mathlib.Data.List.Chain

/-!
# LocaleText.Proofs.Segments

**Cutting a template is the inverse of writing its segments down.** `WellCut` says which lists of
segments are cuts of a text, without mentioning the scanner: literals are non-empty and hold no
brace, no two of them meet, and the body of every expression is balanced.

The scanner is followed through a text piece by piece (`scan_literal`, `scan_inner`,
`scan_through`), which gives both directions: a well-cut list is read back from its written form
(`split_writeAll`), and a text that is not balanced is refused at a known position
(`split_of_overclosed`, `split_of_unclosed`). Since every balanced text is the written form of some
well-cut list (`exists_wellCut`), nothing else is ever returned.
-/

namespace LocaleText

namespace Segment

/-! ### Well-cut lists -/

/-- Whether the segment is literal text. -/
def isLiteral : Segment → Bool
  | literal _ => true
  | expression _ => false

/-- Two segments may meet unless both are literals, which would be read as one. -/
def Apart (left right : Segment) : Prop :=
  ¬(left.isLiteral = true ∧ right.isLiteral = true)

instance : DecidableRel Apart := fun left right =>
  inferInstanceAs (Decidable (¬(left.isLiteral = true ∧ right.isLiteral = true)))

/-- A literal is not empty and holds no brace; the body of an expression is balanced. -/
def Proper : Segment → Prop
  | literal text => text ≠ [] ∧ BraceFree text
  | expression body => Balanced body

instance : DecidablePred Proper
  | literal text => inferInstanceAs (Decidable (text ≠ [] ∧ BraceFree text))
  | expression body => inferInstanceAs (Decidable (Balanced body))

/-- What a list of segments satisfies when it is the cut of some text. Every such list is one, as
`split_writeAll` shows. -/
structure WellCut (segments : List Segment) : Prop where
  /-- Each segment can stand in a cut. -/
  proper : ∀ segment ∈ segments, segment.Proper
  /-- No two literals meet. -/
  apart : segments.IsChain Apart

instance (segments : List Segment) : Decidable (WellCut segments) :=
  decidable_of_iff ((∀ segment ∈ segments, segment.Proper) ∧ segments.IsChain Apart)
    ⟨fun h => ⟨h.1, h.2⟩, fun h => ⟨h.proper, h.apart⟩⟩

/-- The list starts with an expression, or with nothing. -/
def StartsOpen (segments : List Segment) : Prop :=
  ∀ next ∈ segments.head?, next.isLiteral = false

theorem startsOpen_nil : StartsOpen [] := by
  intro next mem
  cases mem

theorem startsOpen_expression (body : Text) (segments : List Segment) :
    StartsOpen (expression body :: segments) := by
  intro next mem
  cases mem
  rfl

theorem wellCut_nil : WellCut [] where
  proper := fun _ mem => absurd mem List.not_mem_nil
  apart := List.IsChain.nil

theorem wellCut_cons {segment : Segment} {segments : List Segment} :
    WellCut (segment :: segments) ↔
      segment.Proper ∧ (∀ next ∈ segments.head?, Apart segment next) ∧ WellCut segments := by
  constructor
  · intro h
    obtain ⟨proper, apart⟩ := h
    obtain ⟨meets, apart⟩ := List.isChain_cons.1 apart
    obtain ⟨here, proper⟩ := List.forall_mem_cons.1 proper
    exact ⟨here, meets, proper, apart⟩
  · intro h
    obtain ⟨here, meets, proper, apart⟩ := h
    exact ⟨List.forall_mem_cons.2 ⟨here, proper⟩, List.isChain_cons.2 ⟨meets, apart⟩⟩

/-- A literal goes before an expression. -/
theorem wellCut_literal_cons {text : Text} {segments : List Segment} :
    WellCut (literal text :: segments) ↔
      (text ≠ [] ∧ BraceFree text) ∧ StartsOpen segments ∧ WellCut segments := by
  rw [wellCut_cons]
  refine and_congr Iff.rfl (and_congr ?_ Iff.rfl)
  constructor
  · intro meets next mem
    exact Bool.eq_false_iff.2 fun same => meets next mem ⟨rfl, same⟩
  · intro opened next mem both
    rw [opened next mem] at both
    cases both.2

/-- An expression goes before anything. -/
theorem wellCut_expression_cons {body : Text} {segments : List Segment} :
    WellCut (expression body :: segments) ↔ Balanced body ∧ WellCut segments := by
  rw [wellCut_cons]
  constructor
  · intro h
    obtain ⟨balanced, -, h⟩ := h
    exact ⟨balanced, h⟩
  · intro h
    obtain ⟨balanced, h⟩ := h
    refine ⟨balanced, fun next _ => ?_, h⟩
    intro h
    obtain ⟨literal, -⟩ := h
    cases literal

/-! ### Writing segments down -/

@[simp] theorem writeAll_nil : writeAll [] = [] := rfl

theorem writeAll_literal_cons (text : Text) (segments : List Segment) :
    writeAll (literal text :: segments) = text ++ writeAll segments := rfl

theorem writeAll_expression_cons (body : Text) (segments : List Segment) :
    writeAll (expression body :: segments) = '{' :: (body ++ '}' :: writeAll segments) := by
  simp [writeAll, write]

/-- What is written down from a well-cut list is balanced. So nothing but a balanced text can have a
cut. -/
theorem WellCut.balanced_writeAll {segments : List Segment} (h : WellCut segments) :
    Balanced (writeAll segments) := by
  induction segments with
  | nil => exact balanced_nil
  | cons segment segments ih =>
      cases segment with
      | literal text =>
          obtain ⟨⟨-, free⟩, -, h⟩ := wellCut_literal_cons.1 h
          rw [writeAll_literal_cons]
          exact free.balanced.append (ih h)
      | expression body =>
          obtain ⟨balanced, h⟩ := wellCut_expression_cons.1 h
          rw [writeAll_expression_cons, Balanced, nesting?_open, balanced.nesting?_append,
            nesting?_close_succ]
          exact ih h

/-- **Every balanced text has a cut.** A character outside braces joins the literal that follows it
or starts one; an opening brace takes everything up to its partner. That partner may be anywhere, so
the recursion is on the length of what is left. -/
theorem exists_wellCut {text : Text} (balanced : Balanced text) :
    ∃ segments, WellCut segments ∧ writeAll segments = text := by
  match text with
  | [] => exact ⟨[], wellCut_nil, rfl⟩
  | c :: cs =>
      rcases brace_cases c with rfl | rfl | ⟨notOpen, notClose⟩
      · -- An expression ends at the partner of its brace; the recursion goes on behind it.
        rw [Balanced, nesting?_open] at balanced
        obtain ⟨body, rest, rfl, balancedBody, balancedRest⟩ :=
          exists_partner balanced (Nat.le_refl 0)
        have shorter : rest.length < ('{' :: (body ++ '}' :: rest)).length := by
          simp only [List.length_cons, List.length_append]
          omega
        obtain ⟨segments, h, rfl⟩ := exists_wellCut balancedRest
        exact ⟨expression body :: segments, wellCut_expression_cons.2 ⟨balancedBody, h⟩,
          writeAll_expression_cons body segments⟩
      · rw [Balanced, nesting?_close_zero] at balanced
        cases balanced
      · rw [Balanced, nesting?_other notOpen notClose] at balanced
        obtain ⟨segments, h, rfl⟩ := exists_wellCut balanced
        have free : BraceFree [c] := braceFree_cons.2 ⟨⟨notOpen, notClose⟩, braceFree_nil⟩
        cases segments with
        | nil =>
            exact ⟨[literal [c]],
              wellCut_literal_cons.2 ⟨⟨List.cons_ne_nil c [], free⟩, startsOpen_nil, h⟩, rfl⟩
        | cons segment segments =>
            cases segment with
            | literal text =>
                -- A literal of its own would meet the one that follows.
                obtain ⟨⟨-, freeText⟩, opened, h⟩ := wellCut_literal_cons.1 h
                exact ⟨literal (c :: text) :: segments,
                  wellCut_literal_cons.2
                    ⟨⟨List.cons_ne_nil c text, free.append freeText⟩, opened, h⟩, rfl⟩
            | expression body =>
                exact ⟨literal [c] :: expression body :: segments,
                  wellCut_literal_cons.2
                    ⟨⟨List.cons_ne_nil c [], free⟩, startsOpen_expression body segments, h⟩, rfl⟩
termination_by text.length

/-! ### One step of the scanner -/

section Steps

variable (opened offset : Nat) (pending cs : Text)

theorem scan_open_zero :
    scan 0 opened offset pending ('{' :: cs) =
      (scan 1 offset (offset + 1) [] cs).map (withLiteral pending) := by
  rw [scan.eq_def]
  rfl

theorem scan_open_succ (depth : Nat) :
    scan (depth + 1) opened offset pending ('{' :: cs) =
      scan (depth + 2) opened (offset + 1) ('{' :: pending) cs := by
  rw [scan.eq_def]
  rfl

theorem scan_close_zero :
    scan 0 opened offset pending ('}' :: cs) = .error (.unexpectedClosingBrace offset) := by
  rw [scan.eq_def]
  rfl

theorem scan_close_one :
    scan 1 opened offset pending ('}' :: cs) =
      (scan 0 opened (offset + 1) [] cs).map (expression pending.reverse :: ·) := by
  rw [scan.eq_def]
  rfl

theorem scan_close_succ (depth : Nat) :
    scan (depth + 2) opened offset pending ('}' :: cs) =
      scan (depth + 1) opened (offset + 1) ('}' :: pending) cs := by
  rw [scan.eq_def]
  rfl

theorem scan_other {c : Char} (notOpen : c ≠ '{') (notClose : c ≠ '}') (depth : Nat) :
    scan depth opened offset pending (c :: cs) =
      scan depth opened (offset + c.utf8Size) (c :: pending) cs := by
  rw [scan.eq_def]
  simp [notOpen, notClose]

end Steps

/-! ### The scanner on whole stretches -/

/-- A text without braces joins the segment under way, which is kept in reverse. -/
theorem scan_literal {text : Text} (free : BraceFree text) (opened offset : Nat)
    (pending rest : Text) :
    scan 0 opened offset pending (text ++ rest) =
      scan 0 opened (offset + Text.utf8Size text) (text.reverse ++ pending) rest := by
  induction text generalizing offset pending with
  | nil => rfl
  | cons c cs ih =>
      obtain ⟨⟨notOpen, notClose⟩, free⟩ := braceFree_cons.1 free
      rw [List.cons_append, scan_other _ _ _ _ notOpen notClose, ih free, Text.utf8Size_cons,
        Nat.add_assoc, List.reverse_cons, List.append_assoc]
      rfl

/-- Inside an expression, a stretch that closes none of the braces open before the expression's body
joins the body. The level at which the scanner stands is one more than that in the body. -/
theorem scan_inner {depth level : Nat} {inner : Text} (h : nesting? depth inner = some level)
    (opened offset : Nat) (pending rest : Text) :
    scan (depth + 1) opened offset pending (inner ++ rest) =
      scan (level + 1) opened (offset + Text.utf8Size inner) (inner.reverse ++ pending) rest := by
  induction inner generalizing depth offset pending with
  | nil =>
      rw [nesting?_nil, Option.some.injEq] at h
      rw [h]
      rfl
  -- Each character joins the body; a brace moves the level, which stays above that of the body.
  | cons c cs ih =>
      rw [List.cons_append, Text.utf8Size_cons, List.reverse_cons, List.append_assoc,
        ← Nat.add_assoc]
      rcases brace_cases c with rfl | rfl | ⟨notOpen, notClose⟩
      · rw [nesting?_open] at h
        rw [scan_open_succ, ih h]
        rfl
      · cases depth with
        | zero => rw [nesting?_close_zero] at h; cases h
        | succ outer =>
            rw [nesting?_close_succ] at h
            rw [scan_close_succ, ih h]
            rfl
      · rw [nesting?_other notOpen notClose] at h
        rw [scan_other _ _ _ _ notOpen notClose, ih h]
        rfl

/-- An expression becomes a segment, behind the literal under way. The literal ends there, if there
is one. -/
theorem scan_expression {body : Text} (balanced : Balanced body) (opened offset : Nat)
    (pending rest : Text) :
    scan 0 opened offset pending ('{' :: (body ++ '}' :: rest)) =
      (scan 0 offset (offset + 1 + Text.utf8Size body + 1) [] rest).map fun segments =>
        withLiteral pending (expression body :: segments) := by
  rw [scan_open_zero, scan_inner balanced, List.append_nil, scan_close_one, List.reverse_reverse]
  cases scan 0 offset (offset + 1 + Text.utf8Size body + 1) [] rest <;> rfl

/-- Whatever the scanner makes of a text, it reaches the rest with the position moved on by the
bytes of the text; only the segments found on the way are put in front. Faults are found in the
rest, and which segments are in front does not matter to them; hence nothing is said of what is
found. -/
theorem scan_through {depth level : Nat} {front : Text} (h : nesting? depth front = some level)
    (opened offset : Nat) (pending rest : Text) :
    ∃ opened' pending' found,
      scan depth opened offset pending (front ++ rest) =
        (scan level opened' (offset + Text.utf8Size front) pending' rest).map found := by
  induction front generalizing depth opened offset pending with
  | nil =>
      rw [nesting?_nil, Option.some.injEq] at h
      refine ⟨opened, pending, id, ?_⟩
      rw [h, Except.map_id]
      rfl
  | cons c cs ih =>
      rw [List.cons_append, Text.utf8Size_cons, ← Nat.add_assoc]
      rcases brace_cases c with rfl | rfl | ⟨notOpen, notClose⟩
      · rw [nesting?_open] at h
        cases depth with
        | zero =>
            -- The literal under way ends here, and goes in front of what is found later.
            obtain ⟨opened', pending', found, same⟩ := ih h offset (offset + 1) []
            refine ⟨opened', pending', withLiteral pending ∘ found, ?_⟩
            rw [scan_open_zero, same]
            exact except_map_map _ _ _
        | succ outer =>
            rw [scan_open_succ]
            exact ih h opened (offset + 1) _
      · cases depth with
        | zero => rw [nesting?_close_zero] at h; cases h
        | succ outer =>
            rw [nesting?_close_succ] at h
            cases outer with
            | zero =>
                -- So does the expression under way.
                obtain ⟨opened', pending', found, same⟩ := ih h opened (offset + 1) []
                refine ⟨opened', pending', (expression pending.reverse :: ·) ∘ found, ?_⟩
                rw [scan_close_one, same]
                exact except_map_map _ _ _
            | succ outer =>
                rw [scan_close_succ]
                exact ih h opened (offset + 1) _
      · rw [nesting?_other notOpen notClose] at h
        rw [scan_other _ _ _ _ notOpen notClose]
        exact ih h opened (offset + c.utf8Size) _

/-! ### Reading back what was written -/

theorem withLiteral_nil (segments : List Segment) : withLiteral [] segments = segments := rfl

/-- The literal under way becomes a segment, turned around. -/
theorem withLiteral_reverse {text : Text} (notEmpty : text ≠ []) (segments : List Segment) :
    withLiteral text.reverse segments = literal text :: segments := by
  have pendingNotEmpty : text.reverse.isEmpty = false := by
    simpa [List.isEmpty_eq_false_iff] using notEmpty
  rw [withLiteral, pendingNotEmpty, List.reverse_reverse]
  rfl

/-- The scanner reads a well-cut list back, behind the literal under way if there is one; then the
list must not go on with another literal. -/
theorem scan_writeAll {segments : List Segment} (h : WellCut segments) {pending : Text}
    (separate : pending = [] ∨ StartsOpen segments) (opened offset : Nat) :
    scan 0 opened offset pending (writeAll segments) = .ok (withLiteral pending segments) := by
  induction segments generalizing pending opened offset with
  | nil => rw [writeAll_nil, scan.eq_def]
  | cons segment segments ih =>
      cases segment with
      | literal text =>
          obtain ⟨⟨notEmpty, free⟩, startsOpen, h⟩ := wellCut_literal_cons.1 h
          -- Otherwise the literal under way and this one would be read as one.
          have noPending : pending = [] := by
            rcases separate with same | startsOpen
            · exact same
            · cases startsOpen (literal text) rfl
          subst noPending
          rw [writeAll_literal_cons, scan_literal free, List.append_nil, ih h (Or.inr startsOpen),
            withLiteral_reverse notEmpty, withLiteral_nil]
      | expression body =>
          obtain ⟨balanced, h⟩ := wellCut_expression_cons.1 h
          rw [writeAll_expression_cons, scan_expression balanced, ih h (Or.inl rfl)]
          rfl

/-- A well-cut list is read back from its written form: the scanner starts with no literal under
way. -/
theorem split_writeAll {segments : List Segment} (h : WellCut segments) :
    split (writeAll segments) = .ok segments :=
  scan_writeAll h (Or.inl rfl) 0 0

/-- Two well-cut lists with the same written form are the same, because both are what is read from
it. -/
theorem WellCut.unique {left right : List Segment} (hl : WellCut left) (hr : WellCut right)
    (same : writeAll left = writeAll right) : left = right := by
  have read : split (writeAll left) = .ok right := by
    rw [same]
    exact split_writeAll hr
  rw [split_writeAll hl] at read
  exact Except.ok.inj read

/-! ### Texts without a cut -/

/-- A brace that closes nothing is reported where it stands. -/
theorem split_of_overclosed {front : Text} (balanced : Balanced front) (back : Text) :
    split (front ++ '}' :: back) = .error (.unexpectedClosingBrace (Text.utf8Size front)) := by
  obtain ⟨opened, pending, found, same⟩ := scan_through balanced 0 0 [] ('}' :: back)
  rw [split, same, scan_close_zero, Nat.zero_add]
  rfl

/-- An outermost brace that stays open is reported where it stands, whatever braces are open behind
it. -/
theorem split_of_unclosed {front back : Text} {level : Nat} (balanced : Balanced front)
    (h : nesting? 0 back = some level) :
    split (front ++ '{' :: back) = .error (.unclosedBrace (Text.utf8Size front)) := by
  obtain ⟨opened, pending, found, same⟩ := scan_through balanced 0 0 [] ('{' :: back)
  have inside := scan_inner h (0 + Text.utf8Size front) (0 + Text.utf8Size front + 1) [] []
  rw [List.append_nil] at inside
  rw [split, same, scan_open_zero, inside, scan.eq_def, Nat.zero_add]
  rfl

/-- **The three outcomes of cutting a text.** It has a cut, or a brace that closes nothing, or an
outermost brace that is never closed. The nesting of the text tells which: it is zero, there is
none, or it is positive. -/
theorem cut_cases (text : Text) :
    (∃ segments, WellCut segments ∧ writeAll segments = text ∧ split text = .ok segments) ∨
    (∃ front back, text = front ++ '}' :: back ∧ Balanced front ∧
      split text = .error (.unexpectedClosingBrace (Text.utf8Size front))) ∨
    (∃ front back level, text = front ++ '{' :: back ∧ Balanced front ∧
      nesting? 0 back = some level ∧
      split text = .error (.unclosedBrace (Text.utf8Size front))) := by
  cases h : nesting? 0 text with
  | none =>
      obtain ⟨front, back, rfl, balanced⟩ := nesting?_eq_none_iff.1 h
      exact Or.inr (Or.inl ⟨front, back, rfl, balanced, split_of_overclosed balanced back⟩)
  | some level =>
      cases level with
      | zero =>
          obtain ⟨segments, wellCut, rfl⟩ := exists_wellCut h
          exact Or.inl ⟨segments, wellCut, rfl, split_writeAll wellCut⟩
      | succ level =>
          obtain ⟨front, back, rfl, balanced, hBack⟩ := exists_leftmost_open h
          exact Or.inr (Or.inr
            ⟨front, back, level, rfl, balanced, hBack, split_of_unclosed balanced hBack⟩)

/-- Cutting a text returns exactly the well-cut list whose written form it is. Together with
`exists_wellCut` it describes cutting without the scanner. -/
theorem split_eq_ok_iff {text : Text} {segments : List Segment} :
    split text = .ok segments ↔ writeAll segments = text ∧ WellCut segments := by
  constructor
  · intro h
    rcases cut_cases text with ⟨cut, wellCut, written, same⟩ | ⟨_, _, _, _, same⟩ |
      ⟨_, _, _, _, _, _, same⟩
    · rw [same, Except.ok.injEq] at h
      subst h
      exact ⟨written, wellCut⟩
    · rw [same] at h; cases h
    · rw [same] at h; cases h
  · intro h
    obtain ⟨rfl, wellCut⟩ := h
    exact split_writeAll wellCut

/-- **Cutting inverts writing down.** Exactly the texts whose prefixes close no more braces than
they open, and which close all of them, have a cut; a cut is a well-cut list whose written form is
the text; and there is only one such list.

So cutting and writing down are inverse to each other between these texts and the well-cut lists,
and no other text has a cut. -/
theorem split_inverts_writeAll (text : Text) :
    ((∃ segments, split text = .ok segments) ↔
      (∀ front, front <+: text → front.count '}' ≤ front.count '{') ∧
        text.count '{' = text.count '}') ∧
    (∀ segments, split text = .ok segments ↔ writeAll segments = text ∧ WellCut segments) ∧
    (∀ left right, WellCut left → WellCut right → writeAll left = text → writeAll right = text →
      left = right) := by
  refine ⟨?_, fun segments => split_eq_ok_iff, fun left right hl hr written written' => ?_⟩
  · rw [← balanced_iff_count]
    constructor
    · intro h
      obtain ⟨segments, h⟩ := h
      obtain ⟨rfl, wellCut⟩ := split_eq_ok_iff.1 h
      exact wellCut.balanced_writeAll
    · intro balanced
      obtain ⟨segments, wellCut, rfl⟩ := exists_wellCut balanced
      exact ⟨segments, split_writeAll wellCut⟩
  · exact hl.unique hr (written.trans written'.symm)

/-- Braces inside an expression stay in its body, and nothing stands between expressions. -/
example : split "né {n:{a|b}}{}!".toList =
    .ok [literal "né ".toList, expression "n:{a|b}".toList, expression [],
      literal "!".toList] := rfl

end Segment

end LocaleText
