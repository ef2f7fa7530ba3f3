import LocaleText.Proofs.Faults
import LocaleText.Proofs.Inheritance
import LocaleText.Proofs.Trimming

/-!
# LocaleText.Proofs.Keys

**Which key a part gets.** `KeyDue before segment after key` says, of the segments of a template,
which key is due to the expression between `before` and `after`: its own, that of the closest
placeholder in front of a block, that of the first placeholder of all, or `0` where no expression
writes a key. Reading gives every expression the key that is due to it (`keys_follow_one_rule`).

The key that a placeholder writes is described without its reader (`Placeholder.Opens`). The two
keys that reading carries along, the first one offered and the last one, are then those of the
scanned front (`Part.inheritFrom_append`), which makes the rule a matter of finding the first
placeholder with a key from the left and from the right.

Blocks pass no key on. Where only blocks write keys, nothing is due to an expression that writes
none, and reading gives it the position `0` (`default_key_without_placeholders`).
-/

namespace LocaleText

/-! ### The key of a placeholder -/

/-- `head` is what `body` opens with: it ends at the first question mark, the first colon, or the
first bar outside braces. -/
structure Placeholder.Opens (body head : Text) : Prop where
  /-- No question mark stands in the head. -/
  noMark : '?' ∉ head
  /-- No colon stands in the head. -/
  noColon : ':' ∉ head
  /-- Bars stand inside braces only. -/
  shielded : Shielded '|' head
  /-- One of these follows, or nothing. -/
  stops : ∃ rest, body = head ++ rest ∧
    ∀ c ∈ rest.head?, c = '?' ∨ c = ':' ∨ c = '|' ∧ Balanced head

/-- A head does not go on in another head of the same body: what would follow it is one of the
characters at which a head ends. -/
theorem Placeholder.Opens.eq_of_append {body head gap : Text} (opens : Opens body head)
    (longer : Opens body (head ++ gap)) : head ++ gap = head := by
  obtain ⟨rest, rfl, stops⟩ := opens.stops
  obtain ⟨behind, same, -⟩ := longer.stops
  cases gap with
  | nil => exact List.append_nil head
  | cons c gap =>
      rw [List.append_assoc] at same
      rw [List.append_cancel_left same] at stops
      have inside : c ∈ head ++ c :: gap := List.mem_append_right head List.mem_cons_self
      rcases stops c rfl with rfl | rfl | ⟨rfl, balanced⟩
      · exact absurd inside longer.noMark
      · exact absurd inside longer.noColon
      · exact absurd balanced (longer.shielded head gap rfl)

/-- A body opens with one head. Of two heads one begins with the other, so `Opens.eq_of_append`
applies to one of the two sides. -/
theorem Placeholder.Opens.unique {body left right : Text} (hl : Opens body left)
    (hr : Opens body right) : left = right := by
  obtain ⟨_, whole, -⟩ := hl.stops
  obtain ⟨_, same, -⟩ := hr.stops
  rw [whole] at same
  rcases List.append_eq_append_iff.1 same with ⟨gap, rfl, -⟩ | ⟨gap, rfl, -⟩
  · exact (hl.eq_of_append hr).symm
  · exact hr.eq_of_append hl

/-- A body without any stop is its own head. -/
theorem Placeholder.opens_self {body : Text} (noMark : '?' ∉ body) (noColon : ':' ∉ body)
    (shielded : Shielded '|' body) : Opens body body := by
  refine ⟨noMark, noColon, shielded, [], (List.append_nil body).symm, fun c mem => ?_⟩
  cases mem

/-- The first stretch of a text ends at the first separator. -/
theorem Text.cuts_fst (sep : Char) (text : Text) :
    sep ∉ (cuts sep text).1 ∧
      ∃ rest, text = (cuts sep text).1 ++ rest ∧ ∀ c ∈ rest.head?, c = sep := by
  by_cases here : sep ∈ text
  · obtain ⟨front, back, rfl, absent⟩ := List.eq_append_cons_of_mem here
    rw [cuts_append absent]
    refine ⟨absent, sep :: back, rfl, fun c mem => ?_⟩
    cases mem
    rfl
  · rw [cuts_of_not_mem here]
    refine ⟨here, [], (List.append_nil text).symm, fun c mem => ?_⟩
    cases mem

/-- Reading a placeholder finds what its body opens with. The reader cuts three times, at bars
outside braces, then at colons in what is in front of the first of them, then at question marks in
what is in front of the first of these; the head is what remains. -/
theorem Placeholder.exists_opens {body : Text} (balanced : Balanced body) :
    ∃ head, Opens body head ∧ (read body).key = Text.trim head := by
  obtain ⟨level, shielded, behindBar, whole, bar⟩ :=
    topCuts_fst (by decide : '|' ≠ '{') (by decide) balanced
  obtain ⟨noColon, behindColon, typed, colon⟩ := Text.cuts_fst ':' (topCuts '|' 0 body).1
  obtain ⟨noMark, behindMark, marked, mark⟩ :=
    Text.cuts_fst '?' (Text.cuts ':' (topCuts '|' 0 body).1).1
  refine ⟨_, ⟨noMark, ?_, ?_, behindMark ++ behindColon ++ behindBar, ?_, ?_⟩, rfl⟩
  · intro mem
    refine noColon ?_
    rw [marked]
    exact List.mem_append_left behindMark mem
  · rw [typed, marked, List.append_assoc] at shielded
    exact shielded.of_append
  · rw [List.append_assoc, ← List.append_assoc, ← List.append_assoc, ← marked, ← typed, ← whole]
  · intro c mem
    -- What follows starts with the first of the three that is there.
    cases behindMark with
    | cons first rest => exact Or.inl (mark c mem)
    | nil =>
        cases behindColon with
        | cons first rest => exact Or.inr (Or.inl (colon c mem))
        | nil =>
            rw [List.append_nil] at typed marked
            rw [← marked, ← typed]
            exact Or.inr (Or.inr ⟨bar c mem, level⟩)

/-- The key that a placeholder writes is what it opens with, blanks aside. With this the reader of
placeholders can be forgotten. -/
theorem Placeholder.key_read {body head : Text} (balanced : Balanced body)
    (opens : Opens body head) : (read body).key = Text.trim head := by
  obtain ⟨found, opensFound, same⟩ := exists_opens balanced
  rw [same, opensFound.unique opens]

/-! ### The keys of a template -/

namespace Segment

/-- The segment is a placeholder that writes `key`, the empty text standing for no key. An
expression is a placeholder when it is no plural block. -/
def IsPlaceholder (segment : Segment) (key : Text) : Prop :=
  ∃ body head, segment = .expression body ∧ PluralBlock.source? body = none ∧
    Placeholder.Opens body head ∧ key = Text.trim head

/-- The segment is a plural block that writes `key`, the empty text standing for no key. -/
def IsBlock (segment : Segment) (key : Text) : Prop :=
  ∃ body head list, segment = .expression body ∧
    PluralBlock.source? body = some (head, list) ∧ key = Text.trim head

/-- The segment is an expression that writes `key`. No two keys are written by one expression, and
every expression writes one, possibly the empty one (`exists_writes`). -/
def Writes (segment : Segment) (key : Text) : Prop :=
  segment.IsPlaceholder key ∨ segment.IsBlock key

/-- The segment is a placeholder that writes a key, and this is the key. Only such keys are passed
on to expressions that write none. -/
def Offers (segment : Segment) (key : Text) : Prop :=
  segment.IsPlaceholder key ∧ key ≠ []

end Segment

/-- **The key that is due** to the expression `segment`, which stands between `before` and `after`.
The cases exclude each other, and cover every expression unless the only keys written are those of
blocks: then nothing is due to an expression that writes none. -/
inductive KeyDue (before : List Segment) (segment : Segment) (after : List Segment) : Text → Prop
  /-- A key that is written stays. -/
  | own {key : Text} : segment.Writes key → key ≠ [] → KeyDue before segment after key
  /-- A block without a key takes that of the closest placeholder before it that writes one. -/
  | preceding {earlier between : List Segment} {offering : Segment} {key : Text} :
      segment.IsBlock [] → before = earlier ++ offering :: between → offering.Offers key →
      (∀ other ∈ between, ∀ key, ¬other.Offers key) → KeyDue before segment after key
  /-- Without such a placeholder, and always in a placeholder without a key, the key is that of the
  first placeholder of all that writes one. -/
  | first {earlier later : List Segment} {offering : Segment} {key : Text} :
      segment.IsPlaceholder [] ∨
        segment.IsBlock [] ∧ (∀ other ∈ before, ∀ key, ¬other.Offers key) →
      before ++ segment :: after = earlier ++ offering :: later → offering.Offers key →
      (∀ other ∈ earlier, ∀ key, ¬other.Offers key) → KeyDue before segment after key
  /-- Where no expression writes a key, every key is the position `0`. -/
  | nowhere : segment.Writes [] →
      (∀ other ∈ before ++ segment :: after, ∀ key, other.Writes key → key = []) →
      KeyDue before segment after ['0']

/-! ### Segments and the parts read from them -/

namespace Part

section Segment

variable {segment : Segment} {part : Part} {key : Text}

/-- A segment is a placeholder exactly when a placeholder is read from it, with the key that it
writes. The segment has to be proper, that is, balanced: otherwise its bars could not be told from
those in braces. -/
theorem isPlaceholder_iff (proper : segment.Proper) (h : ofSegment segment = .ok part) :
    segment.IsPlaceholder key ↔ ∃ p, part = .placeholder p ∧ p.key = key := by
  cases segment with
  | literal text =>
      cases h
      constructor
      · intro is
        obtain ⟨body, head, same, -⟩ := is
        cases same
      · intro is
        obtain ⟨p, same, -⟩ := is
        cases same
  -- The part that is read says of which kind the expression is.
  | expression body =>
      rcases ofExpression_cases h with ⟨source, rfl⟩ | ⟨head, list, forms, source, -, rfl⟩
      · constructor
        · intro is
          obtain ⟨_, head, same, -, opens, rfl⟩ := is
          cases same
          exact ⟨_, rfl, Placeholder.key_read proper opens⟩
        · intro is
          obtain ⟨p, same, rfl⟩ := is
          cases same
          obtain ⟨head, opens, read⟩ := Placeholder.exists_opens proper
          exact ⟨body, head, rfl, source, opens, read⟩
      · constructor
        · intro is
          obtain ⟨_, _, same, noSource, -⟩ := is
          cases same
          rw [source] at noSource
          cases noSource
        · intro is
          obtain ⟨p, same, -⟩ := is
          cases same

/-- A segment is a block exactly when a block is read from it, with the key that it writes. What
counts as a block, and where its key ends, is read off the text by `PluralBlock.source?` on both
sides. -/
theorem isBlock_iff (h : ofSegment segment = .ok part) :
    segment.IsBlock key ↔ ∃ block, part = .plural block ∧ block.key = key := by
  cases segment with
  | literal text =>
      cases h
      constructor
      · intro is
        obtain ⟨body, head, list, same, -⟩ := is
        cases same
      · intro is
        obtain ⟨block, same, -⟩ := is
        cases same
  | expression body =>
      rcases ofExpression_cases h with ⟨source, rfl⟩ | ⟨head, list, forms, source, -, rfl⟩
      · constructor
        · intro is
          obtain ⟨_, _, _, same, found, -⟩ := is
          cases same
          rw [source] at found
          cases found
        · intro is
          obtain ⟨block, same, -⟩ := is
          cases same
      · constructor
        · intro is
          obtain ⟨_, _, _, same, found, rfl⟩ := is
          cases same
          rw [source] at found
          cases found
          exact ⟨_, rfl, rfl⟩
        · intro is
          obtain ⟨block, same, rfl⟩ := is
          cases same
          exact ⟨body, head, list, rfl, source, rfl⟩

/-- A segment writes the key that its part is read with. By this and `offers_iff`, `KeyDue` becomes
a statement about the parts. -/
theorem writes_iff (proper : segment.Proper) (h : ofSegment segment = .ok part) :
    segment.Writes key ↔ part.key? = some key := by
  rw [Segment.Writes, isPlaceholder_iff proper h, isBlock_iff h]
  cases part <;> simp [key?]

theorem isLiteral_ofSegment (h : ofSegment segment = .ok part) :
    part.isLiteral = segment.isLiteral := by
  cases segment with
  | literal text =>
      cases h
      rfl
  | expression body =>
      rcases ofExpression_cases h with ⟨-, rfl⟩ | ⟨head, list, forms, -, -, rfl⟩
      · rfl
      · rfl

/-- A key is offered to other parts by the segments that offer it. -/
theorem offers_iff (proper : segment.Proper) (h : ofSegment segment = .ok part) :
    segment.Offers key ↔ part.offeredKey? = some key := by
  rw [Segment.Offers, isPlaceholder_iff proper h]
  constructor
  · intro offers
    obtain ⟨⟨p, rfl, rfl⟩, notEmpty⟩ := offers
    rw [offeredKey?, List.isEmpty_eq_false_iff.2 notEmpty, if_neg Bool.false_ne_true]
  · intro offered
    cases part with
    | literal text => cases offered
    | plural block => cases offered
    | placeholder p =>
        rw [offeredKey?] at offered
        split at offered
        · cases offered
        · next written =>
          cases offered
          exact ⟨⟨p, rfl, rfl⟩, List.isEmpty_eq_false_iff.1 (Bool.eq_false_iff.2 written)⟩

/-- The keys that are read from a segment are trimmed. -/
theorem trimmed_of_ofSegment (proper : segment.Proper) (h : ofSegment segment = .ok part)
    (here : part.key? = some key) : Text.Trimmed key := by
  cases part with
  | literal text => cases here
  | placeholder p =>
      cases here
      obtain ⟨_, head, -, -, -, same⟩ := (isPlaceholder_iff proper h).2 ⟨p, rfl, rfl⟩
      rw [same]
      exact Text.trimmed_trim head
  | plural block =>
      cases here
      obtain ⟨_, head, _, -, -, same⟩ := (isBlock_iff h).2 ⟨block, rfl, rfl⟩
      rw [same]
      exact Text.trimmed_trim head

end Segment

end Part

/-! ### The first and the closest key -/

section Offered

variable {segments : List Segment} {parts : List Part}

/-- Segments that offer no key are read as parts that offer none. This is what reduces the first and
the closest key to the position of one segment. -/
theorem offeredKey?_eq_none (proper : ∀ segment ∈ segments, segment.Proper)
    (read : segments.mapM Part.ofSegment = .ok parts)
    (noOffer : ∀ segment ∈ segments, ∀ key, ¬segment.Offers key) :
    ∀ part ∈ parts, part.offeredKey? = none := by
  intro part mem
  obtain ⟨segment, here, given⟩ := exists_of_mem_mapM read mem
  rw [Option.eq_none_iff_forall_ne_some]
  intro key offered
  exact noOffer segment here key ((Part.offers_iff (proper segment here) given).2 offered)

variable {earlier later : List Segment} {offering : Segment} {key : Text}

/-- The first segment that offers a key gives the first key offered by the parts: those before it
are read as parts that offer none. -/
theorem findSome?_eq_of_offers (proper : ∀ segment ∈ earlier ++ offering :: later, segment.Proper)
    (read : (earlier ++ offering :: later).mapM Part.ofSegment = .ok parts)
    (offers : offering.Offers key) (noOffer : ∀ segment ∈ earlier, ∀ key, ¬segment.Offers key) :
    parts.findSome? Part.offeredKey? = some key := by
  obtain ⟨left, part, right, rfl, front, here, -⟩ := exists_of_mapM_append_cons read
  obtain ⟨properFront, properRest⟩ := List.forall_mem_append.1 proper
  have offered := (Part.offers_iff (properRest offering List.mem_cons_self) here).1 offers
  exact List.findSome?_eq_some_iff.2
    ⟨left, part, right, rfl, offered, offeredKey?_eq_none properFront front noOffer⟩

/-- The last segment that offers a key gives the last key offered by the parts, which is the first
one of the parts in reverse. -/
theorem findSome?_reverse_eq_of_offers
    (proper : ∀ segment ∈ earlier ++ offering :: later, segment.Proper)
    (read : (earlier ++ offering :: later).mapM Part.ofSegment = .ok parts)
    (offers : offering.Offers key) (noOffer : ∀ segment ∈ later, ∀ key, ¬segment.Offers key) :
    parts.reverse.findSome? Part.offeredKey? = some key := by
  obtain ⟨left, part, right, rfl, -, here, back⟩ := exists_of_mapM_append_cons read
  obtain ⟨properHere, properBack⟩ := List.forall_mem_cons.1 (List.forall_mem_append.1 proper).2
  have offered := (Part.offers_iff properHere here).1 offers
  refine List.findSome?_eq_some_iff.2
    ⟨right.reverse, part, left.reverse, by simp, offered, fun other mem => ?_⟩
  exact offeredKey?_eq_none properBack back noOffer other (List.mem_reverse.1 mem)

/-- A key that a part offers is trimmed and not empty. -/
theorem named_of_offeredKey? {key : Text} {part : Part}
    (proper : ∀ segment ∈ segments, segment.Proper)
    (read : segments.mapM Part.ofSegment = .ok parts) (mem : part ∈ parts)
    (offered : part.offeredKey? = some key) : key ≠ [] ∧ Text.Trimmed key := by
  obtain ⟨segment, here, given⟩ := exists_of_mem_mapM read mem
  have offers := (Part.offers_iff (proper segment here) given).2 offered
  obtain ⟨⟨_, head, -, -, -, same⟩, written⟩ := offers
  refine ⟨written, ?_⟩
  rw [same]
  exact Text.trimmed_trim head

/-- The key that stands in for those left out is trimmed and not empty, be it one that a placeholder
writes or `0`. -/
theorem standIn_named (proper : ∀ segment ∈ segments, segment.Proper)
    (read : segments.mapM Part.ofSegment = .ok parts) :
    Part.standIn parts ≠ [] ∧ Text.Trimmed (Part.standIn parts) := by
  rw [Part.standIn]
  cases first : parts.findSome? Part.offeredKey? with
  | none => decide
  | some key =>
      obtain ⟨part, mem, offered⟩ := List.exists_of_findSome?_eq_some first
      exact named_of_offeredKey? proper read mem offered

end Offered

/-! ### The key of an expression -/

section Due

variable {before after : List Segment} {segment : Segment} {left right : List Part} {part : Part}
  {key : Text} (proper : ∀ other ∈ before ++ segment :: after, other.Proper)
  (read : (before ++ segment :: after).mapM Part.ofSegment = .ok (left ++ part :: right))
  (front : before.mapM Part.ofSegment = .ok left) (here : Part.ofSegment segment = .ok part)

include proper front in
/-- Nothing is inherited from segments that offer no key, so a block behind them falls back on the
first key of all. -/
theorem closest_eq_none (noOffer : ∀ other ∈ before, ∀ key, ¬other.Offers key) :
    left.reverse.findSome? Part.offeredKey? = none := by
  have properFront := (List.forall_mem_append.1 proper).1
  refine List.findSome?_eq_none_iff.2 fun other mem => ?_
  exact offeredKey?_eq_none properFront front noOffer other (List.mem_reverse.1 mem)

include proper read front here in
/-- Where no placeholder writes a key, an expression that writes none has the position `0`. This
holds whatever keys are written by blocks. -/
theorem key?_filledIn_of_no_offer (keyless : segment.Writes [])
    (noOffer : ∀ other ∈ before ++ segment :: after, ∀ key, ¬other.Offers key) :
    (Part.filledIn left part right).key? = some Part.defaultKey := by
  have properHere := proper segment (List.mem_append_right before List.mem_cons_self)
  have standIn : Part.standIn (left ++ part :: right) = Part.defaultKey := by
    have none := List.findSome?_eq_none_iff.2 (offeredKey?_eq_none proper read noOffer)
    rw [Part.standIn, none, Option.getD_none]
  have closest := closest_eq_none proper front (List.forall_mem_append.1 noOffer).1
  rw [Part.filledIn, standIn, closest]
  rcases keyless with is | is
  · obtain ⟨p, rfl, keyless⟩ := (Part.isPlaceholder_iff properHere here).1 is
    exact Part.key?_inherit_placeholder _ _ keyless
  · obtain ⟨block, rfl, keyless⟩ := (Part.isBlock_iff here).1 is
    exact Part.key?_inherit_plural _ _ keyless

include proper read front here in
/-- **Reading fills in the key that is due.** For each case of `KeyDue` the two keys that reading
carries along, the closest one and the first one, are worked out from where the offering segment
stands. -/
theorem KeyDue.key?_filledIn (due : KeyDue before segment after key) :
    (Part.filledIn left part right).key? = some key := by
  obtain ⟨properFront, properRest⟩ := List.forall_mem_append.1 proper
  have properHere := properRest segment List.mem_cons_self
  cases due with
  | own writes written =>
      rcases writes with is | is
      · obtain ⟨p, rfl, rfl⟩ := (Part.isPlaceholder_iff properHere here).1 is
        exact congrArg some (Part.orElseKey_of_ne written _)
      · obtain ⟨block, rfl, rfl⟩ := (Part.isBlock_iff here).1 is
        exact congrArg some (Part.orElseKey_of_ne written _)
  -- The closest key is there, so the first one does not matter.
  | preceding is same offers noOffer =>
      obtain ⟨block, rfl, keyless⟩ := (Part.isBlock_iff here).1 is
      rw [same] at properFront front
      rw [Part.filledIn, findSome?_reverse_eq_of_offers properFront front offers noOffer]
      exact Part.key?_inherit_plural _ _ keyless
  | first keyless same offers noOffer =>
      have standIn : Part.standIn (left ++ part :: right) = key := by
        rw [same] at proper read
        rw [Part.standIn, findSome?_eq_of_offers proper read offers noOffer, Option.getD_some]
      rw [Part.filledIn, standIn]
      rcases keyless with is | ⟨is, noneBefore⟩
      · obtain ⟨p, rfl, keyless⟩ := (Part.isPlaceholder_iff properHere here).1 is
        exact Part.key?_inherit_placeholder _ _ keyless
      · obtain ⟨block, rfl, keyless⟩ := (Part.isBlock_iff here).1 is
        rw [closest_eq_none proper front noneBefore]
        exact Part.key?_inherit_plural _ _ keyless
  -- A segment that offers a key writes it, so none is offered.
  | nowhere keyless noKey =>
      refine key?_filledIn_of_no_offer proper read front here keyless ?_
      intro other mem key offers
      exact offers.2 (noKey other mem key (Or.inl offers.1))

include proper read front here in
/-- Every key that reading fills in is trimmed and not empty, whichever of the cases applies, and
also where nothing is due. -/
theorem exists_key?_filledIn (expression : part.isLiteral = false) :
    ∃ key, (Part.filledIn left part right).key? = some key ∧ key ≠ [] ∧ Text.Trimmed key := by
  obtain ⟨properFront, properRest⟩ := List.forall_mem_append.1 proper
  have properHere := properRest segment List.mem_cons_self
  have standIn := standIn_named proper read
  have orElse {own other : Text} (trimmed : Text.Trimmed own)
      (named : other ≠ [] ∧ Text.Trimmed other) :
      Part.orElseKey own other ≠ [] ∧ Text.Trimmed (Part.orElseKey own other) := by
    by_cases written : own = []
    · rw [written]
      exact named
    · rw [Part.orElseKey_of_ne written]
      exact ⟨written, trimmed⟩
  cases part with
  | literal text => cases expression
  | placeholder p =>
      exact ⟨_, rfl, orElse (Part.trimmed_of_ofSegment properHere here rfl) standIn⟩
  | plural block =>
      refine ⟨_, rfl, orElse (Part.trimmed_of_ofSegment properHere here rfl) ?_⟩
      cases closest : left.reverse.findSome? Part.offeredKey? with
      | none => exact standIn
      | some key =>
          obtain ⟨other, mem, offered⟩ := List.exists_of_findSome?_eq_some closest
          exact named_of_offeredKey? properFront front (List.mem_reverse.1 mem) offered

end Due

/-! ### The rule -/

section First

variable {α : Type} {holds : α → Prop} {items : List α}

/-- A list with a member of a kind has a first one, with none of that kind before it. -/
theorem exists_first (h : ∃ item ∈ items, holds item) :
    ∃ earlier item later, items = earlier ++ item :: later ∧ holds item ∧
      ∀ other ∈ earlier, ¬holds other := by
  induction items with
  | nil =>
      obtain ⟨item, mem, -⟩ := h
      cases mem
  | cons head tail ih =>
      by_cases first : holds head
      · exact ⟨[], head, tail, rfl, first, fun other mem => absurd mem List.not_mem_nil⟩
      · have inTail : ∃ item ∈ tail, holds item := by
          obtain ⟨item, mem, here⟩ := h
          rcases List.mem_cons.1 mem with rfl | mem
          · exact absurd here first
          · exact ⟨item, mem, here⟩
        obtain ⟨earlier, item, later, rfl, here, none⟩ := ih inTail
        exact ⟨head :: earlier, item, later, rfl, here, List.forall_mem_cons.2 ⟨first, none⟩⟩

/-- A list with a member of a kind has a last one. -/
theorem exists_last (h : ∃ item ∈ items, holds item) :
    ∃ earlier item later, items = earlier ++ item :: later ∧ holds item ∧
      ∀ other ∈ later, ¬holds other := by
  have reversed : ∃ item ∈ items.reverse, holds item := by
    simpa only [List.mem_reverse] using h
  obtain ⟨later, item, earlier, same, here, none⟩ := exists_first reversed
  refine ⟨earlier.reverse, item, later.reverse, ?_, here, fun other mem => ?_⟩
  · rw [← List.reverse_reverse items, same]
    simp only [List.reverse_append, List.reverse_cons, List.append_assoc, List.singleton_append]
  · exact none other (List.mem_reverse.1 mem)

end First

section Exists

variable {before after : List Segment} {segment : Segment}

/-- Where a placeholder writes a key, such a key is due to every expression that writes none. For a
block it is the closest one in front of it, and the first one of all if there is none in front. -/
theorem exists_keyDue_of_offer (keyless : segment.Writes [])
    (offered : ∃ other ∈ before ++ segment :: after, ∃ key, other.Offers key) :
    ∃ key, KeyDue before segment after key ∧
      ∃ other ∈ before ++ segment :: after, other.Offers key := by
  obtain ⟨earlier, offering, later, same, ⟨key, offers⟩, noOffer⟩ := exists_first offered
  simp only [not_exists] at noOffer
  have inside : offering ∈ before ++ segment :: after := by
    rw [same]
    exact List.mem_append_right earlier List.mem_cons_self
  rcases keyless with is | is
  · exact ⟨key, .first (Or.inl is) same offers noOffer, offering, inside, offers⟩
  · by_cases offeredBefore : ∃ other ∈ before, ∃ key, other.Offers key
    · obtain ⟨early, closest, between, rfl, ⟨key, offers⟩, noOffer⟩ := exists_last offeredBefore
      simp only [not_exists] at noOffer
      have mem : closest ∈ early ++ closest :: between :=
        List.mem_append_right early List.mem_cons_self
      exact ⟨key, .preceding is rfl offers noOffer, closest, List.mem_append_left _ mem, offers⟩
    · simp only [not_exists, not_and] at offeredBefore
      exact ⟨key, .first (Or.inr ⟨is, offeredBefore⟩) same offers noOffer, offering, inside,
        offers⟩

/-- A key is due to every expression, unless only blocks write keys. The second alternative covers
the templates in which nobody writes a key. -/
theorem exists_keyDue {own : Text} (writes : segment.Writes own)
    (h : (∃ other ∈ before ++ segment :: after, ∃ key, other.Offers key) ∨
      ∀ other ∈ before ++ segment :: after, ∀ key, other.Writes key → key = []) :
    ∃ key, KeyDue before segment after key := by
  by_cases written : own = []
  · subst written
    rcases h with offered | noKey
    · obtain ⟨key, due, -⟩ := exists_keyDue_of_offer writes offered
      exact ⟨key, due⟩
    · exact ⟨_, .nowhere writes noKey⟩
  · exact ⟨own, .own writes written⟩

/-- Every expression of a template writes a key or the empty text in its place. -/
theorem Segment.exists_writes (proper : segment.Proper) (expression : segment.isLiteral = false) :
    ∃ key, segment.Writes key := by
  cases segment with
  | literal text => cases expression
  | expression body =>
      cases source : PluralBlock.source? body with
      | none =>
          obtain ⟨head, opens, -⟩ := Placeholder.exists_opens proper
          exact ⟨_, Or.inl ⟨body, head, rfl, source, opens, rfl⟩⟩
      | some found =>
          obtain ⟨head, list⟩ := found
          exact ⟨_, Or.inr ⟨body, head, list, rfl, source, rfl⟩⟩

end Exists

/-- Blocks offer no key. This is where a key that a block writes is lost to all others. -/
theorem Segment.not_offers_of_source? {body key : Text} {found : Text × Text}
    (source : PluralBlock.source? body = some found) : ¬(expression body).Offers key := by
  intro offers
  obtain ⟨⟨_, _, same, none, -⟩, -⟩ := offers
  cases same
  rw [source] at none
  cases none

/-- What is known of the part that the segment between `before` and `after` becomes. -/
structure Part.Resolved (before : List Segment) (segment : Segment) (after : List Segment)
    (part : Part) : Prop where
  /-- Literal text stays literal text, and no expression becomes literal text. -/
  isLiteral : part.isLiteral = segment.isLiteral
  /-- The key of the part is the one that is due. -/
  due : ∀ key, KeyDue before segment after key → part.key? = some key
  /-- One is due to every expression, unless only blocks write keys. -/
  exists_due : segment.isLiteral = false →
    (∃ other ∈ before ++ segment :: after, ∃ key, other.Offers key) ∨
      (∀ other ∈ before ++ segment :: after, ∀ key, other.Writes key → key = []) →
    ∃ key, KeyDue before segment after key
  /-- Every expression has a key in the end, which is trimmed and not empty. -/
  named : segment.isLiteral = false → ∃ key, part.key? = some key ∧ key ≠ [] ∧ Text.Trimmed key

namespace Template

/-- The part of a template that a segment becomes. Tidying comes last and works part by part, so it
can be read off the position. -/
theorem getElem?_parts {options : ParseOptions} {template : Template} {left right : List Part}
    {part : Part} (h : template.parts =
      (Part.inheritKeys (left ++ part :: right)).map (Part.tidy options)) :
    template.parts[left.length]? = some ((Part.filledIn left part right).tidy options) := by
  rw [h, List.getElem?_map, Part.inheritKeys_append_cons]
  rfl

variable {options : ParseOptions} {text : Text} {template : Template}

/-- **Keys are filled in by one rule.** A text that reads is cut into segments, and the template has
one part for each of them, at the same position. `Part.Resolved` says what this part is: literal
exactly when the segment is, and, for an expression, with the key that is due to it; so with its own
key if it writes one, with the key of the closest placeholder in front if it is a block, and with
that of the first placeholder otherwise.

A key is due to every expression, unless keys are written by blocks only, and in any case every
expression ends up with a key that is trimmed and not empty. Options do not matter, and nothing is
assumed of the text but that it reads. -/
theorem keys_follow_one_rule (h : parse options text = .ok template) :
    ∃ segments, Segment.split text = .ok segments ∧ template.parts.length = segments.length ∧
      ∀ before segment after, segments = before ++ segment :: after →
        ∃ part, template.parts[before.length]? = some part ∧
          Part.Resolved before segment after part := by
  obtain ⟨segments, parts, cut, read, same⟩ := exists_of_parse h
  have proper := (Segment.split_eq_ok_iff.1 cut).2.proper
  refine ⟨segments, cut, ?_, ?_⟩
  · rw [same, List.length_map, Part.inheritKeys, Part.length_inheritFrom, length_of_mapM read]
  intro before segment after whole
  subst whole
  -- The segment stands among the others as its part does among theirs.
  obtain ⟨left, part, right, rfl, front, here, -⟩ := exists_of_mapM_append_cons read
  have properHere := proper segment (List.mem_append_right before List.mem_cons_self)
  have literal := Part.isLiteral_ofSegment here
  refine ⟨(Part.filledIn left part right).tidy options, ?_, ?_, fun key due => ?_, ?_, ?_⟩
  · rw [← length_of_mapM front]
    exact getElem?_parts same
  · rw [Part.isLiteral_tidy, Part.filledIn, Part.isLiteral_inherit, literal]
  · rw [Part.key?_tidy]
    exact due.key?_filledIn proper read front here
  · intro expression known
    obtain ⟨own, writes⟩ := Segment.exists_writes properHere expression
    exact exists_keyDue writes known
  · intro expression
    rw [Part.key?_tidy]
    exact exists_key?_filledIn proper read front here (literal.trans expression)

/-- A text with keys left out: in a block at the start, in one behind two placeholders, and in a
placeholder. -/
def inherited : Text := "{{x|y}}{ a }{b}{{x|y}}{}".toList

/-- The segments of `inherited`. -/
def inheritedCut : List Segment :=
  [.expression "{x|y}".toList, .expression " a ".toList, .expression "b".toList,
    .expression "{x|y}".toList, .expression []]

theorem offers_b : (Segment.expression "b".toList).Offers "b".toList :=
  ⟨⟨_, _, rfl, rfl, Placeholder.opens_self (by decide) (by decide) (by decide), rfl⟩, by decide⟩

theorem keyless_nil : (Segment.expression []).IsPlaceholder [] :=
  ⟨_, _, rfl, rfl, Placeholder.opens_self (by decide) (by decide) (by decide), rfl⟩

/-- The keys that are due in `inherited`, to the first expression, the fourth and the last. -/
theorem keyDue_inherited :
    KeyDue [] (.expression "{x|y}".toList) (inheritedCut.drop 1) "a".toList ∧
    KeyDue (inheritedCut.take 3) (.expression "{x|y}".toList) [.expression []] "b".toList ∧
    KeyDue (inheritedCut.take 4) (.expression []) [] "a".toList := by
  have block : (Segment.expression "{x|y}".toList).IsBlock [] :=
    ⟨_, [], "x|y".toList, rfl, rfl, rfl⟩
  have offersA : (Segment.expression " a ".toList).Offers "a".toList :=
    ⟨⟨_, _, rfl, rfl, Placeholder.opens_self (by decide) (by decide) (by decide), rfl⟩, by decide⟩
  have silent : ∀ other ∈ [Segment.expression "{x|y}".toList], ∀ key, ¬other.Offers key := by
    intro other mem key
    rw [List.mem_singleton.1 mem]
    exact Segment.not_offers_of_source? rfl
  have noneAtAll : ∀ other ∈ ([] : List Segment), ∀ key, ¬other.Offers key :=
    fun other mem => absurd mem List.not_mem_nil
  have whole : inheritedCut =
      [.expression "{x|y}".toList] ++ .expression " a ".toList :: inheritedCut.drop 2 := rfl
  have front : inheritedCut.take 3 = inheritedCut.take 2 ++ .expression "b".toList :: [] := rfl
  exact ⟨.first (Or.inr ⟨block, noneAtAll⟩) whole offersA silent,
    .preceding block front offers_b noneAtAll, .first (Or.inl keyless_nil) whole offersA silent⟩

theorem keys_follow_one_rule_inherited :
    ∃ template, parse {} inherited = .ok template ∧ template.parts.length = 5 ∧
      template.parts[0]?.bind Part.key? = some "a".toList ∧
      template.parts[3]?.bind Part.key? = some "b".toList ∧
      template.parts[4]?.bind Part.key? = some "a".toList := by
  obtain ⟨template, reads⟩ : ∃ template, parse {} inherited = .ok template := ⟨_, rfl⟩
  obtain ⟨segments, cut, count, resolved⟩ := keys_follow_one_rule reads
  have known : Segment.split inherited = .ok inheritedCut := rfl
  rw [known, Except.ok.injEq] at cut
  subst cut
  obtain ⟨dueFirst, dueFourth, dueLast⟩ := keyDue_inherited
  refine ⟨template, reads, count, ?_, ?_, ?_⟩
  · obtain ⟨part, here, resolved⟩ := resolved [] _ _ rfl
    rw [show template.parts[0]? = some part from here, Option.bind_some]
    exact resolved.due _ dueFirst
  · obtain ⟨part, here, resolved⟩ := resolved (inheritedCut.take 3) _ _ rfl
    rw [show template.parts[3]? = some part from here, Option.bind_some]
    exact resolved.due _ dueFourth
  · obtain ⟨part, here, resolved⟩ := resolved (inheritedCut.take 4) _ _ rfl
    rw [show template.parts[4]? = some part from here, Option.bind_some]
    exact resolved.due _ dueLast

/-! ### The default key -/

/-- **The default key.** In a text that reads, take any expression that writes no key. Where some
placeholder writes one, it gets a key that a placeholder writes; where no placeholder does, it gets
the position `0`, even if a block writes a key. -/
theorem default_key_without_placeholders (h : parse options text = .ok template) :
    ∃ segments, Segment.split text = .ok segments ∧
      ∀ before segment after, segments = before ++ segment :: after → segment.Writes [] →
        ∃ part key, template.parts[before.length]? = some part ∧ part.key? = some key ∧
          ((∃ other ∈ segments, ∃ key, other.Offers key) →
            ∃ other ∈ segments, other.Offers key) ∧
          ((∀ other ∈ segments, ∀ key, ¬other.Offers key) → key = Part.defaultKey) := by
  obtain ⟨segments, parts, cut, read, same⟩ := exists_of_parse h
  have proper := (Segment.split_eq_ok_iff.1 cut).2.proper
  refine ⟨segments, cut, ?_⟩
  intro before segment after whole keyless
  subst whole
  obtain ⟨left, part, right, rfl, front, here, -⟩ := exists_of_mapM_append_cons read
  have position := getElem?_parts same
  rw [length_of_mapM front] at position
  by_cases offered : ∃ other ∈ before ++ segment :: after, ∃ key, other.Offers key
  · obtain ⟨key, due, offering⟩ := exists_keyDue_of_offer keyless offered
    refine ⟨_, key, position, ?_, fun _ => offering, fun none => ?_⟩
    · rw [Part.key?_tidy]
      exact due.key?_filledIn proper read front here
    · obtain ⟨other, mem, key, offers⟩ := offered
      exact absurd offers (none other mem key)
  · refine ⟨_, Part.defaultKey, position, ?_, fun some => absurd some offered, fun _ => rfl⟩
    rw [Part.key?_tidy]
    refine key?_filledIn_of_no_offer proper read front here keyless ?_
    simpa only [not_exists, not_and] using offered

/-- A text in which only a block writes a key. -/
def blockKeyed : Text := "{{a|b}} {n:{c|d}}".toList

/-- The segments of `blockKeyed`. -/
def blockKeyedCut : List Segment :=
  [.expression "{a|b}".toList, .literal " ".toList, .expression "n:{c|d}".toList]

theorem not_offers_blockKeyedCut : ∀ other ∈ blockKeyedCut, ∀ key, ¬other.Offers key := by
  intro other mem key
  rcases mem with _ | ⟨_, _ | ⟨_, _ | ⟨_, mem⟩⟩⟩
  · exact Segment.not_offers_of_source? rfl
  · intro offers
    obtain ⟨⟨_, _, same, -⟩, -⟩ := offers
    cases same
  · exact Segment.not_offers_of_source? rfl
  · cases mem

/-- **The key of a block is passed on to no other part**, even where it is the only key of the
template: the block in front of it gets the position `0`, which no expression writes. -/
theorem key_of_block_is_not_passed_on :
    ∃ template, parse {} blockKeyed = .ok template ∧
      Segment.split blockKeyed = .ok blockKeyedCut ∧
      (∃ other ∈ blockKeyedCut, other.Writes "n".toList) ∧
      (Segment.expression "{a|b}".toList).Writes [] ∧
      template.parts[0]?.bind Part.key? = some Part.defaultKey ∧
      ∀ other ∈ blockKeyedCut, ¬other.Writes Part.defaultKey := by
  have writesN : (Segment.expression "n:{c|d}".toList).Writes "n".toList :=
    Or.inr ⟨_, "n".toList, "c|d".toList, rfl, rfl, rfl⟩
  have writesNone : (Segment.expression "{a|b}".toList).Writes [] :=
    Or.inr ⟨_, [], "a|b".toList, rfl, rfl, rfl⟩
  refine ⟨_, rfl, rfl, ⟨_, by simp [blockKeyedCut], writesN⟩, writesNone, rfl, ?_⟩
  intro other mem writes
  rcases writes with is | is
  · exact not_offers_blockKeyedCut other mem _ ⟨is, by decide⟩
  · obtain ⟨body, head, list, rfl, source, same⟩ := is
    rcases mem with _ | ⟨_, _ | ⟨_, _ | ⟨_, mem⟩⟩⟩
    · cases source
      revert same
      decide
    · cases source
      revert same
      decide
    · cases mem

theorem default_key_without_placeholders_both :
    (∃ template, parse {} blockKeyed = .ok template ∧
      template.parts[0]?.bind Part.key? = some Part.defaultKey) ∧
    ∃ template key, parse {} inherited = .ok template ∧
      template.parts[4]?.bind Part.key? = some key ∧ ∃ other ∈ inheritedCut, other.Offers key := by
  constructor
  · obtain ⟨template, reads⟩ : ∃ template, parse {} blockKeyed = .ok template := ⟨_, rfl⟩
    obtain ⟨segments, cut, filled⟩ := default_key_without_placeholders reads
    have known : Segment.split blockKeyed = .ok blockKeyedCut := rfl
    rw [known, Except.ok.injEq] at cut
    subst cut
    have keyless : (Segment.expression "{a|b}".toList).Writes [] :=
      Or.inr ⟨_, [], "a|b".toList, rfl, rfl, rfl⟩
    obtain ⟨part, key, here, named, -, default⟩ := filled [] _ _ rfl keyless
    refine ⟨template, reads, ?_⟩
    rw [show template.parts[0]? = some part from here, Option.bind_some, named,
      default not_offers_blockKeyedCut]
  · obtain ⟨template, reads⟩ : ∃ template, parse {} inherited = .ok template := ⟨_, rfl⟩
    obtain ⟨segments, cut, filled⟩ := default_key_without_placeholders reads
    have known : Segment.split inherited = .ok inheritedCut := rfl
    rw [known, Except.ok.injEq] at cut
    subst cut
    obtain ⟨part, key, here, named, offered, -⟩ :=
      filled (inheritedCut.take 4) _ _ rfl (Or.inl keyless_nil)
    refine ⟨template, key, reads, ?_, offered ⟨_, by simp [inheritedCut], _, offers_b⟩⟩
    rw [show template.parts[4]? = some part from here, Option.bind_some, named]

end Template

end LocaleText
