import LocaleText.Proofs.Nesting

/-!
# LocaleText.Proofs.Pieces

**What splitting outside braces returns.** `PiecesOf sep text pieces` says, without mentioning the
splitter, that a text falls into pieces at its separators outside braces: joined they are the text,
each is balanced, and each holds the separator inside braces only. On a balanced text there is one
such list, and `splitTop` returns it (`splitTop_eq_iff`).

Both directions are inductions on the text at an arbitrary level: the splitter adds no brace and
forgets none, so the level at which it stands is the nesting of what it has read.
-/

namespace LocaleText

/-- Every `sep` in the text stands inside braces, `depth` of them being open before it. The level is
there for inductions along the text; `Shielded` is what is stated. -/
def ShieldedAt (depth : Nat) (sep : Char) (text : Text) : Prop :=
  ∀ front back, text = front ++ sep :: back → nesting? depth front ≠ some 0

/-- Every `sep` in the text stands inside braces: what is before it is not balanced. -/
def Shielded (sep : Char) (text : Text) : Prop :=
  ∀ front back, text = front ++ sep :: back → ¬Balanced front

/-- What holds of every way to cut a text at a separator holds at each position of one. There are as
many positions as characters, so the right side can be decided. -/
theorem forall_cut_iff {sep : Char} {text : Text} {holds : Text → Text → Prop} :
    (∀ front back, text = front ++ sep :: back → holds front back) ↔
      ∀ i < text.length, text[i]? = some sep → holds (text.take i) (text.drop (i + 1)) := by
  constructor
  · intro h i _ here
    obtain ⟨inside, same⟩ := List.getElem?_eq_some_iff.1 here
    refine h (text.take i) (text.drop (i + 1)) ?_
    rw [← same, List.getElem_cons_drop, List.take_append_drop]
  · intro h front back same
    subst same
    have position := h front.length (by simp) (by simp)
    rw [List.take_left, ← List.drop_drop, List.drop_left, List.drop_one, List.tail_cons] at position
    exact position

/-- Only the positions of the separator have to be looked at. -/
theorem shielded_iff_getElem? {sep : Char} {text : Text} :
    Shielded sep text ↔ ∀ i < text.length, text[i]? = some sep → ¬Balanced (text.take i) :=
  forall_cut_iff

instance (sep : Char) (text : Text) : Decidable (Shielded sep text) :=
  decidable_of_iff _ shielded_iff_getElem?.symm

/-- The text falls into these pieces at its separators outside braces. Nothing is said of how they
are found, and pieces may be empty. -/
structure PiecesOf (sep : Char) (text : Text) (pieces : List Text) : Prop where
  /-- There is at least one piece. -/
  ne_nil : pieces ≠ []
  /-- Joined by the separator, the pieces are the text. -/
  joined : List.intercalate [sep] pieces = text
  /-- Each piece is balanced. -/
  balanced : ∀ piece ∈ pieces, Balanced piece
  /-- Each piece holds the separator inside braces only. -/
  shielded : ∀ piece ∈ pieces, Shielded sep piece

/-! ### Joining pieces -/

section Joining

variable (sep : Text)

/-- Joined pieces are the first one and each of the others behind a separator. In this form the
others can be mapped and appended. -/
theorem intercalate_cons (first : Text) (rest : List Text) :
    List.intercalate sep (first :: rest) = first ++ rest.flatMap fun piece => sep ++ piece := by
  induction rest generalizing first with
  | nil => rw [List.intercalate_singleton, List.flatMap_nil, List.append_nil]
  | cons second rest ih =>
      rw [List.intercalate_cons_cons, ih, List.flatMap_cons, List.append_assoc, List.append_assoc]

/-- What stands in front of the first piece stands in front of all of them. -/
theorem intercalate_append_cons (front first : Text) (rest : List Text) :
    List.intercalate sep ((front ++ first) :: rest) =
      front ++ List.intercalate sep (first :: rest) := by
  rw [intercalate_cons, intercalate_cons, List.append_assoc]

/-- Two pieces may be joined before the others are: so a text that was cut too often can be put
together again. -/
theorem intercalate_merge (left right : Text) (rest : List Text) :
    List.intercalate sep ((left ++ sep ++ right) :: rest) =
      List.intercalate sep (left :: right :: rest) := by
  rw [intercalate_append_cons, List.intercalate_cons_cons]

/-- What stands in a piece stands in the joined text. -/
theorem mem_intercalate {c : Char} {piece : Text} {pieces : List Text} (mem : piece ∈ pieces)
    (inside : c ∈ piece) : c ∈ List.intercalate sep pieces := by
  cases pieces with
  | nil => cases mem
  | cons first rest =>
      rw [intercalate_cons]
      rcases List.mem_cons.1 mem with rfl | mem
      · exact List.mem_append_left _ inside
      · refine List.mem_append_right first (List.mem_flatMap.2 ⟨piece, mem, ?_⟩)
        exact List.mem_append_right sep inside

/-- Pieces may be joined in groups first. A group without a piece would leave two separators next to
each other, hence the condition. -/
theorem intercalate_flatMap {α : Type} {group : α → List Text}
    (notEmpty : ∀ item, group item ≠ []) (items : List α) :
    List.intercalate sep (items.flatMap group) =
      List.intercalate sep (items.map fun item => List.intercalate sep (group item)) := by
  -- A group behind a separator is joined like a piece there.
  have behind (item : α) : ((group item).flatMap fun piece => sep ++ piece) =
      sep ++ List.intercalate sep (group item) := by
    cases pieces : group item with
    | nil => exact absurd pieces (notEmpty item)
    | cons first rest => rw [intercalate_cons, List.flatMap_cons, List.append_assoc]
  cases items with
  | nil => rfl
  | cons item items =>
      cases pieces : group item with
      | nil => exact absurd pieces (notEmpty item)
      | cons first rest =>
          rw [List.flatMap_cons, pieces, List.cons_append, intercalate_cons, List.flatMap_append,
            List.flatMap_assoc, List.map_cons, pieces, intercalate_cons, intercalate_cons,
            List.flatMap_map, List.append_assoc]
          simp only [behind]

end Joining

/-! ### Shielded separators -/

theorem shieldedAt_nil (depth : Nat) (sep : Char) : ShieldedAt depth sep [] := by
  intro front back h
  cases front <;> cases h

/-- The separators behind the first character are shielded at the level that it leads to. -/
theorem ShieldedAt.tail {depth level : Nat} {sep c : Char} {cs : Text}
    (h : ShieldedAt depth sep (c :: cs))
    (step : ∀ front, nesting? depth (c :: front) = nesting? level front) :
    ShieldedAt level sep cs := by
  intro front back same
  have shielded := h (c :: front) back (by rw [same]; rfl)
  rwa [step] at shielded

/-- A first character that is no separator outside braces shields nothing, and exposes nothing
behind it. -/
theorem ShieldedAt.cons {depth level : Nat} {sep c : Char} {cs : Text}
    (h : ShieldedAt level sep cs)
    (step : ∀ front, nesting? depth (c :: front) = nesting? level front)
    (first : c = sep → depth ≠ 0) : ShieldedAt depth sep (c :: cs) := by
  intro front back same
  cases front with
  | nil =>
      injection same with same _
      rw [nesting?_nil, ne_eq, Option.some.injEq]
      exact first same
  | cons head front =>
      injection same with same rest
      subst same
      rw [step]
      exact h front back rest

/-- A text without the separator shields it. -/
theorem shielded_of_not_mem {sep : Char} {text : Text} (absent : sep ∉ text) :
    Shielded sep text := by
  intro front back same
  exact absurd (same ▸ List.mem_append_right front List.mem_cons_self) absent

/-- Every front of a text that shields the separator shields it. -/
theorem Shielded.of_append {sep : Char} {front rest : Text} (h : Shielded sep (front ++ rest)) :
    Shielded sep front := by
  intro left right same
  refine h left (right ++ rest) ?_
  rw [same, List.append_assoc, List.cons_append]

/-- A separator in the second of two texts stands behind all of the first. When the first is
balanced, it does not help to shield it. -/
theorem Shielded.append {sep : Char} {left right : Text} (hl : Shielded sep left)
    (balanced : Balanced left) (hr : Shielded sep right) : Shielded sep (left ++ right) := by
  intro front back same
  rcases List.append_eq_append_iff.1 same with ⟨gap, rfl, behind⟩ | ⟨gap, inside, behind⟩
  · intro whole
    rw [Balanced, balanced.nesting?_append] at whole
    exact hr gap back behind whole
  · cases gap with
    | nil =>
        rw [List.append_nil] at inside
        subst inside
        rw [List.nil_append] at behind
        exact absurd balanced_nil (hr [] back behind.symm)
    | cons c gap =>
        obtain ⟨rfl, -⟩ := List.cons.inj behind
        exact hl front gap inside

/-! ### One step of the splitter -/

section Steps

variable (sep : Char) (depth : Nat) (cs : Text)

theorem topCuts_open :
    topCuts sep depth ('{' :: cs) =
      ('{' :: (topCuts sep (depth + 1) cs).1, (topCuts sep (depth + 1) cs).2) := by
  simp [topCuts]

theorem topCuts_close :
    topCuts sep depth ('}' :: cs) =
      ('}' :: (topCuts sep (depth - 1) cs).1, (topCuts sep (depth - 1) cs).2) := by
  simp [topCuts]

theorem topCuts_cut (notOpen : sep ≠ '{') (notClose : sep ≠ '}') :
    topCuts sep 0 (sep :: cs) = ([], (topCuts sep 0 cs).1 :: (topCuts sep 0 cs).2) := by
  simp [topCuts, notOpen, notClose]

theorem topCuts_other {c : Char} (notOpen : c ≠ '{') (notClose : c ≠ '}')
    (inside : c = sep → depth ≠ 0) :
    topCuts sep depth (c :: cs) = (c :: (topCuts sep depth cs).1, (topCuts sep depth cs).2) := by
  have noCut : ¬(c = sep ∧ depth = 0) := fun h => inside h.1 h.2
  simp [topCuts, notOpen, notClose, noCut]

end Steps

/-! ### From the pieces to the text -/

/-- Balanced pieces make a balanced text, unless they are joined by braces. -/
theorem balanced_intercalate (sep : Char) (notOpen : sep ≠ '{') (notClose : sep ≠ '}')
    {pieces : List Text} (h : ∀ piece ∈ pieces, Balanced piece) :
    Balanced (List.intercalate [sep] pieces) := by
  induction pieces with
  | nil => exact balanced_nil
  | cons first rest ih =>
      have hFirst := h first List.mem_cons_self
      have hRest := ih fun piece mem => h piece (List.mem_cons_of_mem first mem)
      cases rest with
      | nil => rwa [List.intercalate_singleton]
      | cons second rest =>
          have bar : BraceFree [sep] := braceFree_cons.2 ⟨⟨notOpen, notClose⟩, braceFree_nil⟩
          rw [List.intercalate_cons_cons, List.append_assoc]
          exact hFirst.append (bar.balanced.append hRest)

/-- The splitter passes a stretch whose separators are shielded: it is the beginning of the first
piece, and the rest is split at the level that it leads to. -/
theorem topCuts_append {sep : Char} {depth level : Nat} {piece : Text}
    (h : nesting? depth piece = some level) (shielded : ShieldedAt depth sep piece) (rest : Text) :
    topCuts sep depth (piece ++ rest) =
      (piece ++ (topCuts sep level rest).1, (topCuts sep level rest).2) := by
  induction piece generalizing depth with
  | nil =>
      rw [nesting?_nil, Option.some.injEq] at h
      rw [h]
      rfl
  | cons c cs ih =>
      rw [List.cons_append]
      rcases brace_cases c with rfl | rfl | ⟨notOpen, notClose⟩
      · rw [nesting?_open] at h
        rw [topCuts_open, ih h (shielded.tail (nesting?_open depth))]
        rfl
      · cases depth with
        | zero => rw [nesting?_close_zero] at h; cases h
        | succ outer =>
            rw [nesting?_close_succ] at h
            rw [topCuts_close, Nat.add_sub_cancel, ih h (shielded.tail (nesting?_close_succ outer))]
            rfl
      · rw [nesting?_other notOpen notClose] at h
        -- A separator at this place would have a balanced text before it, the empty one.
        have inside : c = sep → depth ≠ 0 := by
          intro isSep zero
          subst isSep zero
          exact shielded [] cs rfl rfl
        rw [topCuts_other _ _ _ notOpen notClose inside,
          ih h (shielded.tail (nesting?_other notOpen notClose depth))]
        rfl

/-- A whole balanced piece is one stretch. -/
theorem topCuts_of_shielded {sep : Char} {piece : Text} (balanced : Balanced piece)
    (shielded : Shielded sep piece) : topCuts sep 0 piece = (piece, []) := by
  have through := topCuts_append balanced shielded []
  rwa [List.append_nil, topCuts, List.append_nil] at through

/-- Pieces are read back from the text that they make. By induction on the other pieces: the first
is passed, and the separator behind it is a cut. -/
theorem topCuts_intercalate {sep : Char} (notOpen : sep ≠ '{') (notClose : sep ≠ '}')
    {first : Text} {others : List Text}
    (balanced : ∀ piece ∈ first :: others, Balanced piece)
    (shielded : ∀ piece ∈ first :: others, Shielded sep piece) :
    topCuts sep 0 (List.intercalate [sep] (first :: others)) = (first, others) := by
  have balancedFirst := balanced first List.mem_cons_self
  have shieldedFirst := shielded first List.mem_cons_self
  induction others generalizing first with
  | nil =>
      rw [List.intercalate_singleton]
      exact topCuts_of_shielded balancedFirst shieldedFirst
  | cons second others ih =>
      have balancedRest := fun piece mem => balanced piece (List.mem_cons_of_mem first mem)
      have shieldedRest := fun piece mem => shielded piece (List.mem_cons_of_mem first mem)
      rw [List.intercalate_cons_cons, List.append_assoc, List.singleton_append,
        topCuts_append balancedFirst shieldedFirst, topCuts_cut _ _ notOpen notClose,
        ih balancedRest shieldedRest (balancedRest second List.mem_cons_self)
          (shieldedRest second List.mem_cons_self), List.append_nil]

/-! ### From the text to the pieces -/

/-- What the splitter makes of a text that closes all open braces: a first stretch that closes them
and pieces that are balanced, the separator being shielded in all of them. The level is general,
since behind an opening brace the splitter stands one deeper. -/
theorem topCuts_sound {sep : Char} (notOpen : sep ≠ '{') (notClose : sep ≠ '}') {depth : Nat}
    {text : Text} (h : nesting? depth text = some 0) :
    (nesting? depth (topCuts sep depth text).1 = some 0 ∧
      ShieldedAt depth sep (topCuts sep depth text).1) ∧
    ∀ piece ∈ (topCuts sep depth text).2, Balanced piece ∧ Shielded sep piece := by
  induction text generalizing depth with
  | nil => exact ⟨⟨h, shieldedAt_nil depth sep⟩, fun piece mem => absurd mem List.not_mem_nil⟩
  | cons c cs ih =>
      rcases brace_cases c with rfl | rfl | ⟨otherOpen, otherClose⟩
      · rw [nesting?_open] at h
        obtain ⟨⟨level, shielded⟩, rest⟩ := ih h
        rw [topCuts_open]
        refine ⟨⟨by rw [nesting?_open]; exact level, ?_⟩, rest⟩
        exact shielded.cons (nesting?_open depth) (fun same => absurd same.symm notOpen)
      · cases depth with
        | zero => rw [nesting?_close_zero] at h; cases h
        | succ outer =>
            rw [nesting?_close_succ] at h
            obtain ⟨⟨level, shielded⟩, rest⟩ := ih h
            rw [topCuts_close, Nat.add_sub_cancel]
            refine ⟨⟨by rw [nesting?_close_succ]; exact level, ?_⟩, rest⟩
            exact shielded.cons (nesting?_close_succ outer) (fun same => absurd same.symm notClose)
      · rw [nesting?_other otherOpen otherClose] at h
        obtain ⟨⟨level, shielded⟩, rest⟩ := ih h
        by_cases cut : c = sep ∧ depth = 0
        · -- The first stretch of the rest becomes a piece of its own.
          obtain ⟨rfl, rfl⟩ := cut
          rw [topCuts_cut _ _ notOpen notClose]
          refine ⟨⟨rfl, shieldedAt_nil 0 c⟩, fun piece mem => ?_⟩
          rcases List.mem_cons.1 mem with rfl | mem
          · exact ⟨level, shielded⟩
          · exact rest piece mem
        · -- The character joins the first stretch of the rest.
          have inside : c = sep → depth ≠ 0 := fun same zero => cut ⟨same, zero⟩
          rw [topCuts_other _ _ _ otherOpen otherClose inside]
          refine ⟨⟨by rw [nesting?_other otherOpen otherClose]; exact level, ?_⟩, rest⟩
          exact shielded.cons (nesting?_other otherOpen otherClose depth) inside

/-- The stretches of the splitter, joined again. Nothing is asked of the braces: whatever the
splitter does, it loses no character. -/
theorem intercalate_topCuts (sep : Char) (depth : Nat) (text : Text) :
    List.intercalate [sep] ((topCuts sep depth text).1 :: (topCuts sep depth text).2) = text := by
  have prepend : ∀ (c : Char) (first : Text) (others : List Text),
      List.intercalate [sep] ((c :: first) :: others) =
        c :: List.intercalate [sep] (first :: others) :=
    fun c first others => List.intercalate_cons_cons_left
  induction text generalizing depth with
  | nil => rfl
  | cons c cs ih =>
      simp only [topCuts]
      split
      · rw [prepend, ih]
      · split
        · rw [prepend, ih]
        · split
          · next cut => rw [List.intercalate_cons_cons, ih, cut.1]; rfl
          · rw [prepend, ih]

/-- The first stretch of a balanced text ends at the first separator outside braces, or at the end.
-/
theorem topCuts_fst {sep : Char} (notOpen : sep ≠ '{') (notClose : sep ≠ '}') {text : Text}
    (balanced : Balanced text) :
    Balanced (topCuts sep 0 text).1 ∧ Shielded sep (topCuts sep 0 text).1 ∧
      ∃ rest, text = (topCuts sep 0 text).1 ++ rest ∧ ∀ c ∈ rest.head?, c = sep := by
  obtain ⟨⟨level, shielded⟩, -⟩ := topCuts_sound notOpen notClose balanced
  have joined := intercalate_topCuts sep 0 text
  refine ⟨level, shielded, ?_⟩
  cases others : (topCuts sep 0 text).2 with
  | nil =>
      rw [others, List.intercalate_singleton] at joined
      refine ⟨[], by rw [joined, List.append_nil], fun c mem => ?_⟩
      cases mem
  | cons second others' =>
      rw [others, List.intercalate_cons_cons, List.append_assoc] at joined
      refine ⟨_, joined.symm, fun c mem => ?_⟩
      cases mem
      rfl

/-- **Splitting a balanced text** returns the one list of pieces into which it falls. From left to
right this is soundness of the splitter; from right to left it says that there is no other list. A
brace cannot serve as the separator. -/
theorem splitTop_eq_iff {sep : Char} (notOpen : sep ≠ '{') (notClose : sep ≠ '}') {text : Text}
    (balanced : Balanced text) {pieces : List Text} :
    splitTop sep text = pieces ↔ PiecesOf sep text pieces := by
  constructor
  · intro same
    subst same
    obtain ⟨⟨balancedFirst, shieldedFirst⟩, rest⟩ := topCuts_sound notOpen notClose balanced
    refine ⟨splitTop_ne_nil sep text, intercalate_topCuts sep 0 text, fun piece mem => ?_,
      fun piece mem => ?_⟩
    · rcases List.mem_cons.1 mem with rfl | mem
      · exact balancedFirst
      · exact (rest piece mem).1
    · rcases List.mem_cons.1 mem with rfl | mem
      · exact shieldedFirst
      · exact (rest piece mem).2
  · intro h
    obtain ⟨notEmpty, rfl, balancedPieces, shieldedPieces⟩ := h
    cases pieces with
    | nil => exact absurd rfl notEmpty
    | cons first others =>
        rw [splitTop, topCuts_intercalate notOpen notClose balancedPieces shieldedPieces]

end LocaleText
