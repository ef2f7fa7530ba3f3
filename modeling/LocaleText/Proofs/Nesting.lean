import LocaleText.Braces
import Mathlib.Data.List.Induction

/-!
# LocaleText.Proofs.Nesting

What the nesting of a text says about the text itself. `nesting?_eq_some_iff` reads it off the
counts of the two braces in the prefixes, `nesting?_eq_none_iff` finds the brace that closes
nothing, `exists_partner` the brace that closes an open one, and `exists_leftmost_open` the first
brace that is never closed. Every later fact about the outermost braces of a template comes from
these four.
-/

namespace LocaleText

/-! ### One character at a time -/

/-- A character opens, closes, or does neither. -/
theorem brace_cases (c : Char) : c = '{' ∨ c = '}' ∨ (c ≠ '{' ∧ c ≠ '}') := by
  by_cases opens : c = '{'
  · exact Or.inl opens
  · by_cases closes : c = '}'
    · exact Or.inr (Or.inl closes)
    · exact Or.inr (Or.inr ⟨opens, closes⟩)

@[simp] theorem nesting?_nil (depth : Nat) : nesting? depth [] = some depth := rfl

@[simp] theorem nesting?_open (depth : Nat) (cs : Text) :
    nesting? depth ('{' :: cs) = nesting? (depth + 1) cs := by
  simp [nesting?]

@[simp] theorem nesting?_close_zero (cs : Text) : nesting? 0 ('}' :: cs) = none := by
  rw [nesting?, if_neg (by decide), if_pos rfl]

@[simp] theorem nesting?_close_succ (depth : Nat) (cs : Text) :
    nesting? (depth + 1) ('}' :: cs) = nesting? depth cs := by
  rw [nesting?, if_neg (by decide), if_pos rfl]

theorem nesting?_other {c : Char} (notOpen : c ≠ '{') (notClose : c ≠ '}') (depth : Nat)
    (cs : Text) : nesting? depth (c :: cs) = nesting? depth cs := by
  simp [nesting?, notOpen, notClose]

/-- Reading on after a text that leads from one level to another. The level is all that matters of
what has been read. -/
theorem nesting?_append_of_some {depth level : Nat} {left : Text}
    (h : nesting? depth left = some level) (right : Text) :
    nesting? depth (left ++ right) = nesting? level right := by
  rw [nesting?_append, h, Option.bind_some]

/-- Braces that are open before a text stay open through it, if the text closes no more than it
opens. The converse fails: with more open braces, a text may close them. -/
theorem nesting?_add {depth level : Nat} {text : Text} (outer : Nat)
    (h : nesting? depth text = some level) :
    nesting? (depth + outer) text = some (level + outer) := by
  induction text generalizing depth with
  | nil =>
      rw [nesting?_nil, Option.some.injEq] at h
      rw [nesting?_nil, h]
  | cons c cs ih =>
      rcases brace_cases c with rfl | rfl | ⟨notOpen, notClose⟩
      · rw [nesting?_open] at h ⊢
        rw [Nat.add_right_comm]
        exact ih h
      · cases depth with
        | zero => rw [nesting?_close_zero] at h; cases h
        | succ inner =>
            rw [nesting?_close_succ] at h
            rw [Nat.add_right_comm, nesting?_close_succ]
            exact ih h
      · rw [nesting?_other notOpen notClose] at h ⊢
        exact ih h

/-! ### Balanced texts -/

theorem balanced_nil : Balanced [] := rfl

/-- A balanced text can be skipped at any level. -/
theorem Balanced.nesting?_append {inner : Text} (balanced : Balanced inner) (depth : Nat)
    (rest : Text) : nesting? depth (inner ++ rest) = nesting? depth rest := by
  have raised : nesting? depth inner = some depth := by
    simpa using nesting?_add depth balanced
  exact nesting?_append_of_some raised rest

theorem Balanced.append {left right : Text} (hl : Balanced left) (hr : Balanced right) :
    Balanced (left ++ right) := by
  unfold Balanced
  rw [hl.nesting?_append]
  exact hr

/-- A balanced text in braces is balanced, and so is what has been put in one more pair around it.
-/
theorem Balanced.enclose {inner : Text} (h : Balanced inner) :
    Balanced ('{' :: (inner ++ ['}'])) := by
  unfold Balanced
  rw [nesting?_open, h.nesting?_append]
  rfl

theorem BraceFree.nesting? {text : Text} (free : BraceFree text) (depth : Nat) :
    nesting? depth text = some depth := by
  induction text with
  | nil => rfl
  | cons c cs ih =>
      have notOpen : c ≠ '{' := fun h => free.1 (h ▸ List.mem_cons_self)
      have notClose : c ≠ '}' := fun h => free.2 (h ▸ List.mem_cons_self)
      rw [nesting?_other notOpen notClose]
      exact ih ⟨fun h => free.1 (List.mem_cons_of_mem c h),
        fun h => free.2 (List.mem_cons_of_mem c h)⟩

theorem BraceFree.balanced {text : Text} (free : BraceFree text) : Balanced text :=
  free.nesting? 0

theorem braceFree_nil : BraceFree [] :=
  ⟨List.not_mem_nil, List.not_mem_nil⟩

theorem braceFree_cons {c : Char} {cs : Text} :
    BraceFree (c :: cs) ↔ (c ≠ '{' ∧ c ≠ '}') ∧ BraceFree cs := by
  simp only [BraceFree, List.mem_cons, not_or]
  constructor
  · intro h
    obtain ⟨⟨notOpen, noneOpen⟩, notClose, noneClose⟩ := h
    exact ⟨⟨Ne.symm notOpen, Ne.symm notClose⟩, noneOpen, noneClose⟩
  · intro h
    obtain ⟨⟨notOpen, notClose⟩, noneOpen, noneClose⟩ := h
    exact ⟨⟨Ne.symm notOpen, noneOpen⟩, Ne.symm notClose, noneClose⟩

theorem BraceFree.append {left right : Text} (hl : BraceFree left) (hr : BraceFree right) :
    BraceFree (left ++ right) :=
  ⟨fun h => (List.mem_append.1 h).elim hl.1 hr.1, fun h => (List.mem_append.1 h).elim hl.2 hr.2⟩

/-! ### The nesting and the counts of braces -/

/-- No prefix of the text closes more braces than it opens, `depth` of them being open before it.
Together with the counts for the whole text this is another way to say that braces match. -/
def Covered (depth : Nat) (text : Text) : Prop :=
  ∀ front, front <+: text → front.count '}' ≤ depth + front.count '{'

theorem covered_nil (depth : Nat) : Covered depth [] := by
  intro front ahead
  rw [List.prefix_nil.1 ahead]
  exact Nat.zero_le _

/-- The prefixes of a text after its first character. -/
theorem covered_cons {depth : Nat} {c : Char} {cs : Text} :
    Covered depth (c :: cs) ↔
      ∀ front, front <+: cs → (c :: front).count '}' ≤ depth + (c :: front).count '{' := by
  constructor
  · intro h front ahead
    exact h (c :: front) ((List.prefix_cons_inj c).2 ahead)
  · intro h front ahead
    rcases List.prefix_cons_iff.1 ahead with rfl | ⟨rest, rfl, shorter⟩
    · exact Nat.zero_le _
    · exact h rest shorter

/-- **The nesting as a count.** A text leads from `depth` open braces to `level` exactly when none
of its prefixes closes too much and the braces that it opens and closes make the difference. By
induction on the text, the first character shifting the level for all prefixes behind it. -/
theorem nesting?_eq_some_iff {depth level : Nat} {text : Text} :
    nesting? depth text = some level ↔
      Covered depth text ∧ level + text.count '}' = depth + text.count '{' := by
  induction text generalizing depth with
  | nil =>
      rw [nesting?_nil, Option.some.injEq]
      constructor
      · rintro rfl
        exact ⟨covered_nil depth, rfl⟩
      · intro h
        obtain ⟨-, same⟩ := h
        exact same.symm
  | cons c cs ih =>
      rw [covered_cons]
      rcases brace_cases c with rfl | rfl | ⟨notOpen, notClose⟩
      · -- Every prefix behind an opening brace may close one more.
        rw [nesting?_open, ih]
        simp only [Covered, List.count_cons_self,
          List.count_cons_of_ne (show ('{' : Char) ≠ '}' by decide)]
        constructor
        · intro h
          obtain ⟨covered, same⟩ := h
          exact ⟨fun front ahead => by have := covered front ahead; omega, by omega⟩
        · intro h
          obtain ⟨covered, same⟩ := h
          exact ⟨fun front ahead => by have := covered front ahead; omega, by omega⟩
      · simp only [List.count_cons_self, List.count_cons_of_ne (show ('}' : Char) ≠ '{' by decide)]
        cases depth with
        | zero =>
            -- The brace alone is a prefix that closes too much.
            rw [nesting?_close_zero]
            constructor
            · nofun
            · intro h
              obtain ⟨covered, -⟩ := h
              have := covered [] List.nil_prefix
              simp at this
        | succ inner =>
            rw [nesting?_close_succ, ih]
            constructor
            · intro h
              obtain ⟨covered, same⟩ := h
              exact ⟨fun front ahead => by have := covered front ahead; omega, by omega⟩
            · intro h
              obtain ⟨covered, same⟩ := h
              exact ⟨fun front ahead => by have := covered front ahead; omega, by omega⟩
      · rw [nesting?_other notOpen notClose, ih]
        simp only [Covered, List.count_cons_of_ne notOpen, List.count_cons_of_ne notClose]

/-- A text is balanced exactly when no prefix closes too much and as many braces are closed as
opened, which mentions no reader. -/
theorem balanced_iff_count {text : Text} :
    Balanced text ↔
      (∀ front, front <+: text → front.count '}' ≤ front.count '{') ∧
        text.count '{' = text.count '}' := by
  rw [Balanced, nesting?_eq_some_iff]
  simp only [Covered, Nat.zero_add]
  constructor
  · intro h
    obtain ⟨covered, same⟩ := h
    exact ⟨covered, same.symm⟩
  · intro h
    obtain ⟨covered, same⟩ := h
    exact ⟨covered, same.symm⟩

/-! ### Braces without a partner -/

/-- Reading fails exactly at a brace that closes when nothing is open. The front is the shortest
that closes too much, less its last brace. -/
theorem nesting?_eq_none_iff {depth : Nat} {text : Text} :
    nesting? depth text = none ↔
      ∃ front back, text = front ++ '}' :: back ∧ nesting? depth front = some 0 := by
  constructor
  · intro h
    induction text generalizing depth with
    | nil => cases h
    | cons c cs ih =>
        rcases brace_cases c with rfl | rfl | ⟨notOpen, notClose⟩
        · rw [nesting?_open] at h
          obtain ⟨front, back, rfl, level⟩ := ih h
          exact ⟨'{' :: front, back, rfl, by rw [nesting?_open]; exact level⟩
        · cases depth with
          | zero => exact ⟨[], cs, rfl, rfl⟩
          | succ inner =>
              rw [nesting?_close_succ] at h
              obtain ⟨front, back, rfl, level⟩ := ih h
              exact ⟨'}' :: front, back, rfl, by rw [nesting?_close_succ]; exact level⟩
        · rw [nesting?_other notOpen notClose] at h
          obtain ⟨front, back, rfl, level⟩ := ih h
          exact ⟨c :: front, back, rfl, by rw [nesting?_other notOpen notClose]; exact level⟩
  · intro h
    obtain ⟨front, back, rfl, level⟩ := h
    rw [nesting?_append_of_some level, nesting?_close_zero]

/-- **The partner.** When a text closes the innermost of the braces open before it, the closing
brace stands right after a balanced stretch. This is a recursion on the length and not on the text,
since behind an inner pair the search goes on with what follows that pair. -/
theorem exists_partner {depth level : Nat} {text : Text}
    (h : nesting? (depth + 1) text = some level) (closes : level ≤ depth) :
    ∃ inner rest, text = inner ++ '}' :: rest ∧ Balanced inner ∧
      nesting? depth rest = some level := by
  match text with
  | [] =>
      rw [nesting?_nil, Option.some.injEq] at h
      omega
  | c :: cs =>
      rcases brace_cases c with rfl | rfl | ⟨notOpen, notClose⟩
      · -- an inner pair of braces first, whose partner leaves a shorter text at the same level
        rw [nesting?_open] at h
        obtain ⟨body, after, rfl, balancedBody, hAfter⟩ :=
          exists_partner h (Nat.le_succ_of_le closes)
        have shorter : after.length < ('{' :: (body ++ '}' :: after)).length := by
          simp only [List.length_cons, List.length_append]
          omega
        obtain ⟨inner, rest, rfl, balancedInner, hRest⟩ := exists_partner hAfter closes
        refine ⟨'{' :: (body ++ ['}']) ++ inner, rest, by simp, ?_, hRest⟩
        exact balancedBody.enclose.append balancedInner
      · rw [nesting?_close_succ] at h
        exact ⟨[], cs, rfl, balanced_nil, h⟩
      · rw [nesting?_other notOpen notClose] at h
        obtain ⟨inner, rest, rfl, balanced, hRest⟩ := exists_partner h closes
        refine ⟨c :: inner, rest, rfl, ?_, hRest⟩
        rw [Balanced, nesting?_other notOpen notClose]
        exact balanced
termination_by text.length

/-- **The leftmost open brace.** A text that leaves braces open has a first brace that is never
closed: what stands before it is balanced. All braces open at the end are counted from there. -/
theorem exists_leftmost_open {level : Nat} {text : Text} (h : nesting? 0 text = some (level + 1)) :
    ∃ front back, text = front ++ '{' :: back ∧ Balanced front ∧ nesting? 0 back = some level := by
  -- The last character goes first: the brace that stays open longest is found before it, unless
  -- that character opens the only one.
  induction text using List.reverseRecOn generalizing level with
  | nil => cases h
  | append_singleton front c ih =>
      rw [nesting?_append, Option.bind_eq_some_iff] at h
      obtain ⟨before, hBefore, hLast⟩ := h
      rcases brace_cases c with rfl | rfl | ⟨notOpen, notClose⟩
      · rw [nesting?_open, nesting?_nil, Option.some.injEq, Nat.add_right_cancel_iff] at hLast
        subst hLast
        cases before with
        | zero => exact ⟨front, [], rfl, hBefore, rfl⟩
        | succ inner =>
            obtain ⟨left, right, rfl, balanced, hRight⟩ := ih hBefore
            refine ⟨left, right ++ ['{'], by simp, balanced, ?_⟩
            rw [nesting?_append_of_some hRight, nesting?_open, nesting?_nil]
      · cases before with
        | zero => rw [nesting?_close_zero] at hLast; cases hLast
        | succ inner =>
            rw [nesting?_close_succ, nesting?_nil, Option.some.injEq] at hLast
            subst hLast
            obtain ⟨left, right, rfl, balanced, hRight⟩ := ih hBefore
            refine ⟨left, right ++ ['}'], by simp, balanced, ?_⟩
            rw [nesting?_append_of_some hRight, nesting?_close_succ, nesting?_nil]
      · rw [nesting?_other notOpen notClose, nesting?_nil, Option.some.injEq] at hLast
        subst hLast
        obtain ⟨left, right, rfl, balanced, hRight⟩ := ih hBefore
        refine ⟨left, right ++ [c], by simp, balanced, ?_⟩
        rw [nesting?_append_of_some hRight, nesting?_other notOpen notClose, nesting?_nil]

end LocaleText
