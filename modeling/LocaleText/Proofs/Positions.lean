import LocaleText.Arguments
import Mathlib.Data.List.Induction
import Mathlib.Data.Nat.Digits.Defs

/-!
# LocaleText.Proofs.Positions

**What a key finds among the arguments.** `SpellsPosition` says of the key alone which position it
stands for: an optional plus sign and a numeral, whose value is that of its digits by their places.
Reading a position is exact, however long the numeral is, and a numeral beyond the bound is no
position instead of a smaller one (`readPosition?_eq_some_iff`). So a key finds the argument at the
position that it spells, or, where the only argument is an object, the field of its name.
-/

namespace LocaleText

/-! ### Numerals -/

/-- The text is a numeral for `n`: one or more decimal digits, each counting by its place. Zeros in
front change nothing, and there may be any number of them. -/
structure Numeral (text : Text) (n : Nat) : Prop where
  /-- There is a digit. -/
  ne_nil : text ≠ []
  /-- There is nothing but digits. -/
  digits : ∀ c ∈ text, c.isDigit = true
  /-- The last digit counts once, the one before it ten times, and so on. -/
  value : Nat.ofDigits 10 (text.reverse.map digitValue) = n

/-- Reading on from the left adds up the digits by their places. The induction is from the right
end, since a digit behind a numeral moves all others one place up. -/
theorem natOfDigits_eq (digits : Text) :
    natOfDigits 0 digits = Nat.ofDigits 10 (digits.reverse.map digitValue) := by
  induction digits using List.reverseRecOn with
  | nil => rfl
  | append_singleton front c ih =>
      have step : natOfDigits 0 (front ++ [c]) = 10 * natOfDigits 0 front + digitValue c :=
        List.foldl_append
      rw [step, ih, List.reverse_append, List.reverse_singleton, List.singleton_append,
        List.map_cons, Nat.ofDigits_cons]
      exact Nat.add_comm _ _

/-- A text is read as the number that it is a numeral for, and as none if it is no numeral. -/
theorem readNat?_eq_some_iff {text : Text} {n : Nat} :
    readNat? text = some n ↔ Numeral text n := by
  rw [readNat?, Option.ite_none_right_eq_some, Option.some.injEq, natOfDigits_eq]
  simp only [Bool.and_eq_true, Bool.not_eq_true', List.isEmpty_eq_false_iff, List.all_eq_true]
  exact ⟨fun h => ⟨h.1.1, h.1.2, h.2⟩, fun h => ⟨⟨h.ne_nil, h.digits⟩, h.value⟩⟩

/-- The digits of a number are a numeral for it, whatever zeros stand in front of them. So every
number has numerals of any length from some length on. -/
theorem numeral_ofNat (zeros n : Nat) : Numeral (List.replicate zeros '0' ++ Text.ofNat n) n where
  ne_nil := List.append_ne_nil_of_right_ne_nil _ Nat.toDigits_ne_nil
  digits c mem := by
    rcases List.mem_append.1 mem with zero | digit
    · rw [List.eq_of_mem_replicate zero]
      rfl
    · exact Nat.isDigit_of_mem_toDigits (by decide) (by decide) digit
  value := by
    have noneYet : natOfDigits 0 (List.replicate zeros '0') = 0 := by
      induction zeros with
      | zero => rfl
      | succ zeros ih => exact ih
    calc
      _ = natOfDigits 0 (List.replicate zeros '0' ++ Text.ofNat n) := (natOfDigits_eq _).symm
      _ = natOfDigits (natOfDigits 0 (List.replicate zeros '0')) (Text.ofNat n) :=
        List.foldl_append
      _ = natOfDigits 0 (Text.ofNat n) := by rw [noneYet]
      _ = n := Nat.ofDigitChars_toDigits (by decide) (by decide)

/-! ### Positions -/

/-- How a key spells a position: as a numeral, perhaps behind a plus sign. -/
inductive SpellsPosition : Text → Nat → Prop where
  | plain {digits : Text} {position : Nat} (numeral : Numeral digits position) :
    SpellsPosition digits position
  | signed {digits : Text} {position : Nat} (numeral : Numeral digits position) :
    SpellsPosition ('+' :: digits) position

/-- A sign is no digit: what stands behind it is the numeral. A second sign is none, and neither is
a sign alone. -/
theorem spellsPosition_signed_iff {digits : Text} {position : Nat} :
    SpellsPosition ('+' :: digits) position ↔ Numeral digits position := by
  constructor
  · intro spells
    cases spells with
    | plain numeral => exact absurd (numeral.digits '+' List.mem_cons_self) (by decide)
    | signed numeral => exact numeral
  · exact .signed

theorem spellsPosition_iff_of_ne {key : Text} {position : Nat} (unsigned : key.head? ≠ some '+') :
    SpellsPosition key position ↔ Numeral key position := by
  constructor
  · intro spells
    cases spells with
    | plain numeral => exact numeral
    | signed numeral => exact absurd rfl unsigned
  · exact .plain

/-- A key spells one position, though a position can be spelled by many keys. -/
theorem SpellsPosition.unique {key : Text} {one other : Nat} (here : SpellsPosition key one)
    (there : SpellsPosition key other) : one = other := by
  by_cases signed : key.head? = some '+'
  · obtain ⟨digits, rfl⟩ := List.head?_eq_some_iff.1 signed
    rw [spellsPosition_signed_iff] at here there
    exact here.value.symm.trans there.value
  · rw [spellsPosition_iff_of_ne signed] at here there
    exact here.value.symm.trans there.value

theorem readPosition?_of_ne {key : Text} (unsigned : key.head? ≠ some '+') :
    readPosition? key = (readNat? key).filter (· < positionBound) := by
  unfold readPosition?
  split
  · exact absurd rfl unsigned
  · rfl

/-- **A key is read as the position that it spells**, unless that is beyond the bound. The number is
read in full before it is compared, so nothing of a long numeral is lost. -/
theorem readPosition?_eq_some_iff {key : Text} {position : Nat} :
    readPosition? key = some position ↔ SpellsPosition key position ∧ position < 2 ^ 64 := by
  have bounded (digits : Text) : (readNat? digits).filter (· < positionBound) = some position ↔
      Numeral digits position ∧ position < 2 ^ 64 := by
    rw [← readNat?_eq_some_iff]
    exact Option.filter_eq_some_iff.trans (and_congr_right' decide_eq_true_iff)
  by_cases signed : key.head? = some '+'
  · obtain ⟨digits, rfl⟩ := List.head?_eq_some_iff.1 signed
    rw [spellsPosition_signed_iff]
    exact bounded digits
  · rw [spellsPosition_iff_of_ne signed, readPosition?_of_ne signed]
    exact bounded key

/-! ### Arguments -/

namespace Arguments

/-- Any list but that of one object gives its values by position: an empty one, that of one other
value, and all that have several. -/
theorem ofList_of_ne {values : List Json} (several : ∀ fields, values ≠ [.object fields]) :
    ofList values = positional values := by
  unfold ofList
  split
  · exact absurd rfl (several _)
  · rfl

/-- By position, a key finds the argument at the position that it spells, and no other. -/
theorem find?_positional_eq_some_iff {values : List Json} {key : Text} {value : Json} :
    (positional values).find? key = some value ↔
      ∃ position, SpellsPosition key position ∧ position < 2 ^ 64 ∧
        values[position]? = some value := by
  rw [find?, Option.bind_eq_some_iff]
  simp only [readPosition?_eq_some_iff, and_assoc]

/-- Something is found exactly under the keys that spell a position of an argument. No list is so
long that its positions reach the bound, which is assumed here because lists are not bounded. -/
theorem find?_positional_ne_none_iff {values : List Json} (fits : values.length ≤ 2 ^ 64)
    {key : Text} : (positional values).find? key ≠ none ↔
      ∃ position, SpellsPosition key position ∧ position < values.length := by
  rw [Option.ne_none_iff_exists']
  constructor
  · intro h
    obtain ⟨value, found⟩ := h
    obtain ⟨position, spells, -, there⟩ := find?_positional_eq_some_iff.1 found
    exact ⟨position, spells, (List.getElem?_eq_some_iff.1 there).1⟩
  · intro h
    obtain ⟨position, spells, inside⟩ := h
    exact ⟨_, find?_positional_eq_some_iff.2
      ⟨position, spells, inside.trans_le fits, List.getElem?_eq_getElem inside⟩⟩

/-- A key does not wrap around: what it spells is all that it can find. -/
theorem find?_positional_eq_none {key : Text} {position : Nat}
    (spells : SpellsPosition key position) (beyond : 2 ^ 64 ≤ position) (values : List Json) :
    (positional values).find? key = none := by
  refine Option.eq_none_iff_forall_ne_some.2 fun value found => ?_
  obtain ⟨other, spells', below, -⟩ := find?_positional_eq_some_iff.1 found
  exact absurd (spells.unique spells' ▸ below) beyond.not_gt

theorem find?_positional_ofNat (values : List Json) (zeros : Nat) {position : Nat}
    (below : position < 2 ^ 64) :
    (positional values).find? (List.replicate zeros '0' ++ Text.ofNat position) =
      values[position]? := by
  have read := readPosition?_eq_some_iff.2 ⟨.plain (numeral_ofNat zeros position), below⟩
  rw [find?, read, Option.bind_some]

/-- **What a key finds.** Among arguments that are not one object, a key finds the argument at the
position that it spells, and nothing if it spells none or one beyond all arguments. However long the
numeral is, it counts in full: the digits of a position find the argument there with any number of
zeros in front, and from two to the power of 64 on there is no argument.

Of one object, a key finds the field of exactly that name, whether or not it spells a position.
Fields are a table here, that is, in order and with one value for each name, as every object is that
has been read. -/
theorem keys_find_exactly :
    (∀ values : List Json, (∀ fields, values ≠ [.object fields]) →
      (∀ key value, (ofList values).find? key = some value ↔
        ∃ position, SpellsPosition key position ∧ position < 2 ^ 64 ∧
          values[position]? = some value) ∧
      (values.length ≤ 2 ^ 64 → ∀ key, ((ofList values).find? key ≠ none ↔
        ∃ position, SpellsPosition key position ∧ position < values.length)) ∧
      (∀ key position, SpellsPosition key position → 2 ^ 64 ≤ position →
        (ofList values).find? key = none) ∧
      ∀ zeros position, position < 2 ^ 64 →
        (ofList values).find? (List.replicate zeros '0' ++ Text.ofNat position) =
          values[position]?) ∧
    ∀ (fields : Table Json) (key : Text) (value : Json),
      (ofList [.object fields.entries]).find? key = some value ↔ (key, value) ∈ fields.entries := by
  refine ⟨fun values several => ?_, fun fields key value => ?_⟩
  · rw [ofList_of_ne several]
    exact ⟨fun _ _ => find?_positional_eq_some_iff, fun fits _ => find?_positional_ne_none_iff fits,
      fun _ _ spells beyond => find?_positional_eq_none spells beyond values,
      fun zeros _ below => find?_positional_ofNat values zeros below⟩
  · exact (Entries.mem_iff_find? fields.sorted).symm

/-- Zeros in front do not count, a numeral that is too great by two to the power of 64 does not
wrap, and the field of an object is found under a name that spells a position. -/
theorem keys_find_exactly_beyond :
    let several : List Json := [.string "Ada".toList, .bool true]
    let fields : Table Json := (∅ : Table Json).insert "+01".toList .null
    SpellsPosition "+0001".toList 1 ∧ SpellsPosition "18446744073709551617".toList (2 ^ 64 + 1) ∧
    (ofList several).find? "+0001".toList = some (.bool true) ∧
    (ofList several).find? "18446744073709551617".toList = none ∧
    (ofList several).find? "+".toList = none ∧
    (ofList [.object fields.entries]).find? "+01".toList = some .null ∧
    (ofList [.object fields.entries]).find? "1".toList = none := by
  intro several fields
  have small : SpellsPosition "+0001".toList 1 :=
    .signed ⟨List.cons_ne_nil _ _, List.all_eq_true.1 rfl, rfl⟩
  have great : SpellsPosition "18446744073709551617".toList (2 ^ 64 + 1) :=
    .plain ⟨List.cons_ne_nil _ _, List.all_eq_true.1 rfl, rfl⟩
  have plural (fields : Entries Json) : several ≠ [.object fields] :=
    fun same => Nat.succ_ne_self 1 (congrArg List.length same)
  obtain ⟨positional, named⟩ := keys_find_exactly
  obtain ⟨found, -, beyond, -⟩ := positional several plural
  exact ⟨small, great, (found _ _).2 ⟨1, small, by decide, rfl⟩,
    beyond _ _ great (Nat.le_add_right _ 1), rfl, (named fields _ .null).2 List.mem_cons_self, rfl⟩

end Arguments
end LocaleText
