/-!
# Texts and the cuts the message syntax makes in them

A text is the list of its characters, so every reader in this library recurses on the text itself.
This module holds the cuts that do not look at braces: `Text.cut?` at the first occurrence of a
separator and `Text.pieces` at every occurrence. `Text.utf8Size` is the measure in which positions
are reported. What the first cut returns is said by `cut?_eq_some_iff`; the cuts at every occurrence
take one stretch after the other from it (`cuts_append`).
-/

namespace LocaleText

/-- A text is the list of its characters. -/
abbrev Text := List Char

namespace Text

/-- The number of bytes that `text` takes in UTF-8. -/
def utf8Size (text : Text) : Nat :=
  text.foldr (fun c size => c.utf8Size + size) 0

@[simp] theorem utf8Size_nil : utf8Size [] = 0 := rfl

@[simp] theorem utf8Size_cons (c : Char) (text : Text) :
    utf8Size (c :: text) = c.utf8Size + utf8Size text := rfl

@[simp] theorem utf8Size_append (left right : Text) :
    utf8Size (left ++ right) = utf8Size left + utf8Size right := by
  induction left with
  | nil => rw [List.nil_append, utf8Size_nil, Nat.zero_add]
  | cons c cs ih => rw [List.cons_append, utf8Size_cons, utf8Size_cons, ih, Nat.add_assoc]

/-- The decimal digits of `n`. -/
def ofNat (n : Nat) : Text :=
  Nat.toDigits 10 n

/-- The decimal digits of `n`, after a minus sign when it is negative. -/
def ofInt (n : Int) : Text :=
  if n < 0 then '-' :: ofNat n.natAbs else ofNat n.natAbs

/-- The text before and after the first `sep`, or `none` when `sep` does not occur. -/
def cut? (sep : Char) : Text → Option (Text × Text)
  | [] => none
  | c :: cs => if c = sep then some ([], cs) else (cut? sep cs).map fun (l, r) => (c :: l, r)

/-- The stretches of text between the occurrences of `sep`, the first one apart: there is always
at least one stretch. -/
def cuts (sep : Char) : Text → Text × List Text
  | [] => ([], [])
  | c :: cs =>
    let (first, others) := cuts sep cs
    if c = sep then ([], first :: others) else (c :: first, others)

/-- The stretches of text between the occurrences of `sep`. -/
def pieces (sep : Char) (text : Text) : List Text :=
  let (first, others) := cuts sep text
  first :: others

/-- `text` without a leading `head`, when it starts with it. -/
def dropLeading? (head text : Text) : Option Text :=
  if head.isPrefixOf text then some (text.drop head.length) else none

theorem cut?_eq_none_iff {sep : Char} {text : Text} : cut? sep text = none ↔ sep ∉ text := by
  induction text with
  | nil => simp [cut?]
  | cons c cs ih =>
    by_cases h : c = sep
    · simp [cut?, h]
    · simp [cut?, h, ih, Ne.symm h]

theorem cut?_eq_some_iff {sep : Char} {text left right : Text} :
    cut? sep text = some (left, right) ↔ text = left ++ sep :: right ∧ sep ∉ left := by
  induction text generalizing left with
  | nil => simp [cut?]
  | cons c cs ih =>
    by_cases h : c = sep
    · cases left <;> grind [cut?]
    · cases left with
      | nil => simp [cut?, h]
      | cons l ls =>
        simp only [cut?, h, if_false, Option.map_eq_some_iff, Prod.exists, Prod.mk.injEq,
          List.cons_append, List.cons.injEq, List.mem_cons, not_or]
        grind

/-- A text without the separator is one stretch. -/
theorem cuts_of_not_mem {sep : Char} {text : Text} (absent : sep ∉ text) :
    cuts sep text = (text, []) := by
  induction text with
  | nil => rfl
  | cons c cs ih =>
    obtain ⟨first, rest⟩ := not_or.1 (fun h => absent (List.mem_cons.2 h))
    simp [cuts, ih rest, Ne.symm first]

/-- The first stretch ends at the first separator. -/
theorem cuts_append {sep : Char} {left : Text} (absent : sep ∉ left) (right : Text) :
    cuts sep (left ++ sep :: right) = (left, (cuts sep right).1 :: (cuts sep right).2) := by
  induction left with
  | nil => simp [cuts]
  | cons c cs ih =>
    obtain ⟨first, rest⟩ := not_or.1 (fun h => absent (List.mem_cons.2 h))
    simp [cuts, ih rest, Ne.symm first]

/-- Whatever stands between a stretch without the separator and the first separator belongs to
what is cut off. -/
theorem mem_of_cut {sep c : Char} {left right before after : Text} (absent : sep ∉ left)
    (other : c ≠ sep) (same : left ++ c :: right = before ++ sep :: after) : c ∈ before := by
  rcases List.append_eq_append_iff.1 same with ⟨gap, rfl, behind⟩ | ⟨gap, rfl, behind⟩
  · cases gap with
    | nil => exact absurd (List.cons.inj behind).1 other
    | cons first gap =>
      obtain ⟨rfl, -⟩ := List.cons.inj behind
      exact List.mem_append_right left List.mem_cons_self
  · cases gap with
    | nil => exact absurd (List.cons.inj behind).1.symm other
    | cons first gap =>
      obtain ⟨rfl, -⟩ := List.cons.inj behind
      exact absurd (List.mem_append_right before List.mem_cons_self) absent

end Text
end LocaleText
