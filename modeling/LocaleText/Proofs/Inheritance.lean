import LocaleText.Template.Parse

/-!
# LocaleText.Proofs.Inheritance

**Filling in keys, part by part.** Filling in the keys of a template goes through its parts with the
closest key offered so far and the first one of all; what it does to one part with these two is
`Part.inherit`. So the part between `left` and `right` becomes `Part.filledIn left part right`
(`inheritKeys_append_cons`), in which all that is seen of the other parts are two keys that are
looked for from the left and from the right. Keys and the other fields are apart: keys are filled in
the same before and after trimming (`inheritKeys_map_trimFields`).
-/

namespace LocaleText

namespace Part

/-! ### One part -/

/-- A key that has been left out is an empty one. -/
theorem orElseKey_eq (key standIn : Text) :
    orElseKey key standIn = if key = [] then standIn else key := by
  cases key <;> rfl

/-- A key that is written stays. -/
theorem orElseKey_of_ne {key : Text} (written : key ≠ []) (standIn : Text) :
    orElseKey key standIn = key := by
  rw [orElseKey_eq, if_neg written]

/-- The part with its key filled in, `last` being the closest key offered before it and `first` the
first one of the template. A placeholder takes the first, a block the closest and the first if there
is none yet. -/
def inherit (first : Text) (last : Option Text) : Part → Part
  | literal text => literal text
  | placeholder p => placeholder { p with key := orElseKey p.key first }
  | plural block => plural { block with key := orElseKey block.key (last.getD first) }

section Inherit

variable (first : Text) (last : Option Text)

theorem isLiteral_inherit (part : Part) : (part.inherit first last).isLiteral = part.isLiteral := by
  cases part <;> rfl

theorem key?_inherit_placeholder {p : Placeholder} (keyless : p.key = []) :
    ((placeholder p).inherit first last).key? = some first := by
  simp only [inherit, key?, keyless]
  rfl

theorem key?_inherit_plural {block : PluralBlock} (keyless : block.key = []) :
    ((plural block).inherit first last).key? = some (last.getD first) := by
  simp only [inherit, key?, keyless]
  rfl

/-- A part that has a key keeps it, and literal text needs none. So it is only for keyless parts
that the two keys matter. -/
theorem inherit_of_keyed {part : Part} (keyed : part.key? ≠ some []) :
    part.inherit first last = part := by
  cases part with
  | literal text => rfl
  | placeholder p => rw [inherit, orElseKey_of_ne fun keyless => keyed (congrArg some keyless)]
  | plural block => rw [inherit, orElseKey_of_ne fun keyless => keyed (congrArg some keyless)]

/-- A key is filled in with the fields around it trimmed or not. -/
theorem inherit_trimFields (part : Part) :
    part.trimFields.inherit first last = (part.inherit first last).trimFields := by
  cases part <;> rfl

end Inherit

/-- Trimming changes no key that a part offers: keys have been trimmed when the part was read. -/
theorem offeredKey?_trimFields (part : Part) : part.trimFields.offeredKey? = part.offeredKey? := by
  cases part <;> rfl

/-! ### All parts -/

/-- One part after the other: the first is filled in, and the key it offers is the closest for the
others. -/
theorem inheritFrom_cons (first : Text) (last : Option Text) (part : Part) (parts : List Part) :
    inheritFrom first last (part :: parts) =
      part.inherit first last :: inheritFrom first (part.offeredKey?.or last) parts := by
  cases part <;> rfl

/-- **What reading has passed** is seen from the closest key offered there alone. The closest is
looked for from the right, hence the reversed list; where the left side offers none, the one from
before remains. -/
theorem inheritFrom_append (first : Text) (last : Option Text) (left right : List Part) :
    inheritFrom first last (left ++ right) =
      inheritFrom first last left ++
        inheritFrom first ((left.reverse.findSome? offeredKey?).or last) right := by
  induction left generalizing last with
  | nil => rfl
  | cons part left ih =>
      have closest : ((part :: left).reverse.findSome? offeredKey?).or last =
          (left.reverse.findSome? offeredKey?).or (part.offeredKey?.or last) := by
        rw [List.reverse_cons, List.findSome?_append, Option.or_assoc, List.findSome?_singleton]
      rw [List.cons_append, inheritFrom_cons, inheritFrom_cons, ih, closest, List.cons_append]

/-- No part is added or lost, so parts can be found again by their position. -/
theorem length_inheritFrom (first : Text) (last : Option Text) (parts : List Part) :
    (inheritFrom first last parts).length = parts.length := by
  induction parts generalizing last with
  | nil => rfl
  | cons part parts ih => rw [inheritFrom_cons, List.length_cons, List.length_cons, ih]

/-- Where every part has a key, nothing is filled in. -/
theorem inheritFrom_of_keyed {parts : List Part} (keyed : ∀ part ∈ parts, part.key? ≠ some [])
    (first : Text) (last : Option Text) : inheritFrom first last parts = parts := by
  induction parts generalizing last with
  | nil => rfl
  | cons part parts ih =>
      obtain ⟨here, later⟩ := List.forall_mem_cons.1 keyed
      rw [inheritFrom_cons, inherit_of_keyed first last here, ih later]

/-- Every part of the result is one of the parts, with its key filled in. This forgets with which
key, which is enough for what does not depend on keys. -/
theorem exists_of_mem_inheritFrom {first : Text} {last : Option Text} {parts : List Part}
    {part : Part} (mem : part ∈ inheritFrom first last parts) :
    ∃ written ∈ parts, ∃ closest, part = written.inherit first closest := by
  induction parts generalizing last with
  | nil => cases mem
  | cons head rest ih =>
      rw [inheritFrom_cons] at mem
      rcases List.mem_cons.1 mem with rfl | mem
      · exact ⟨head, List.mem_cons_self, last, rfl⟩
      · obtain ⟨written, here, closest, same⟩ := ih mem
        exact ⟨written, List.mem_cons_of_mem head here, closest, same⟩

/-- What trimming and filling in do to a part is independent, so it is along the parts. -/
theorem inheritFrom_map_trimFields (first : Text) (last : Option Text) (parts : List Part) :
    inheritFrom first last (parts.map trimFields) =
      (inheritFrom first last parts).map trimFields := by
  induction parts generalizing last with
  | nil => rfl
  | cons part parts ih =>
      rw [List.map_cons, inheritFrom_cons, inheritFrom_cons, List.map_cons, inherit_trimFields,
        offeredKey?_trimFields, ih]

/-- Keys are filled in the same, whether the other fields are trimmed before that or afterwards. -/
theorem inheritKeys_map_trimFields (parts : List Part) :
    inheritKeys (parts.map trimFields) = (inheritKeys parts).map trimFields := by
  have offered : offeredKey? ∘ trimFields = offeredKey? := funext offeredKey?_trimFields
  rw [inheritKeys, inheritKeys, List.findSome?_map, offered, inheritFrom_map_trimFields]

/-! ### One part among the others -/

/-- The key that stands in for those left out is the first one offered, or `0` if there is none. -/
def standIn (parts : List Part) : Text :=
  (parts.findSome? offeredKey?).getD defaultKey

theorem inheritKeys_eq (parts : List Part) :
    inheritKeys parts = inheritFrom (standIn parts) none parts := rfl

/-- The part that stands between `left` and `right`, with its key filled in. -/
def filledIn (left : List Part) (part : Part) (right : List Part) : Part :=
  part.inherit (standIn (left ++ part :: right)) (left.reverse.findSome? offeredKey?)

/-- **One part among the others**, filled in. A statement about the key of one part can use this in
place of an induction over all of them. -/
theorem inheritKeys_append_cons (left : List Part) (part : Part) (right : List Part) :
    (inheritKeys (left ++ part :: right))[left.length]? = some (filledIn left part right) := by
  have behind := Nat.le_of_eq (length_inheritFrom (standIn (left ++ part :: right)) none left)
  rw [inheritKeys_eq, inheritFrom_append, inheritFrom_cons, Option.or_none,
    List.getElem?_append_right behind, length_inheritFrom, Nat.sub_self, List.getElem?_cons_zero]
  rfl

/-! ### Tidying -/

section Tidy

variable (options : ParseOptions)

/-- Tidying leaves keys alone, compacting or not. -/
theorem key?_tidy (part : Part) : (part.tidy options).key? = part.key? := by
  obtain ⟨compact⟩ := options
  cases compact <;> cases part <;> rfl

theorem isLiteral_tidy (part : Part) : (part.tidy options).isLiteral = part.isLiteral := by
  obtain ⟨compact⟩ := options
  cases compact <;> cases part <;> rfl

/-- Parts that differ in the blanks around their fields only are tidied alike, because tidying trims
first, with any options. -/
theorem map_tidy_congr {parts parts' : List Part}
    (alike : parts.map trimFields = parts'.map trimFields) :
    parts.map (tidy options) = parts'.map (tidy options) := by
  obtain ⟨compact⟩ := options
  cases compact with
  | false => exact alike
  | true =>
      have compacted := congrArg (List.map Part.compact) alike
      rw [List.map_map, List.map_map] at compacted
      exact compacted

end Tidy

end Part

end LocaleText
