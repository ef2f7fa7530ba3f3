import LocaleText.Proofs.RoundTrip
import LocaleText.Proofs.Surroundings

/-!
# LocaleText.Proofs.Spellings

**The two spellings of a plural block.** A block is written with the key inside the second pair of
braces, `{{key:list}}`, or in front of it, `{key:{list}}`. Both have the same source, whatever the
list (`source?_wrapped`, `source?_keyed`), and the same number of bytes. So one may stand in place
of the other anywhere in a template (`plural_spellings_interchange`): the template reads as the same
parts, or with the same fault. Only a block that lists too many alternatives or none is quoted in
its fault, each time in its own spelling.
-/

namespace LocaleText

namespace PluralBlock

/-- The body of a block with its key inside the second pair of braces. -/
def wrapped (key list : Text) : Text :=
  '{' :: (key ++ ':' :: list ++ ['}'])

/-- The body of a block with its key in front of the second pair of braces. -/
def keyed (key list : Text) : Text :=
  key ++ ':' :: '{' :: (list ++ ['}'])

/-- A key that can be written in either spelling. It may be blank, and have blanks around it; a
question mark in it is part of the key. -/
def FitsBoth (key : Text) : Prop :=
  ∀ c ∈ [':', '|', ',', '{', '}'], c ∉ key

instance (key : Text) : Decidable (FitsBoth key) :=
  -- Named, because characters can also be searched all of them.
  List.decidableBAll _ [':', '|', ',', '{', '}']

section Source

variable {key list : Text}

theorem FitsBoth.braceFree (fits : FitsBoth key) : BraceFree key :=
  ⟨fits '{' (by decide), fits '}' (by decide)⟩

/-- No character of the key is one of those that it must not hold. The two spellings end a key at
different characters, all of which are excluded. -/
theorem FitsBoth.any_eq_false (fits : FitsBoth key) {ends : Char → Bool}
    (excluded : ∀ c, ends c = true → c ∈ [':', '|', ',', '{', '}']) : key.any ends = false := by
  refine List.any_eq_false.2 fun c mem => ?_
  intro isEnd
  exact fits c (excluded c isEnd) mem

theorem balanced_colon_list (free : BraceFree key) (balanced : Balanced list) :
    Balanced (key ++ ':' :: list) := by
  refine free.balanced.append ?_
  rw [Balanced, nesting?_other (by decide) (by decide)]
  exact balanced

theorem balanced_wrapped (fits : FitsBoth key) (balanced : Balanced list) :
    Balanced (wrapped key list) :=
  (balanced_colon_list fits.braceFree balanced).enclose

theorem balanced_keyed (fits : FitsBoth key) (balanced : Balanced list) :
    Balanced (keyed key list) :=
  balanced_colon_list fits.braceFree balanced.enclose

/-- With the key inside, the block is found by the braces around its body, and the key ends at the
first colon. -/
theorem source?_wrapped (fits : FitsBoth key) (balanced : Balanced list) :
    source? (wrapped key list) = some (key, list) := by
  have trimmed : Text.trim (wrapped key list) = wrapped key list :=
    Text.trimmed_of_not_blank (by decide) (by decide) _
  have inner : unbrace? (wrapped key list) = some (key ++ ':' :: list) :=
    unbrace?_eq_some_iff.2 ⟨rfl, balanced_colon_list fits.braceFree balanced⟩
  have cut : Text.cut? ':' (key ++ ':' :: list) = some (key, list) :=
    Text.cut?_eq_some_iff.2 ⟨rfl, fits ':' (by decide)⟩
  have ends : key.any endsHead = false := by
    refine fits.any_eq_false fun c isEnd => ?_
    rw [endsHead, Bool.or_eq_true, Bool.or_eq_true, beq_iff_eq, beq_iff_eq, beq_iff_eq] at isEnd
    rcases isEnd with (rfl | rfl) | rfl <;> decide
  rw [source?, trimmed, inner]
  simp only [cut, ends, Bool.false_eq_true, if_false]

/-- With the key in front, it is found by the braces behind the first colon. -/
theorem source?_keyed (fits : FitsBoth key) (balanced : Balanced list) :
    source? (keyed key list) = some (key, list) := by
  have free : ∀ c ∈ [':', '|', '{', '}'], c ∉ key := by
    intro c mem
    refine fits c ?_
    simp only [List.mem_cons, List.not_mem_nil, or_false] at mem ⊢
    tauto
  exact Item.source?_of_braced free balanced

/-- Both spellings have as many bytes, so what stands behind has the same position. -/
theorem utf8Size_wrapped (key list : Text) :
    Text.utf8Size (wrapped key list) = Text.utf8Size (keyed key list) := by
  simp only [wrapped, keyed, Text.utf8Size_cons, Text.utf8Size_append]
  omega

end Source

end PluralBlock

open PluralBlock (FitsBoth wrapped keyed)

/-- A block reads as its alternatives in their slots, or fails for their number. -/
theorem Part.ofExpression_keyed {key list : Text} (free : ∀ c ∈ [':', '|', '{', '}'], c ∉ key)
    (balanced : Balanced list) :
    Part.ofExpression (keyed key list) =
      if 1 ≤ (Alternatives.read list).length ∧ (Alternatives.read list).length ≤ 6 then
        .ok (.plural {
          key := Text.trim key
          forms := Item.forms { compact := false } (Alternatives.read list) })
      else .error (.pluralArity (keyed key list) (Alternatives.read list).length) := by
  have source : PluralBlock.source? (keyed key list) = some (key, list) :=
    Item.source?_of_braced free balanced
  rw [Part.ofExpression_eq, source]
  by_cases count : 1 ≤ (Alternatives.read list).length ∧ (Alternatives.read list).length ≤ 6
  · rw [if_pos count]
    simp only [Item.ofAlternatives_eq count]
  · have none : PluralForms.ofAlternatives (Alternatives.read list) = none := by
      rw [← Option.not_isSome_iff_eq_none, PluralForms.ofAlternatives_isSome_iff]
      exact count
    rw [if_neg count]
    simp only [none]

/-- A block reads as the same part in both spellings, or as a fault with the same number of
alternatives. The part depends on key and list alone; the fault quotes the body. -/
theorem Part.ofExpression_spellings {key list : Text} (fits : FitsBoth key)
    (balanced : Balanced list) :
    Part.ofExpression (wrapped key list) = Part.ofExpression (keyed key list) ∨
    ∃ count, Part.ofExpression (wrapped key list) =
        .error (.pluralArity (wrapped key list) count) ∧
      Part.ofExpression (keyed key list) = .error (.pluralArity (keyed key list) count) := by
  rw [Part.ofExpression_eq, Part.ofExpression_eq, PluralBlock.source?_wrapped fits balanced,
    PluralBlock.source?_keyed fits balanced]
  cases slots : PluralForms.ofAlternatives (Alternatives.read list) with
  | some forms =>
      refine Or.inl ?_
      simp only [slots]
  | none =>
      refine Or.inr ⟨(Alternatives.read list).length, ?_, ?_⟩ <;> simp only [slots]

namespace Template

/-- **The two spellings of a block are interchangeable** between any texts, the one in front being
balanced, with any options: the template reads as the same parts, or has the same fault, unless the
fault is that of the block itself and quotes it.

If the text in front is not balanced, the braces of the block need not be its own. The text behind
can be any: whatever faults it has come at the same position in both spellings. -/
theorem plural_spellings_interchange (options : ParseOptions) {front key list : Text}
    (back : Text) (fits : FitsBoth key) (balancedList : Balanced list)
    (balancedFront : Balanced front) :
    parse options (front ++ (Segment.expression (wrapped key list)).write ++ back) =
      parse options (front ++ (Segment.expression (keyed key list)).write ++ back) ∨
    ∃ count, parse options (front ++ (Segment.expression (wrapped key list)).write ++ back) =
        .error (.pluralArity (wrapped key list) count) ∧
      parse options (front ++ (Segment.expression (keyed key list)).write ++ back) =
        .error (.pluralArity (keyed key list) count) := by
  obtain ⟨before, read⟩ := readParts_surrounded balancedFront
  have readWrapped := read (PluralBlock.balanced_wrapped fits balancedList) back
  have readKeyed := read (PluralBlock.balanced_keyed fits balancedList) back
  -- What stands behind the block is found at the same position in both texts.
  rw [PluralBlock.utf8Size_wrapped] at readWrapped
  rcases Part.ofExpression_spellings fits balancedList with same | ⟨count, wrong, wrong'⟩
  · refine Or.inl ?_
    rw [parse_eq, parse_eq, readWrapped, readKeyed, same]
  · rw [wrong] at readWrapped
    rw [wrong'] at readKeyed
    simp only [parse_eq, readWrapped, readKeyed]
    -- A fault of the braces, or of a block further to the left, comes before that of the block.
    cases Segment.scan 0 _ _ [] back with
    | error fault => exact Or.inl rfl
    | ok after =>
        cases before.mapM Part.ofSegment with
        | error fault => exact Or.inl rfl
        | ok left => exact Or.inr ⟨count, rfl, rfl⟩

/-- A labelled list with a bar in braces and one outside. -/
def labelledList : Text := "one:{a|b},other:c|d".toList

/-- The two spellings of a block whose key is blank, between other text, and of one that lists
nothing. -/
theorem plural_spellings_interchange_blank :
    (FitsBoth " ".toList ∧ Balanced labelledList ∧ Balanced "{n} ".toList ∧
      parse {} "{n} {{ :one:{a|b},other:c|d}}!".toList =
        parse {} "{n} { :{one:{a|b},other:c|d}}!".toList) ∧
    Balanced " ".toList ∧ Balanced [] ∧
      parse {} "{{ : }}\x7b".toList = parse {} "{ :{ }}\x7b".toList ∧
      parse {} "{{ : }}".toList = .error (.pluralArity "{ : }".toList 0) ∧
      parse {} "{ :{ }}".toList = .error (.pluralArity " :{ }".toList 0) := by
  have fits : FitsBoth " ".toList := by decide
  have balancedList : Balanced labelledList := by decide
  have balancedFront : Balanced "{n} ".toList := by decide
  have balancedBlank : Balanced " ".toList := by decide
  have alike := plural_spellings_interchange {} "!".toList fits balancedList balancedFront
  have open_ := plural_spellings_interchange {} "\x7b".toList fits balancedBlank balanced_nil
  have wrong := plural_spellings_interchange {} [] fits balancedBlank balanced_nil
  refine ⟨⟨fits, balancedList, balancedFront, ?_⟩, balancedBlank, balanced_nil, ?_, ?_⟩
  · rcases alike with same | ⟨count, wrong, -⟩
    · exact same
    · cases wrong
  · rcases open_ with same | ⟨count, wrong, -⟩
    · exact same
    · cases wrong
  · rcases wrong with same | ⟨count, here, there⟩
    · cases same
    · cases here
      exact ⟨rfl, rfl⟩

end Template

end LocaleText
