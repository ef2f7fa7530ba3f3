import LocaleText.Proofs.Keys
import LocaleText.Proofs.Selection

/-!
# LocaleText.Proofs.NormalForm

**What is read from a text is in normal form.** `Template.Normal` lists what holds of every part of
a template that was read with compaction, and of neighbours among the parts. Each stage of reading
contributes its share: the cut keeps literals apart, non-empty and free of braces, filling in gives
every expression a key, and tidying leaves no field that carries nothing (`Part.normal_tidy`).

A part is literal exactly when its segment is (`map_isLiteral_parts`), so the literal templates are
those of the texts without a brace, and they show that text (`parse_of_braceFree`).
-/

namespace LocaleText

/-! ### Parts in normal form -/

/-- The text is trimmed and not empty. Keys and the names of steps are. -/
structure Text.Clean (text : Text) : Prop where
  /-- Something is written. -/
  notEmpty : text ≠ []
  /-- No blank stands at its ends. -/
  trimmed : Trimmed text

/-- The text is clean and not just `0`. Types and alternatives that are not have been dropped. -/
structure Text.Telling (text : Text) : Prop extends Text.Clean text where
  /-- More than `0` is written. -/
  notZero : text ≠ ['0']

/-- What holds of a part that was read with compaction. Literal text is not trimmed, and may be
blank or `0`. -/
def Part.Normal : Part → Prop
  | literal text => text ≠ [] ∧ BraceFree text
  | placeholder p =>
    p.key.Clean ∧ (∀ tag, p.typeTag = some tag → tag.Telling) ∧ ∀ step ∈ p.steps, step.Clean
  | plural block =>
    block.key.Clean ∧ ∀ category form, block.forms.written category = some form → form.Telling

/-- What holds of a template that was read with compaction. -/
structure Template.Normal (template : Template) : Prop where
  /-- Every part is in normal form. -/
  normal : ∀ part ∈ template.parts, part.Normal
  /-- No two literals meet. -/
  apart : template.parts.IsChain fun left right =>
    ¬(left.isLiteral = true ∧ right.isLiteral = true)

/-! ### Tidying -/

theorem PluralForms.written_map (f : Option Text → Option Text) (forms : PluralForms)
    (category : Category) : (forms.map f).written category = f (forms.written category) := by
  cases category <;> rfl

/-- A field that is left after trimming and compacting tells something. The order matters: a field
is tested for being empty or `0` when its blanks are gone. -/
theorem telling_of_compactField {field : Option Text} {text : Text}
    (left : compactField (field.map Text.trim) = some text) : text.Telling := by
  rw [compactField, Option.filter_eq_some_iff, Option.map_eq_some_iff] at left
  obtain ⟨⟨written, -, rfl⟩, told⟩ := left
  rw [Bool.not_eq_true', isVoid, Bool.or_eq_false_iff, List.isEmpty_eq_false_iff,
    beq_eq_false_iff_ne] at told
  exact { notEmpty := told.1, trimmed := Text.trimmed_trim written, notZero := told.2 }

/-- **Tidying** brings a part into normal form, if its key or its text is. Keys and literal text are
as reading left them, hence the two conditions; all other fields are tidied here. -/
theorem Part.normal_tidy {part : Part} (named : ∀ key, part.key? = some key → key.Clean)
    (proper : ∀ text, part = .literal text → text ≠ [] ∧ BraceFree text) :
    (part.tidy { compact := true }).Normal := by
  cases part with
  | literal text => exact proper text rfl
  | placeholder p =>
      refine ⟨named p.key rfl, fun tag left => telling_of_compactField left, fun step mem => ?_⟩
      obtain ⟨inSteps, notEmpty⟩ := List.mem_filter.1 mem
      obtain ⟨written, -, rfl⟩ := List.mem_map.1 inSteps
      rw [Bool.not_eq_true', List.isEmpty_eq_false_iff] at notEmpty
      exact ⟨notEmpty, Text.trimmed_trim written⟩
  | plural block =>
      refine ⟨named block.key rfl, fun category form left => ?_⟩
      have compacted : compactField ((block.forms.written category).map Text.trim) = some form := by
        rw [← PluralForms.written_map (Option.map Text.trim),
          ← PluralForms.written_map compactField]
        exact left
      exact telling_of_compactField compacted

/-! ### Literal parts -/

theorem Part.map_isLiteral_inheritFrom (first : Text) (last : Option Text) (parts : List Part) :
    (inheritFrom first last parts).map isLiteral = parts.map isLiteral := by
  induction parts generalizing last with
  | nil => rfl
  | cons part parts ih =>
      rw [inheritFrom_cons, List.map_cons, List.map_cons, isLiteral_inherit, ih]

/-- Only literal text is read as a literal: no expression becomes one. -/
theorem Part.eq_literal_of_ofSegment {segment : Segment} {text : Text}
    (h : ofSegment segment = .ok (.literal text)) : segment = .literal text := by
  have literal := isLiteral_ofSegment h
  cases segment with
  | literal written =>
      cases h
      rfl
  | expression body => cases literal

/-- Only in a text without braces all segments are literal. An expression is written in braces,
while proper literals have none. -/
theorem Segment.braceFree_writeAll_iff {segments : List Segment} (wellCut : WellCut segments) :
    BraceFree (writeAll segments) ↔ ∀ segment ∈ segments, segment.isLiteral = true := by
  constructor
  · intro free segment mem
    cases segment with
    | literal text => rfl
    | expression body =>
        exact absurd (List.mem_flatMap.2 ⟨_, mem, List.mem_cons_self⟩) free.1
  · intro literal
    have absent {c : Char} (brace : c = '{' ∨ c = '}') : c ∉ writeAll segments := by
      intro mem
      obtain ⟨segment, here, inside⟩ := List.mem_flatMap.1 mem
      have proper := wellCut.proper segment here
      cases segment with
      | expression body => cases literal _ here
      | literal text =>
          rcases brace with rfl | rfl
          · exact proper.2.1 inside
          · exact proper.2.2 inside
    exact ⟨absent (Or.inl rfl), absent (Or.inr rfl)⟩

/-- A text without braces is its own cut. The empty text is apart, as it has no segment. -/
theorem Segment.split_of_braceFree {text : Text} (free : BraceFree text) (notEmpty : text ≠ []) :
    split text = .ok [.literal text] := by
  have wellCut : WellCut [literal text] :=
    wellCut_literal_cons.2 ⟨⟨notEmpty, free⟩, startsOpen_nil, wellCut_nil⟩
  refine split_eq_ok_iff.2 ⟨?_, wellCut⟩
  rw [writeAll_literal_cons, writeAll_nil, List.append_nil]

namespace Template

variable {options : ParseOptions} {text : Text} {template : Template}

/-- A text without braces is read as itself. -/
theorem parse_of_braceFree (free : BraceFree text) (notEmpty : text ≠ []) :
    parse options text = .ok ⟨[.literal text]⟩ := by
  rw [parse_eq, readParts_of_split_ok (Segment.split_of_braceFree free notEmpty)]
  obtain ⟨compact⟩ := options
  cases compact <;> rfl

/-- The parts of a template are literal where its segments are. None of the stages that follow the
cut changes this. -/
theorem map_isLiteral_parts {segments : List Segment} {parts : List Part}
    (read : segments.mapM Part.ofSegment = .ok parts)
    (same : template.parts = (Part.inheritKeys parts).map (Part.tidy options)) :
    template.parts.map Part.isLiteral = segments.map Segment.isLiteral := by
  have alike : Part.isLiteral ∘ Part.tidy options = Part.isLiteral :=
    funext (Part.isLiteral_tidy options)
  rw [same, List.map_map, alike, Part.inheritKeys, Part.map_isLiteral_inheritFrom,
    map_of_mapM Part.isLiteral_ofSegment read]

/-- Every part of a template comes from a segment, with its key filled in and tidied. The neighbours
are given as well, because it is from them that a key is filled in. -/
theorem exists_of_mem_parts {segments : List Segment} {parts : List Part} {part : Part}
    (read : segments.mapM Part.ofSegment = .ok parts)
    (same : template.parts = (Part.inheritKeys parts).map (Part.tidy options))
    (mem : part ∈ template.parts) :
    ∃ before segment after left given right, segments = before ++ segment :: after ∧
      parts = left ++ given :: right ∧ before.mapM Part.ofSegment = .ok left ∧
      Part.ofSegment segment = .ok given ∧
      part = (Part.filledIn left given right).tidy options := by
  -- The segment is the one at the position of the part.
  obtain ⟨i, here⟩ := List.mem_iff_getElem?.1 mem
  have count : template.parts.length = segments.length := by
    rw [same, List.length_map, Part.inheritKeys, Part.length_inheritFrom, length_of_mapM read]
  have within : i < segments.length := by
    rw [← count]
    exact (List.getElem?_eq_some_iff.1 here).1
  have whole : segments = segments.take i ++ segments[i] :: segments.drop (i + 1) := by
    rw [← List.drop_eq_getElem_cons within, List.take_append_drop]
  rw [whole] at read
  obtain ⟨left, given, right, rfl, front, readHere, -⟩ := exists_of_mapM_append_cons read
  have position : left.length = i := by
    rw [length_of_mapM front, List.length_take_of_le (Nat.le_of_lt within)]
  have found := getElem?_parts same
  rw [position, here, Option.some.injEq] at found
  exact ⟨_, _, _, left, given, right, whole, rfl, front, readHere, found⟩

/-- A template is literal exactly when the text it is read from has no brace. This is so with any
options, and can be seen without reading the text. -/
theorem isLiteral_iff_of_parse (h : parse options text = .ok template) :
    template.isLiteral = true ↔ BraceFree text := by
  obtain ⟨segments, parts, cut, read, same⟩ := exists_of_parse h
  obtain ⟨rfl, wellCut⟩ := Segment.split_eq_ok_iff.1 cut
  have alike : template.parts.all Part.isLiteral = segments.all Segment.isLiteral := by
    have mapped := congrArg (List.all · id) (map_isLiteral_parts read same)
    simpa only [List.all_map, Function.id_comp] using mapped
  rw [isLiteral, alike, List.all_eq_true, Segment.braceFree_writeAll_iff wellCut]

/-- A template has no part exactly when the text it is read from is empty. Compaction drops fields,
never parts. -/
theorem isEmpty_iff_of_parse (h : parse options text = .ok template) :
    template.isEmpty = true ↔ text = [] := by
  obtain ⟨segments, parts, cut, read, same⟩ := exists_of_parse h
  have count : template.parts.length = segments.length := by
    simpa only [List.length_map] using congrArg List.length (map_isLiteral_parts read same)
  rw [isEmpty, List.isEmpty_iff, ← List.length_eq_zero_iff, count, List.length_eq_zero_iff]
  have nothing : Segment.split [] = .ok [] :=
    Segment.split_eq_ok_iff.2 ⟨Segment.writeAll_nil, Segment.wellCut_nil⟩
  constructor
  · rintro rfl
    exact (Segment.split_eq_ok_iff.1 cut).1.symm
  · rintro rfl
    exact Except.ok.inj (cut.symm.trans nothing)

/-- A literal template shows the text it is read from, and leaves nothing to the rules. The text has
one literal, unless it is empty and has none. -/
theorem shows_of_braceFree (h : parse options text = .ok template) (free : BraceFree text)
    (setting : Setting) : setting.render template = text ∧ setting.consulted template = [] := by
  rw [Setting.render, Setting.consulted, render_eq, consulted_eq]
  by_cases empty : text = []
  · have noPart := (isEmpty_iff_of_parse h).2 empty
    rw [isEmpty, List.isEmpty_iff] at noPart
    rw [noPart, empty]
    exact ⟨rfl, rfl⟩
  · rw [parse_of_braceFree free empty, Except.ok.injEq] at h
    subst h
    exact ⟨List.append_nil text, rfl⟩

/-- What is read with compaction is in normal form: each part by `Part.normal_tidy`, and neighbours
because they are literal where segments are. -/
theorem normal_of_parse (h : parse { compact := true } text = .ok template) : template.Normal := by
  obtain ⟨segments, parts, cut, read, same⟩ := exists_of_parse h
  have wellCut := (Segment.split_eq_ok_iff.1 cut).2
  constructor
  · intro part mem
    obtain ⟨before, segment, after, left, given, right, rfl, rfl, front, here, rfl⟩ :=
      exists_of_mem_parts read same mem
    refine Part.normal_tidy (fun key named => ?_) (fun text literal => ?_)
    · have expression : given.isLiteral = false := by
        cases given with
        | literal text => cases named
        | placeholder p => rfl
        | plural block => rfl
      obtain ⟨filled, same, notEmpty, trimmed⟩ :=
        exists_key?_filledIn wellCut.proper read front here expression
      rw [named, Option.some.injEq] at same
      rw [same]
      exact ⟨notEmpty, trimmed⟩
    · cases given with
      | placeholder p => cases literal
      | plural block => cases literal
      | literal written =>
          cases literal
          rw [Part.eq_literal_of_ofSegment here] at wellCut
          exact wellCut.proper _ (List.mem_append_right before List.mem_cons_self)
  · -- Which parts are literals can be seen from the segments, and these are cut well.
    have apart : (segments.map Segment.isLiteral).IsChain
        fun left right => ¬(left = true ∧ right = true) :=
      (List.isChain_map Segment.isLiteral).2 wellCut.apart
    rw [← map_isLiteral_parts read same, List.isChain_map] at apart
    exact apart

/-- **What is read with compaction is in normal form.** In every part the key is trimmed and not
empty, types and alternatives say more than `0`, steps are named, and literal text is there and has
no brace; no two literals are neighbours.

The template has no part exactly when the text is empty, and it is literal exactly when the text has
no brace; a literal template shows the text in every setting and leaves nothing to the rules.
Nothing is assumed but that the text reads. -/
theorem parsed_templates_are_normal (h : parse { compact := true } text = .ok template) :
    template.Normal ∧ (template.isEmpty = true ↔ text = []) ∧
      (template.isLiteral = true ↔ BraceFree text) ∧
      (template.isLiteral = true → ∀ setting : Setting,
        setting.render template = text ∧ setting.consulted template = []) := by
  have literal := isLiteral_iff_of_parse h
  exact ⟨normal_of_parse h, isEmpty_iff_of_parse h, literal, fun isLiteral =>
    shows_of_braceFree h (literal.1 isLiteral)⟩

/-- Blanks and noughts in every field, and keys left out. -/
def untidy : Text := "{ : 0 | | mark }, {{ 0 | x }}".toList

/-- What `untidy` is read as. -/
def tidied : Template where
  parts :=
    [.placeholder ⟨"0".toList, none, false, ["mark".toList]⟩, .literal ", ".toList,
      .plural ⟨"0".toList, { other := some "x".toList }⟩]

theorem parsed_templates_are_normal_untidy :
    (parse { compact := true } untidy = .ok tidied ∧ tidied.Normal ∧ tidied.isLiteral = false) ∧
      parse { compact := true } "0|?".toList = .ok ⟨[.literal "0|?".toList]⟩ ∧
      ∀ setting : Setting, setting.render ⟨[.literal "0|?".toList]⟩ = "0|?".toList := by
  have read : parse { compact := true } untidy = .ok tidied := rfl
  have readLiteral : parse { compact := true } "0|?".toList = .ok ⟨[.literal "0|?".toList]⟩ := rfl
  obtain ⟨-, -, -, shows⟩ := parsed_templates_are_normal readLiteral
  exact ⟨⟨read, (parsed_templates_are_normal read).1, rfl⟩, readLiteral, fun setting =>
    (shows rfl setting).1⟩

end Template

end LocaleText
