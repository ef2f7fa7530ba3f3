import LocaleText.Proofs.Faults
import LocaleText.Proofs.Influence
import LocaleText.Proofs.Inheritance
import LocaleText.Proofs.RoundTrip

/-!
# LocaleText.Proofs.Compaction

**Compacting changes nothing that is shown.** Compacting a template drops the fields that carry
nothing: steps that are empty, and types and alternatives that are empty or just `0`. An empty step
is skipped anyway, unless a formatter has the empty name. An alternative that is left out shows as
nothing, like an empty one; but `0` does not show as nothing, and where few or many has no
alternative, that for other serves. With these exceptions put aside (`Alternatives.Telling`) the
two ways to read a text render alike and ask the plural rules alike (`compacted_renders_alike`).

The facts are about one field, then one block, one part and all parts. Parts are compared before
the rules are asked (`Part.renderM_compact`), so that text and numbers come out of one induction.
-/

namespace LocaleText

/-! ### Alternatives -/

/-- No alternative is just `0`, its blanks aside, and none that serves few or many is blank. These
are the alternatives that compacting drops and that would have shown something: a `0` shows itself,
and a blank alternative for few or many shows nothing, where that for other is taken once it is
gone. -/
def Alternatives.Telling (alternatives : List Text) : Prop :=
  (∀ text ∈ alternatives, Text.trim text ≠ ['0']) ∧
    (∀ text ∈ Item.slot alternatives .few, Text.isBlankText text = false) ∧
      ∀ text ∈ Item.slot alternatives .many, Text.isBlankText text = false

instance : DecidablePred Alternatives.Telling := fun _ =>
  inferInstanceAs (Decidable (_ ∧ _ ∧ _))

/-- The alternatives that a segment writes, if it is a plural block. -/
def Segment.alternatives? : Segment → Option (List Text)
  | literal _ => none
  | expression body => (PluralBlock.source? body).map fun (_, list) => Alternatives.read list

/-- The alternatives that each plural block of a text writes, before anything is trimmed or dropped.
-/
def Template.writtenLists (text : Text) : List (List Text) :=
  match Segment.split text with
  | .ok segments => segments.filterMap Segment.alternatives?
  | .error _ => []

/-- The alternatives of a block in the form that compacting preserves: what is dropped from four of
the slots shows as nothing, and nothing is dropped from the two for which that for other would step
in. -/
structure PluralForms.Steady (forms : PluralForms) : Prop where
  /-- The alternative for zero is not `0`. -/
  zero : forms.zero ≠ some ['0']
  /-- The alternative for one is not `0`. -/
  one : forms.one ≠ some ['0']
  /-- The alternative for two is not `0`. -/
  two : forms.two ≠ some ['0']
  /-- The alternative for few stays. -/
  few : compactField forms.few = forms.few
  /-- The alternative for many stays. -/
  many : compactField forms.many = forms.many
  /-- The alternative for other is not `0`. -/
  other : forms.other ≠ some ['0']

/-- A field that says more than `0` is not dropped. Fields are compared as they are, so the blanks
of an alternative have to be trimmed before this applies. -/
theorem compactField_of_ne {text : Text} (notEmpty : text ≠ []) (notZero : text ≠ ['0']) :
    compactField (some text) = some text := by
  have notVoid : isVoid text = false := by
    rw [isVoid, Bool.or_eq_false_iff, List.isEmpty_eq_false_iff, beq_eq_false_iff_ne]
    exact ⟨notEmpty, notZero⟩
  rw [compactField, Option.filter_some, notVoid, Bool.not_false, if_pos rfl]

/-- Telling alternatives fill the slots of a block steadily, once their blanks are trimmed. A slot
holds one of the alternatives written (`Item.mem_of_slot`), so no slot is `0`; for few and many the
alternative is moreover not blank, and trimming leaves something of it. -/
theorem Alternatives.Telling.steady {alternatives : List Text} {forms : PluralForms}
    (telling : Telling alternatives) (h : PluralForms.ofAlternatives alternatives = some forms) :
    (forms.map (Option.map Text.trim)).Steady := by
  have count : 1 ≤ alternatives.length ∧ alternatives.length ≤ 6 :=
    PluralForms.ofAlternatives_isSome_iff.1 (by rw [h]; rfl)
  rw [Item.ofAlternatives_eq count, Option.some.injEq] at h
  subst h
  have plain (field : Option Text) : field.bind (Item.kept { compact := false }) = field := by
    cases field <;> rfl
  obtain ⟨noZero, few, many⟩ := telling
  have notZero (category : Category) :
      (Item.slot alternatives category).map Text.trim ≠ some ['0'] := by
    intro h
    obtain ⟨text, here, trimmed⟩ := Option.map_eq_some_iff.1 h
    exact noZero text (Item.mem_of_slot here) trimmed
  have kept (category : Category)
      (told : ∀ text ∈ Item.slot alternatives category, Text.isBlankText text = false) :
      compactField ((Item.slot alternatives category).map Text.trim) =
        (Item.slot alternatives category).map Text.trim := by
    have here := notZero category
    cases slot : Item.slot alternatives category with
    | none => rfl
    | some text =>
        rw [slot] at here
        have notEmpty : Text.trim text ≠ [] := fun same => by
          rw [Text.trim_eq_nil_iff, told text slot] at same
          cases same
        exact compactField_of_ne notEmpty fun same => here (congrArg some same)
  -- The six slots of the block are the slots of the list, since nothing is left out on writing.
  simp only [Item.forms, PluralForms.map, plain]
  exact ⟨notZero .zero, notZero .one, notZero .two, kept .few few, kept .many many,
    notZero .other⟩

/-! ### One part -/

/-- Dropping a field that is not `0` shows nothing else: what is dropped was empty, and a missing
alternative shows as an empty one. -/
theorem showForm_compactField {field : Option Text} (argument : Option Json)
    (h : field ≠ some ['0']) :
    showForm argument (compactField field) = showForm argument field := by
  cases field with
  | none => rfl
  | some text =>
      by_cases empty : text = []
      · rw [empty]
        rfl
      · rw [compactField_of_ne empty fun same => h (congrArg some same)]

section Forms

variable {forms : PluralForms}

/-- A block has an alternative for zero after compacting exactly when it had one before. An empty
one does not count as one, so that compacting may take it away. -/
theorem PluralForms.hasZero_compact (h : forms.zero ≠ some ['0']) :
    (forms.map compactField).hasZero = forms.hasZero := by
  have zero : (forms.map compactField).zero = compactField forms.zero := rfl
  rw [hasZero, hasZero, zero]
  cases field : forms.zero with
  | none => rfl
  | some text =>
      by_cases empty : text = []
      · rw [empty]
        rfl
      · rw [field] at h
        rw [compactField_of_ne empty fun same => h (congrArg some same)]

/-- Compacting leaves it to the argument or to the rules, as it was, which alternative is due. Only
the alternative for zero has a say in that, hence the one hypothesis. -/
theorem PluralForms.choice_compact (h : forms.zero ≠ some ['0']) (argument : Option Json) :
    (forms.map compactField).choice argument =
      match forms.choice argument with
      | .settled field => .settled (compactField field)
      | .asks operand => .asks operand := by
  unfold choice
  rw [hasZero_compact h]
  split
  · rfl
  · rfl
  · split <;> rfl

/-- An alternative on which the argument settles is not `0`. These are the ones for one and other,
for a truth value, and the one for zero. -/
theorem PluralForms.Steady.ne_of_settled (steady : forms.Steady) {argument : Option Json}
    {field : Option Text} (h : forms.choice argument = .settled field) : field ≠ some ['0'] := by
  unfold choice at h
  split at h
  · cases h
    exact steady.one
  · cases h
    exact steady.other
  · split at h
    · cases h
      exact steady.zero
    · cases h

/-- Whatever the category, the alternatives left show what all of them showed. Few and many are
unchanged, so that other steps in for them exactly where it did before. -/
theorem PluralForms.Steady.showForm_forCategory (steady : forms.Steady) (argument : Option Json)
    (category : Category) :
    showForm argument ((forms.map compactField).forCategory category) =
      showForm argument (forms.forCategory category) := by
  have other := showForm_compactField argument steady.other
  have orOther {field : Option Text} (kept : compactField field = field) :
      showForm argument ((compactField field).or (compactField forms.other)) =
        showForm argument (field.or forms.other) := by
    rw [kept]
    cases field with
    | none => exact other
    | some text => rfl
  cases category with
  | zero => exact showForm_compactField argument steady.zero
  | one => exact showForm_compactField argument steady.one
  | two => exact showForm_compactField argument steady.two
  | few => exact orOther steady.few
  | many => exact orOther steady.many
  | other => exact other

end Forms

/-- A chain skips empty steps when no formatter has the empty name. The value is general in the
induction, since the steps in front may replace it. -/
theorem apply_filter_isEmpty {registry : Registry} (unnamed : registry.contains [] = false)
    (steps : List Text) (value : Json) :
    Chain.apply registry (steps.filter fun step => !step.isEmpty) value =
      Chain.apply registry steps value := by
  have absent : registry.find? [] = none := by
    rwa [Table.contains, Option.isSome_eq_false_iff, Option.isNone_iff_eq_none] at unnamed
  have skipped (value : Json) : Chain.applyStep registry value [] = value := by
    have nothing : Chain.result? registry [] value = none := by
      show (registry.find? []).map _ = none
      rw [absent]
      rfl
    rw [Chain.applyStep, nothing]
    rfl
  induction steps generalizing value with
  | nil => rfl
  | cons step rest ih =>
      -- An empty step is dropped on the left and skipped on the right; any other is taken on both
      -- sides.
      cases step with
      | nil =>
          show Chain.apply registry (rest.filter fun step => !step.isEmpty) value =
            Chain.apply registry rest (Chain.applyStep registry value [])
          rw [skipped, ih]
      | cons c cs => exact ih (Chain.applyStep registry value (c :: cs))

/-- What compacting preserves of a part: of its alternatives, if it has any. -/
def Part.Steady : Part → Prop
  | .plural block => block.forms.Steady
  | _ => True

section Effects

variable {m : Type → Type} [Monad m] (ask : Float → m Category)

/-- **A compacted block** settles on the same alternative or leaves the same number to the rules. In
the second case it is the answer of the rules that picks the alternative, and the two sides agree
for every answer; so the effect of asking need not be known. -/
theorem PluralBlock.renderM_compact {block : PluralBlock} (steady : block.forms.Steady)
    (argument : Option Json) :
    { block with forms := block.forms.map compactField }.renderM ask argument =
      block.renderM ask argument := by
  unfold renderM
  rw [PluralForms.choice_compact steady.zero]
  cases choice : block.forms.choice argument with
  | settled field =>
      exact congrArg pure (showForm_compactField argument (steady.ne_of_settled choice))
  | asks operand => simp only [steady.showForm_forCategory]

/-- A compacted part shows what the part showed: a placeholder loses steps that were skipped, a
block alternatives that showed nothing. -/
theorem Part.renderM_compact {registry : Registry} (unnamed : registry.contains [] = false)
    (arguments : Arguments) {part : Part} (steady : part.Steady) :
    part.compact.renderM ask registry arguments = part.renderM ask registry arguments := by
  cases part with
  | literal text => rfl
  | placeholder p =>
      have chain := apply_filter_isEmpty unnamed p.steps ((arguments.find? p.key).getD .null)
      exact congrArg (fun value : Json => pure (Text.trim value.display)) chain
  | plural block => exact block.renderM_compact ask steady _

/-- Parts are shown in turn, so they are compared one by one. -/
theorem Part.renderAllM_compact {registry : Registry} (unnamed : registry.contains [] = false)
    (arguments : Arguments) {parts : List Part} (steady : ∀ part ∈ parts, part.Steady) :
    renderAllM ask registry arguments (parts.map compact) =
      renderAllM ask registry arguments parts := by
  induction parts with
  | nil => rfl
  | cons part rest ih =>
      have front := part.renderM_compact ask unnamed arguments (steady part List.mem_cons_self)
      have back := ih fun next mem => steady next (List.mem_cons_of_mem part mem)
      rw [List.map_cons, renderAllM, renderAllM, front, back]

end Effects

/-! ### Reading a text -/

/-- A block holds the alternatives that its segment writes. This is how a condition on the text,
like `Alternatives.Telling`, becomes one on the parts that are read from it. -/
theorem Segment.exists_alternatives {segment : Segment} {block : PluralBlock}
    (given : Part.ofSegment segment = .ok (.plural block)) :
    ∃ alternatives, segment.alternatives? = some alternatives ∧
      PluralForms.ofAlternatives alternatives = some block.forms := by
  cases segment with
  | literal text => cases given
  | expression body =>
      rcases Part.ofExpression_cases given with ⟨-, same⟩ | ⟨key, list, forms, source, slots, same⟩
      · cases same
      · cases same
        refine ⟨Alternatives.read list, ?_, slots⟩
        rw [alternatives?, source]
        rfl

namespace Template

/-- A text whose alternatives are telling reads, without compaction, as steady parts. A part comes
from a segment in three steps: it is read, gets its key, and has its alternatives trimmed. The key
does not touch the alternatives, so they are those of the segment. -/
theorem steady_of_parse {text : Text} {template : Template}
    (telling : ∀ alternatives ∈ writtenLists text, Alternatives.Telling alternatives)
    (h : parse { compact := false } text = .ok template) :
    ∀ part ∈ template.parts, part.Steady := by
  obtain ⟨segments, parts, cut, read, same⟩ := exists_of_parse h
  rw [same]
  intro part mem
  obtain ⟨filled, here, rfl⟩ := List.mem_map.1 mem
  obtain ⟨written, inParts, closest, rfl⟩ := Part.exists_of_mem_inheritFrom here
  cases written with
  | literal text => trivial
  | placeholder p => trivial
  | plural block =>
      obtain ⟨segment, inText, given⟩ := exists_of_mem_mapM read inParts
      obtain ⟨alternatives, written, slots⟩ := Segment.exists_alternatives given
      have listed : alternatives ∈ writtenLists text := by
        rw [writtenLists, cut]
        exact List.mem_filterMap.2 ⟨segment, inText, written⟩
      exact (telling alternatives listed).steady slots

/-- Compaction is the last thing that happens to the parts of a text, so it can be taken out of the
reading and applied to the template. -/
theorem parse_compact {text : Text} {template : Template}
    (h : parse { compact := false } text = .ok template) :
    parse { compact := true } text = .ok { parts := template.parts.map Part.compact } := by
  rw [parse_eq] at h ⊢
  cases read : readParts text with
  | error fault => rw [read] at h; cases h
  | ok parts =>
      rw [read] at h
      cases h
      simp only [Except.map, List.map_map]
      rfl

/-! ### Compacted templates -/

/-- **Compacting changes nothing that is shown.** A text without a fault reads with compaction and
without it; in every setting, both templates show the same text and ask the plural rules about the
same numbers in the same order.

The two conditions are what it takes: no alternative may be `0` or be one whose absence brings in
that for other, and no formatter may have the empty name, because a compacted template has lost the
steps that would call it. Nothing is asked of the arguments, the rules or the other formatters. -/
theorem compacted_renders_alike {text : Text} {setting : Setting}
    (wellFormed : ∀ fault, ¬Fault text fault)
    (telling : ∀ alternatives ∈ writtenLists text, Alternatives.Telling alternatives)
    (unnamed : setting.registry.contains [] = false) :
    ∃ written compacted, parse { compact := false } text = .ok written ∧
      parse { compact := true } text = .ok compacted ∧
      setting.render compacted = setting.render written ∧
      setting.consulted compacted = setting.consulted written := by
  -- Text and numbers are two readings of one equation, between renderings over any effect.
  obtain ⟨written, read⟩ := (parse_reports_fault { compact := false } text).2.1.2 wellFormed
  have steady := steady_of_parse telling read
  have alike {m : Type → Type} [Monad m] (ask : Float → m Category) :=
    Part.renderAllM_compact ask unnamed (Arguments.ofList setting.arguments) steady
  refine ⟨written, _, read, parse_compact read, ?_, ?_⟩
  · exact congrArg Id.run (alike (m := Id) fun x => pure (setting.select x))
  · exact congrArg (fun run : StateM (List Float) Text => (run.run []).2.reverse)
      (alike (noting setting.select))

/-- Blank steps and alternatives, in a block that a truth value settles and in one that it leaves to
the rules. -/
def sparse : Text :=
  "{0| |mark}, {1:{| }}{2:{none|| two|few??|many|}}".toList

/-- Rules for which all numbers are few. -/
def allFew : Setting :=
  { Setting.byPosition with select := fun _ => .few }

theorem sparse_renders_alike :
    (∀ fault, ¬Fault sparse fault) ∧
      (∀ alternatives ∈ writtenLists sparse, Alternatives.Telling alternatives) ∧
      allFew.registry.contains [] = false ∧
      ∃ written compacted, written ≠ compacted ∧
        parse { compact := false } sparse = .ok written ∧
        parse { compact := true } sparse = .ok compacted ∧
        allFew.render compacted = "x!, few".toList ∧ allFew.render written = "x!, few".toList := by
  have wellFormed : ∀ fault, ¬Fault sparse fault :=
    (parse_reports_fault { compact := false } sparse).2.1.1 ⟨_, rfl⟩
  have telling : ∀ alternatives ∈ writtenLists sparse, Alternatives.Telling alternatives := by
    decide
  have unnamed : allFew.registry.contains [] = false := rfl
  obtain ⟨written, compacted, plain, compact, same, -⟩ :=
    compacted_renders_alike wellFormed telling unnamed
  refine ⟨wellFormed, telling, unnamed, written, compacted, ?_, plain, compact, ?_, ?_⟩
  · cases plain
    cases compact
    decide
  · cases compact
    rfl
  · rw [← same]
    cases compact
    rfl

end Template

end LocaleText
