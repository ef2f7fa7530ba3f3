import LocaleText.Proofs.Influence
import LocaleText.Proofs.Rendering

/-!
# LocaleText.Proofs.Selection

**Which alternative a block shows, and when the rules are asked.** `PluralForms.Selects` says which
alternative is due to an argument, without the order in which the renderer looks at things: a truth
value settles the choice, zero does where it has an alternative that is not empty (`ZeroDue`), and
all else is left to the rules, whose category is served by its own alternative or, for few and many
only, by that for other (`Serves`). The conditions exclude each other, so one alternative is due
(`selects_iff`), and it is due to the block alone: the texts of the other parts stand around it
as they would without it.

The numbers that the rules are asked about are read off the same conditions
(`Template.consulted_eq_map`): one for each block that is left to them, in the order of the parts,
and none for any other part.
-/

namespace LocaleText

/-! ### What settles a choice -/

/-- The argument is a truth value. A text that spells one is not. -/
def IsTruth (argument : Option Json) : Prop :=
  argument.map Json.kind = some .boolean

instance : DecidablePred IsTruth := fun argument =>
  inferInstanceAs (Decidable (argument.map Json.kind = some .boolean))

/-- The argument is the number zero or the text `0`. Of texts no other spelling counts, while
numbers are compared by their value. -/
inductive CountsAsZero : Option Json → Prop
  | number {n : Number} : (n.toFloat == 0.0) = true → CountsAsZero (some (.number n))
  | text : CountsAsZero (some (.string ['0']))

theorem isZeroArgument_iff {argument : Option Json} :
    isZeroArgument argument = true ↔ CountsAsZero argument := by
  constructor
  · intro zero
    unfold isZeroArgument at zero
    split at zero
    · exact .number zero
    · rw [beq_iff_eq] at zero
      subst zero
      exact .text
    · cases zero
  · intro zero
    cases zero with
    | number zero => exact zero
    | text => rfl

instance : DecidablePred CountsAsZero := fun _ => decidable_of_iff _ isZeroArgument_iff

theorem isTruth_iff {argument : Option Json} :
    IsTruth argument ↔ ∃ truth, argument = some (.bool truth) := by
  constructor
  · intro isTruth
    match argument, isTruth with
    | some (.bool truth), _ => exact ⟨truth, rfl⟩
  · intro isTruth
    obtain ⟨truth, rfl⟩ := isTruth
    rfl

namespace PluralForms

/-- The argument is zero, and there is an alternative for it that is not empty. An empty one counts
as left out. -/
def ZeroDue (forms : PluralForms) (argument : Option Json) : Prop :=
  forms.zero.getD [] ≠ [] ∧ CountsAsZero argument

instance (forms : PluralForms) : DecidablePred forms.ZeroDue := fun argument =>
  inferInstanceAs (Decidable (forms.zero.getD [] ≠ [] ∧ CountsAsZero argument))

/-- The choice among the alternatives is left to the rules. -/
def LeftToRules (forms : PluralForms) (argument : Option Json) : Prop :=
  ¬IsTruth argument ∧ ¬forms.ZeroDue argument

instance (forms : PluralForms) : DecidablePred forms.LeftToRules := fun argument =>
  inferInstanceAs (Decidable (¬IsTruth argument ∧ ¬forms.ZeroDue argument))

/-- The alternative that is written for a category. -/
def written (forms : PluralForms) : Category → Option Text
  | .zero => forms.zero
  | .one => forms.one
  | .two => forms.two
  | .few => forms.few
  | .many => forms.many
  | .other => forms.other

/-- What serves a category. The three cases are apart: the alternative for other stands in for few
and many, and only if they have none of their own, be it an empty one. -/
inductive Serves (forms : PluralForms) : Category → Option Text → Prop
  /-- Its own alternative, where there is one. -/
  | own {category : Category} {text : Text} :
      forms.written category = some text → Serves forms category (some text)
  /-- The alternative for other, in place of one for few or many. -/
  | inPlace {category : Category} :
      category = .few ∨ category = .many → forms.written category = none →
      Serves forms category forms.other
  /-- Nothing, for any other category. -/
  | nothing {category : Category} :
      category ≠ .few → category ≠ .many → forms.written category = none →
      Serves forms category none

/-- The alternative that is due to an argument under the rules `select`. It may be due and missing,
as the one for one is to truth where there is none; then it is not that for other that is shown, but
nothing. -/
inductive Selects (select : Selector) (forms : PluralForms) (argument : Option Json) :
    Option Text → Prop
  /-- Truth is served by the alternative for one, whatever the rules. -/
  | yes : argument = some (.bool true) → Selects select forms argument forms.one
  /-- Falsity is served by the alternative for other. -/
  | no : argument = some (.bool false) → Selects select forms argument forms.other
  /-- Zero is served by its own alternative, unless that is empty. -/
  | zero : forms.ZeroDue argument → Selects select forms argument forms.zero
  /-- All else is served as the rules say. -/
  | rules {form : Option Text} : forms.LeftToRules argument →
      forms.Serves (select (pluralOperand argument)) form → Selects select forms argument form

variable {forms : PluralForms} {argument : Option Json} {form : Option Text}

/-! ### The alternative that is found -/

/-- Zero is due when the renderer finds it to be. -/
theorem zeroDue_iff :
    forms.ZeroDue argument ↔ (forms.hasZero && isZeroArgument argument) = true := by
  rw [Bool.and_eq_true, isZeroArgument_iff, ZeroDue, hasZero]
  refine and_congr_left fun _ => ?_
  cases forms.zero with
  | none => simp
  | some text => cases text <;> simp

/-- Zero is no truth value, so that the choice gets as far as its alternative. -/
theorem choice_of_zeroDue (due : forms.ZeroDue argument) :
    forms.choice argument = .settled forms.zero := by
  have found := zeroDue_iff.1 due
  cases due.2 with
  | number _ => exact if_pos found
  | text => exact if_pos found

/-- What is left to the rules gets as far as the rules, with the number that it counts as. -/
theorem choice_of_leftToRules (left : forms.LeftToRules argument) :
    forms.choice argument = .asks (pluralOperand argument) := by
  obtain ⟨noTruth, noZero⟩ := left
  unfold choice
  split
  · exact absurd rfl noTruth
  · exact absurd rfl noTruth
  · exact if_neg fun found => noZero (zeroDue_iff.2 found)

/-- The alternative for a category, with that for other in place of a missing one for few or many.
-/
theorem forCategory_eq (forms : PluralForms) (category : Category) :
    forms.forCategory category =
      (forms.written category).or
        (if category = .few ∨ category = .many then forms.other else none) := by
  cases category <;> simp [forCategory, written]

/-- What is shown for a category is what serves it, and only that serves it. -/
theorem serves_iff {category : Category} :
    forms.Serves category form ↔ form = forms.forCategory category := by
  rw [forCategory_eq]
  constructor
  · intro serves
    cases serves with
    | own here => rw [here, Option.some_or]
    | inPlace fewOrMany absent => rw [absent, Option.none_or, if_pos fewOrMany]
    | nothing notFew notMany absent =>
        rw [absent, Option.none_or, if_neg (not_or.2 ⟨notFew, notMany⟩)]
  · intro same
    rw [same]
    cases here : forms.written category with
    | some text => exact .own here
    | none =>
        rw [Option.none_or]
        split
        · next fewOrMany => exact .inPlace fewOrMany here
        · next neither =>
          obtain ⟨notFew, notMany⟩ := not_or.1 neither
          exact .nothing notFew notMany here

/-- The alternative that is found for an argument under the rules `select`. -/
def found (select : Selector) (forms : PluralForms) (argument : Option Json) : Option Text :=
  match forms.choice argument with
  | .settled form => form
  | .asks operand => forms.forCategory (select operand)

/-- An argument is a truth value, or zero is due, or the rules are asked. -/
theorem due_cases (forms : PluralForms) (argument : Option Json) :
    (∃ truth, argument = some (.bool truth)) ∨ forms.ZeroDue argument ∨
      forms.LeftToRules argument := by
  by_cases truth : IsTruth argument
  · exact Or.inl (isTruth_iff.1 truth)
  · by_cases zero : forms.ZeroDue argument
    · exact Or.inr (Or.inl zero)
    · exact Or.inr (Or.inr ⟨truth, zero⟩)

/-- **One alternative is due** to an argument, and it is the one that is found. The three ways in
which the renderer chooses are those of `due_cases`, which exclude each other. -/
theorem selects_iff {select : Selector} :
    forms.Selects select argument form ↔ form = forms.found select argument := by
  constructor
  · intro selects
    cases selects with
    | yes here => rw [here]; rfl
    | no here => rw [here]; rfl
    | zero due => rw [found, choice_of_zeroDue due]
    | rules left serves => rw [found, choice_of_leftToRules left, serves_iff.1 serves]
  · intro same
    rw [same]
    rcases forms.due_cases argument with ⟨truth, rfl⟩ | due | left
    · cases truth with
      | true => exact .yes rfl
      | false => exact .no rfl
    · rw [found, choice_of_zeroDue due]
      exact .zero due
    · rw [found, choice_of_leftToRules left]
      exact .rules left (serves_iff.2 rfl)

end PluralForms

/-! ### One block -/

namespace PluralBlock

variable (block : PluralBlock) (argument : Option Json)

theorem shown_eq (select : Selector) :
    block.shown select argument = showForm argument (block.forms.found select argument) := by
  rw [shown, PluralForms.found]
  cases block.forms.choice argument <;> rfl

/-- The rules are asked about a block exactly when the choice is left to them, and by the number
that the argument counts as. -/
theorem asked_eq :
    block.asked argument =
      if block.forms.LeftToRules argument then [pluralOperand argument] else [] := by
  rw [asked]
  rcases block.forms.due_cases argument with ⟨truth, rfl⟩ | due | left
  · rw [if_neg fun left => left.1 rfl]
    cases truth <;> rfl
  · rw [PluralForms.choice_of_zeroDue due, if_neg fun left => left.2 due]
  · rw [PluralForms.choice_of_leftToRules left, if_pos left]

end PluralBlock

/-! ### All blocks of a template -/

/-- The plural block that a part is, if it is one. -/
def Part.block? : Part → Option PluralBlock
  | .plural block => some block
  | _ => none

/-- The argument of a key, if there is one. -/
def Setting.argument (setting : Setting) (key : Text) : Option Json :=
  (Arguments.ofList setting.arguments).find? key

namespace Template

variable (setting : Setting)

/-- **The rules are asked** about the blocks that are left to them, in the order of the parts, once
each. No placeholder or literal asks them anything. -/
theorem consulted_eq_map (template : Template) :
    setting.consulted template =
      ((template.parts.filterMap Part.block?).filter fun block =>
        block.forms.LeftToRules (setting.argument block.key)).map fun block =>
          pluralOperand (setting.argument block.key) := by
  rw [Setting.consulted, consulted_eq]
  induction template.parts with
  | nil => rfl
  | cons part parts ih =>
      rw [List.flatMap_cons, ih]
      cases part with
      | literal text => rfl
      | placeholder p => rfl
      | plural block =>
          have here : Part.asked (Arguments.ofList setting.arguments) (.plural block) = _ :=
            block.asked_eq (setting.argument block.key)
          have named : (Part.plural block).block? = some block := rfl
          rw [here, List.filterMap_cons_some named, List.filter_cons]
          simp only [decide_eq_true_eq]
          split
          · rw [List.map_cons, List.singleton_append]
          · rfl

/-- A part shows between its neighbours what it shows alone. -/
theorem render_append_cons (front : List Part) (part : Part) (back : List Part) :
    setting.render ⟨front ++ part :: back⟩ =
      setting.render ⟨front⟩ ++
        part.shown setting.select setting.registry (Arguments.ofList setting.arguments) ++
          setting.render ⟨back⟩ := by
  simp only [Setting.render, render_eq, List.flatMap_append, List.flatMap_cons, List.append_assoc]

theorem render_append_plural (front : List Part) (block : PluralBlock) (back : List Part) :
    setting.render ⟨front ++ .plural block :: back⟩ =
      setting.render ⟨front⟩ ++
        showForm (setting.argument block.key)
          (block.forms.found setting.select (setting.argument block.key)) ++
          setting.render ⟨back⟩ := by
  rw [render_append_cons, ← PluralBlock.shown_eq]
  rfl

/-- **Plural selection.** In any setting, the rules are asked about the numbers of the blocks that
are left to them, in the order of the parts, and about nothing else.

Of each block, wherever it stands in a template, one alternative is due, and the other alternatives
do not matter to what is shown. It is shown in its place, with the argument filled in, while the
parts around it show what they would without it. Where none is due, the block shows as nothing. -/
theorem blocks_show_what_is_due :
    (∀ template, setting.consulted template =
      ((template.parts.filterMap Part.block?).filter fun block =>
        block.forms.LeftToRules (setting.argument block.key)).map fun block =>
          pluralOperand (setting.argument block.key)) ∧
    ∀ front block back, ∃ form,
      (∀ due, block.forms.Selects setting.select (setting.argument block.key) due ↔ due = form) ∧
      setting.render ⟨front ++ .plural block :: back⟩ =
        setting.render ⟨front⟩ ++ showForm (setting.argument block.key) form ++
          setting.render ⟨back⟩ ∧
      (form = none →
        setting.render ⟨front ++ .plural block :: back⟩ = setting.render ⟨front ++ back⟩) := by
  refine ⟨consulted_eq_map setting, fun front block back => ?_⟩
  have shows := render_append_plural setting front block back
  refine ⟨_, fun due => PluralForms.selects_iff, shows, fun nothing => ?_⟩
  rw [shows, nothing]
  simp only [Setting.render, render_eq, List.flatMap_append]
  exact congrArg (· ++ _) (List.append_nil _)

/-- A block with one alternative for one and one for all else. -/
def oneOrMore : PluralBlock :=
  ⟨"3".toList, { one := some "one".toList, other := some "more".toList }⟩

/-- Blocks for a truth value, for zero, for zero with an empty alternative, and `oneOrMore`. -/
def counts : Template :=
  { parts := [.plural ⟨"0".toList, { one := some "yes".toList, other := some "no".toList }⟩,
      .plural ⟨"1".toList, { zero := some ", none".toList, other := some "??".toList }⟩,
      .plural ⟨"2".toList, { zero := some [], other := some ", ?? few".toList }⟩,
      .plural oneOrMore] }

/-- Rules for which two is two and all other numbers are few. -/
def counting : Setting where
  arguments := [.bool true, .number (.integer 0), .string "0".toList, .number (.integer 2)]
  registry := ∅
  select x := if x == 2.0 then .two else .few

theorem blocks_show_what_is_due_counts :
    counting.consulted counts =
        [pluralOperand (some (.string "0".toList)), pluralOperand (some (.number (.integer 2)))] ∧
      oneOrMore.forms.Selects counting.select (counting.argument oneOrMore.key) none ∧
      counting.render counts = "yes, none, 0 few".toList := by
  obtain ⟨asked, shown⟩ := blocks_show_what_is_due counting
  have nothing : oneOrMore.forms.Selects counting.select (counting.argument oneOrMore.key) none :=
    .rules (by decide) (.nothing (by decide) (by decide) rfl)
  refine ⟨?_, nothing, ?_⟩
  · rw [asked]
    rfl
  · obtain ⟨form, due, -, skipped⟩ := shown (counts.parts.take 3) oneOrMore []
    have whole : counts = ⟨counts.parts.take 3 ++ .plural oneOrMore :: []⟩ := rfl
    rw [whole, skipped ((due none).1 nothing).symm]
    rfl

end Template

end LocaleText
