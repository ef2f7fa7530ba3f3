import LocaleText.Proofs.Influence
import Mathlib.Data.List.Induction

/-!
# LocaleText.Proofs.Chains

**A chain replaces a value and never erases it.** What a step does to a value is one of two things:
it puts something in its place (`Chain.Replaces`), or it is skipped, for one of three reasons
(`Chain.Skips`). A `Chain.Run` is a sequence of such steps together with the ones among them that
were not skipped; every chain has one run from a value (`exists_run`, `Run.unique`), and the steps
that it keeps make a chain with the same result (`Run.apply_kept`), since a step that is skipped
leaves the next one the value that it was given itself.

Skipping also tells the last replacement apart: all steps behind it are skipped on the result, so
the result is what that step made of the value before it (`apply_cases`). A table is a step that
looks at no formatter, whatever is registered (`applyStep_table`).
-/

namespace LocaleText

/-- What counts as nothing: the three values that a formatter returns to say that it has no result.
An empty list or object, zero and a blank text are something. -/
theorem Json.isNothing_iff {value : Json} :
    value.isNothing = true ↔ value = .null ∨ value = .bool false ∨ value = .string [] := by
  cases value with
  | bool truth => cases truth <;> simp [isNothing]
  | string text => cases text <;> simp [isNothing]
  | _ => simp [isNothing]

namespace Chain

variable {registry : Registry} {value next result : Json} {step : Text} {steps kept : List Text}

/-! ### One step -/

/-- What a step makes of a value: a table its text for the value, and the name of a formatter what
the formatter makes of it. A step in the form of a table is never looked up among the formatters. -/
inductive Yields (registry : Registry) (value : Json) (step : Text) : Json → Prop
  | table {switch : Switch} {text : Text} : Switch.parse? step = some switch →
      switch.find? value.display = some text → Yields registry value step (.string text)
  | formatter {formatter : Formatter} : Switch.parse? step = none →
      registry.find? step = some formatter → Yields registry value step (formatter value)

/-- The step puts `next` in the place of the value: it makes `next` of it, and that is not nothing.
-/
structure Replaces (registry : Registry) (value : Json) (step : Text) (next : Json) : Prop where
  /-- This is what the step makes of the value. -/
  yields : Yields registry value step next
  /-- It is something. -/
  something : next.isNothing = false

/-- The step leaves the value as it is, for one of three reasons. A chain goes on behind such a step
as if it were not there. -/
inductive Skips (registry : Registry) (value : Json) (step : Text) : Prop
  /-- It is neither a table nor the name of a formatter. -/
  | unknown : Switch.parse? step = none → registry.find? step = none → Skips registry value step
  /-- It is a table that says nothing of the value. -/
  | unmatched {switch : Switch} : Switch.parse? step = some switch →
      switch.find? value.display = none → Skips registry value step
  /-- What it makes of the value is `null`, `false` or the empty text. -/
  | nothing {next : Json} : Yields registry value step next → next.isNothing = true →
      Skips registry value step

/-- What a step makes of a value is what the evaluation finds. This and the next two lemmas are the
only ones that look into a step; all others go through the two cases of `step_cases`. -/
theorem yields_iff : Yields registry value step next ↔ result? registry step value = some next := by
  unfold result?
  constructor
  · intro yields
    cases yields with
    | table read here => simp only [read, here, Option.map_some]
    | formatter noTable here => simp only [noTable, here, Option.map_some]
  · intro made
    cases read : Switch.parse? step with
    | some switch =>
        simp only [read, Option.map_eq_some_iff] at made
        obtain ⟨text, here, rfl⟩ := made
        exact .table read here
    | none =>
        simp only [read, Option.map_eq_some_iff] at made
        obtain ⟨formatter, here, rfl⟩ := made
        exact .formatter read here

/-- What a step puts in the place of a value, if it is not skipped. -/
def replacement? (registry : Registry) (value : Json) (step : Text) : Option Json :=
  (result? registry step value).filter fun next => !next.isNothing

theorem applyStep_eq (registry : Registry) (value : Json) (step : Text) :
    applyStep registry value step = (replacement? registry value step).getD value := rfl

/-- A step replaces the value by what is left of its result when nothing has been taken out. -/
theorem replaces_iff :
    Replaces registry value step next ↔ replacement? registry value step = some next := by
  rw [replacement?, Option.filter_eq_some_iff, ← yields_iff, Bool.not_eq_true']
  exact ⟨fun replaces => ⟨replaces.yields, replaces.something⟩, fun given => ⟨given.1, given.2⟩⟩

/-- A step is skipped exactly when it has no replacement to offer. The three reasons are the ways in
which that can be: no table and no formatter, a table without a text for the value, or a result that
is nothing. -/
theorem skips_iff : Skips registry value step ↔ replacement? registry value step = none := by
  constructor
  · intro skips
    cases skips with
    | unknown noTable absent =>
        simp only [replacement?, result?, noTable, absent, Option.map_none, Option.filter_none]
    | unmatched read silent =>
        simp only [replacement?, result?, read, silent, Option.map_none, Option.filter_none]
    | nothing yields nothing =>
        rw [replacement?, yields_iff.1 yields, Option.filter_some, nothing]
        rfl
  · -- What is missing tells the reasons apart: a result, or something in the result.
    intro kept
    cases made : result? registry step value with
    | some next =>
        cases nothing : next.isNothing with
        | true => exact .nothing (yields_iff.2 made) nothing
        | false =>
            rw [replacement?, made, Option.filter_some, nothing] at kept
            cases kept
    | none =>
        unfold result? at made
        cases read : Switch.parse? step with
        | some switch =>
            simp only [read, Option.map_eq_none_iff] at made
            exact .unmatched read made
        | none =>
            simp only [read, Option.map_eq_none_iff] at made
            exact .unknown read made

theorem Replaces.applyStep_eq (replaces : Replaces registry value step next) :
    applyStep registry value step = next := by
  rw [Chain.applyStep_eq, replaces_iff.1 replaces, Option.getD_some]

theorem Skips.applyStep_eq (skips : Skips registry value step) :
    applyStep registry value step = value := by
  rw [Chain.applyStep_eq, skips_iff.1 skips, Option.getD_none]

/-- **A step replaces the value or is skipped.** There is no third way, and in particular no step
fails. -/
theorem step_cases (registry : Registry) (value : Json) (step : Text) :
    (∃ next, Replaces registry value step next) ∨ Skips registry value step := by
  cases put : replacement? registry value step with
  | some next => exact Or.inl ⟨next, replaces_iff.2 put⟩
  | none => exact Or.inr (skips_iff.2 put)

/-- It does not do both, so that a run of a chain is determined. -/
theorem Skips.not_replaces (skips : Skips registry value step) :
    ¬Replaces registry value step next := by
  intro replaces
  have put := replaces_iff.1 replaces
  rw [skips_iff.1 skips] at put
  cases put

/-- A table looks at no formatter, and has only texts to put in the place of a value. Whether it
does is decided by how the value is displayed. -/
theorem applyStep_table (registry : Registry) (value : Json) {switch : Switch}
    (read : Switch.parse? step = some switch) :
    (∀ others, applyStep others value step = applyStep registry value step) ∧
      (applyStep registry value step = value ∨
        ∃ text, switch.find? value.display = some text ∧
          applyStep registry value step = .string text) := by
  constructor
  · intro others
    exact applyStep_congr value fun noTable => absurd (read.symm.trans noTable) nofun
  · rcases step_cases registry value step with ⟨next, replaces⟩ | skips
    · obtain ⟨yields, -⟩ := id replaces
      cases yields with
      | table same here =>
          cases read.symm.trans same
          exact Or.inr ⟨_, here, replaces.applyStep_eq⟩
      | formatter noTable => cases read.symm.trans noTable
    · exact Or.inl skips.applyStep_eq

/-! ### All steps -/

/-- The first step is taken first, on the value that the chain is given. -/
theorem apply_cons (registry : Registry) (step : Text) (steps : List Text) (value : Json) :
    apply registry (step :: steps) value =
      apply registry steps (applyStep registry value step) := rfl

/-- The last step is taken last, on what the others have made of the value. Inductions that look for
the last replacement go this way. -/
theorem apply_concat (registry : Registry) (steps : List Text) (step : Text) (value : Json) :
    apply registry (steps ++ [step]) value =
      applyStep registry (apply registry steps value) step := by
  rw [apply, List.foldl_append]
  rfl

/-- A run of a chain from a value: which of its steps are kept, the others being skipped on the
value that has been reached by then, and with what result. The kept steps are listed in their order,
so that they are a chain themselves. -/
inductive Run (registry : Registry) : Json → List Text → List Text → Json → Prop
  | done (value : Json) : Run registry value [] [] value
  | skip {value result : Json} {step : Text} {steps kept : List Text} :
      Skips registry value step → Run registry value steps kept result →
      Run registry value (step :: steps) kept result
  | replace {value next result : Json} {step : Text} {steps kept : List Text} :
      Replaces registry value step next → Run registry next steps kept result →
      Run registry value (step :: steps) (step :: kept) result

/-- A run leads to what the chain makes of the value: each of its steps does to the value what
evaluation does. -/
theorem Run.apply_eq (run : Run registry value steps kept result) :
    apply registry steps value = result := by
  induction run with
  | done => rfl
  | skip skips _ ih => rw [apply_cons, skips.applyStep_eq, ih]
  | replace replaces _ ih => rw [apply_cons, replaces.applyStep_eq, ih]

/-- **The steps that were skipped can be left out.** A step that is skipped hands on the value that
it was given, so the next kept step finds the same value in both chains. -/
theorem Run.apply_kept (run : Run registry value steps kept result) :
    apply registry kept value = result := by
  induction run with
  | done => rfl
  | skip _ _ ih => exact ih
  | replace replaces _ ih => rw [apply_cons, replaces.applyStep_eq, ih]

/-- Every chain can be run from every value. The value is general, because the steps behind a
replacement start from another one. -/
theorem exists_run (registry : Registry) (value : Json) (steps : List Text) :
    ∃ kept result, Run registry value steps kept result := by
  induction steps generalizing value with
  | nil => exact ⟨[], value, .done value⟩
  | cons step steps ih =>
      rcases step_cases registry value step with ⟨next, replaces⟩ | skips
      · obtain ⟨kept, result, run⟩ := ih next
        exact ⟨step :: kept, result, .replace replaces run⟩
      · obtain ⟨kept, result, run⟩ := ih value
        exact ⟨kept, result, .skip skips run⟩

/-- A chain has one run from a value. The results of two runs are the same by `Run.apply_eq`; here
it is the kept steps that are. -/
theorem Run.unique {kept' : List Text} {result' : Json}
    (run : Run registry value steps kept result) (other : Run registry value steps kept' result') :
    kept' = kept := by
  induction run generalizing kept' with
  | done => cases other; rfl
  | skip skips _ ih =>
      cases other with
      | skip _ later => exact ih later
      | replace replaces _ => exact absurd replaces skips.not_replaces
  | replace replaces _ ih =>
      cases other with
      | skip skips _ => exact absurd replaces skips.not_replaces
      | replace again later =>
          have same := replaces.applyStep_eq.symm.trans again.applyStep_eq
          subst same
          rw [ih later]

/-- **The last replacement.** Either no step replaces the value, or the result is what the last one
that does made of the value before it: all steps behind it are skipped on the result. What the
earlier steps did is seen only through the value that this one was given. -/
theorem apply_cases (registry : Registry) (steps : List Text) (value : Json) :
    (∀ step ∈ steps, Skips registry value step) ∧ apply registry steps value = value ∨
      ∃ front step back, steps = front ++ step :: back ∧
        Replaces registry (apply registry front value) step (apply registry steps value) ∧
        ∀ later ∈ back, Skips registry (apply registry steps value) later := by
  -- From the back: a last step that is skipped leaves the last replacement where it was.
  induction steps using List.reverseRecOn with
  | nil => exact Or.inl ⟨fun step mem => absurd mem List.not_mem_nil, rfl⟩
  | append_singleton steps last ih =>
      rw [apply_concat]
      rcases step_cases registry (apply registry steps value) last with ⟨next, replaces⟩ | skips
      · rw [replaces.applyStep_eq]
        exact Or.inr ⟨steps, last, [], rfl, replaces, fun later mem => absurd mem List.not_mem_nil⟩
      · rw [skips.applyStep_eq]
        rcases ih with ⟨allSkip, same⟩ | ⟨front, step, back, rfl, replaces, later⟩
        · rw [same] at skips ⊢
          exact Or.inl ⟨List.forall_mem_append.2 ⟨allSkip, List.forall_mem_singleton.2 skips⟩, rfl⟩
        · refine Or.inr ⟨front, step, back ++ [last], by simp, replaces, ?_⟩
          exact List.forall_mem_append.2 ⟨later, List.forall_mem_singleton.2 skips⟩

/-- A formatter under the text of a table changes nothing. It can be registered, but no chain ever
asks for it. -/
theorem apply_insert_table {switch : Switch} (read : Switch.parse? step = some switch)
    (formatter : Formatter) (steps : List Text) (value : Json) :
    apply (registry.insert step formatter) steps value = apply registry steps value := by
  refine apply_congr value fun name mem noTable => ?_
  have other : step ≠ name := fun same => by
    rw [same, noTable] at read
    cases read
  rw [Table.find?_insert, if_neg other]

/-- **A chain never erases a value.** Its result is the value itself or something: never null,
`false` or the empty text, unless that is what it was given. More exactly, the result is that of the
last step that replaces what it is given, all later ones being skipped on it; if there is none, all
steps are skipped and the value is unchanged.

There is one way to tell which steps of a chain are kept, and these make a chain with the same
result, so skipped steps can be deleted. A step in the form of a table is a table whatever is
registered, a formatter under its own text included. -/
theorem chains_never_erase (registry : Registry) (steps : List Text) (value : Json) :
    (apply registry steps value = value ∨
      apply registry steps value ≠ .null ∧ apply registry steps value ≠ .bool false ∧
        apply registry steps value ≠ .string []) ∧
    ((∀ step ∈ steps, Skips registry value step) ∧ apply registry steps value = value ∨
      ∃ front step back, steps = front ++ step :: back ∧
        Replaces registry (apply registry front value) step (apply registry steps value) ∧
        ∀ later ∈ back, Skips registry (apply registry steps value) later) ∧
    (∃ kept, (∀ others result, Run registry value steps others result ↔
        others = kept ∧ result = apply registry steps value) ∧
      apply registry kept value = apply registry steps value) ∧
    ∀ step switch, Switch.parse? step = some switch →
      (∀ others, applyStep others value step = applyStep registry value step) ∧
      (∀ formatter, apply (registry.insert step formatter) steps value =
        apply registry steps value) ∧
      (applyStep registry value step = value ∨
        ∃ text, switch.find? value.display = some text ∧
          applyStep registry value step = .string text) := by
  have last := apply_cases registry steps value
  refine ⟨?_, last, ?_, fun step switch read => ?_⟩
  · -- All that is known of the result comes from the last replacement: what it puts in is
    -- something.
    rcases last with ⟨-, same⟩ | ⟨front, step, back, -, replaces, -⟩
    · exact Or.inl same
    · have something := replaces.something
      rw [Bool.eq_false_iff, ne_eq, Json.isNothing_iff, not_or, not_or] at something
      exact Or.inr something
  · obtain ⟨kept, result, run⟩ := exists_run registry value steps
    obtain rfl := run.apply_eq
    refine ⟨kept, fun others result => ⟨fun other => ⟨run.unique other, other.apply_eq.symm⟩, ?_⟩,
      run.apply_kept⟩
    rintro ⟨rfl, rfl⟩
    exact run
  · obtain ⟨alike, texts⟩ := applyStep_table registry value read
    exact ⟨alike, fun formatter => apply_insert_table read formatter steps value, texts⟩

/-- Formatters without a result, with `false` and with a mark, and one under the text of a table. -/
def formatters : Registry :=
  Registry.ofList [("drop".toList, fun _ => .null), ("off".toList, fun _ => .bool false),
    ("mark".toList, Setting.exclaim), ("{x!:y}".toList, fun _ => .string "z".toList)]

/-- Two tables, of which the first says nothing of `x`, and the names of four formatters, of which
one is unknown. -/
def tangled : List Text :=
  ["{a:b}".toList, "drop".toList, "mark".toList, "none".toList, "{x!:y}".toList, "off".toList]

/-- A step is skipped for each of the three reasons, once in front of a replacement and once behind
the last one. What is registered under the text of the second table is not asked. -/
theorem chains_never_erase_tangled :
    Run formatters (.string "x".toList) tangled ["mark".toList, "{x!:y}".toList]
        (.string "y".toList) ∧
      apply formatters ["mark".toList, "{x!:y}".toList] (.string "x".toList) =
        .string "y".toList := by
  have run : Run formatters (.string "x".toList) tangled ["mark".toList, "{x!:y}".toList]
      (.string "y".toList) :=
    .skip (.unmatched rfl rfl) <| .skip (.nothing (.formatter rfl rfl) rfl) <|
      .replace ⟨.formatter rfl rfl, rfl⟩ <| .skip (.unknown rfl rfl) <|
        .replace ⟨.table rfl rfl, rfl⟩ <| .skip (.nothing (.formatter rfl rfl) rfl) <| .done _
  obtain ⟨-, -, ⟨kept, runs, same⟩, -⟩ :=
    chains_never_erase formatters tangled (.string "x".toList)
  obtain ⟨rfl, result⟩ := (runs _ _).1 run
  exact ⟨run, same.trans result.symm⟩

end Chain

end LocaleText
