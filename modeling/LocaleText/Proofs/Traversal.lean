import Mathlib.Data.List.Basic

/-!
# LocaleText.Proofs.Traversal

Results that can fail, and lists that are read item by item: a list fails at its first item that
fails (`mapM_eq_error_iff`) and otherwise gives the results of its items (`mapM_eq_ok`,
`exists_of_mem_mapM`), one for each (`length_of_mapM`) and in their order (`map_of_mapM`), those of
a stretch of it standing together (`mapM_append_cons`). What every step of a fold preserves holds of
its result (`foldlM_preserves`), and folds whose steps give the same give the same
(`toOption_foldlM_congr`), the faults apart.
-/

namespace LocaleText

variable {α β γ ε : Type}

/-- Two changes of a result are one. -/
theorem except_map_map (second : β → γ) (first : α → β) (result : Except ε α) :
    (result.map first).map second = result.map (second ∘ first) := by
  cases result <;> rfl

/-- A fault is the same whatever the result would have been. -/
theorem error_eq_error_iff {first second : ε} :
    (.error first : Except ε α) = .error second ↔ (.error first : Except ε β) = .error second := by
  simp

/-- A result is no fault, whatever it is. -/
theorem ok_eq_error_iff {value : α} {value' : β} {fault : ε} :
    (.ok value : Except ε α) = .error fault ↔ (.ok value' : Except ε β) = .error fault := by
  simp

theorem isOk_iff {result : Except ε α} :
    result.isOk = true ↔ ∃ value, result = .ok value := by
  cases result <;> simp [Except.isOk, Except.toBool]

/-- What is made of a result does not matter to a fault. -/
theorem map_eq_error_iff {f : α → β} {result : Except ε α} {fault : ε} :
    result.map f = .error fault ↔ result = .error fault := by
  cases result <;> simp [Except.map]

/-- Without its fault, a result is changed like an option. -/
theorem toOption_map (f : α → β) (result : Except ε α) :
    (result.map f).toOption = result.toOption.map f := by
  cases result <;> rfl

/-- Without their faults, results follow each other like options. -/
theorem toOption_bind (next : α → Except ε β) (result : Except ε α) :
    (result.bind next).toOption = result.toOption.bind fun value => (next value).toOption := by
  cases result <;> rfl

theorem map_isOk_iff {f : α → β} {result : Except ε α} :
    (∃ value, result.map f = .ok value) ↔ ∃ value, result = .ok value := by
  cases result <;> simp [Except.map]

/-- Reading a list stops at the first item that fails. The items in front of it have been read;
those behind have not, and may fail or not. -/
theorem mapM_eq_error_iff {f : α → Except ε β} {items : List α} {fault : ε} :
    items.mapM f = .error fault ↔
      ∃ before item after, items = before ++ item :: after ∧
        (∀ earlier ∈ before, ∃ value, f earlier = .ok value) ∧ f item = .error fault := by
  induction items with
  | nil =>
      constructor
      · nofun
      · intro h
        obtain ⟨before, item, after, same, -, -⟩ := h
        cases before <;> cases same
  | cons head tail ih =>
      rw [List.mapM_cons]
      cases first : f head with
      | error other =>
          constructor
          · intro h
            cases h
            exact ⟨[], head, tail, rfl, fun _ mem => absurd mem List.not_mem_nil, first⟩
          · intro h
            obtain ⟨before, item, after, same, succeeds, fails⟩ := h
            cases before with
            | nil =>
                injection same with same _
                rw [← same, first] at fails
                cases fails
                rfl
            | cons earlier before =>
                injection same with same _
                obtain ⟨value, h⟩ := succeeds earlier List.mem_cons_self
                rw [← same, first] at h
                cases h
      -- The head does not fail, so the list fails where its tail does.
      | ok value =>
          have rest : (do let others ← tail.mapM f; return value :: others) = .error fault ↔
              tail.mapM f = .error fault := by
            cases tail.mapM f with
            | error other => exact ⟨fun h => h, fun h => h⟩
            | ok others => exact ⟨nofun, nofun⟩
          refine Iff.trans rest (ih.trans ?_)
          constructor
          · intro h
            obtain ⟨before, item, after, rfl, succeeds, fails⟩ := h
            refine ⟨head :: before, item, after, rfl, fun earlier mem => ?_, fails⟩
            rcases List.mem_cons.1 mem with rfl | mem
            · exact ⟨value, first⟩
            · exact succeeds earlier mem
          · intro h
            obtain ⟨before, item, after, same, succeeds, fails⟩ := h
            cases before with
            | nil =>
                injection same with same _
                rw [← same, first] at fails
                cases fails
            | cons earlier before =>
                injection same with _ same
                exact ⟨before, item, after, same,
                  fun other mem => succeeds other (List.mem_cons_of_mem _ mem), fails⟩

/-- A list none of whose items fails gives their results. -/
theorem mapM_eq_ok {f : α → Except ε β} {result : α → β} {items : List α}
    (h : ∀ item ∈ items, f item = .ok (result item)) :
    items.mapM f = .ok (items.map result) := by
  induction items with
  | nil => rfl
  | cons head tail ih =>
      have rest := ih fun item mem => h item (List.mem_cons_of_mem head mem)
      rw [List.mapM_cons, h head List.mem_cons_self, rest]
      rfl

/-- A list gives results exactly when each of its items does. -/
theorem mapM_isOk_iff {f : α → Except ε β} {items : List α} :
    (∃ results, items.mapM f = .ok results) ↔ ∀ item ∈ items, ∃ result, f item = .ok result := by
  induction items with
  | nil => exact ⟨nofun, fun _ => ⟨[], rfl⟩⟩
  | cons head tail ih =>
      rw [List.mapM_cons, List.forall_mem_cons, ← ih]
      cases f head with
      | error fault => exact ⟨nofun, fun h => nomatch h.1⟩
      | ok value =>
          cases tail.mapM f with
          | error fault => exact ⟨nofun, fun h => nomatch h.2⟩
          | ok values =>
              exact ⟨fun _ => ⟨⟨value, rfl⟩, values, rfl⟩, fun _ => ⟨value :: values, rfl⟩⟩

/-- What a list gives is given by its items. -/
theorem exists_of_mem_mapM {f : α → Except ε β} {items : List α} {results : List β}
    (h : items.mapM f = .ok results) {result : β} (mem : result ∈ results) :
    ∃ item ∈ items, f item = .ok result := by
  induction items generalizing results with
  | nil =>
      cases h
      cases mem
  | cons head tail ih =>
      rw [List.mapM_cons] at h
      cases first : f head with
      | error fault => rw [first] at h; cases h
      | ok value =>
          cases rest : tail.mapM f with
          | error fault => rw [first, rest] at h; cases h
          | ok others =>
              rw [first, rest] at h
              cases h
              rcases List.mem_cons.1 mem with rfl | mem
              · exact ⟨head, List.mem_cons_self, first⟩
              · obtain ⟨item, here, given⟩ := ih rest mem
                exact ⟨item, List.mem_cons_of_mem head here, given⟩

/-- A list is read up to one of its items, then that item, then the rest. A fault of the first of
these hides those of the others. -/
theorem mapM_append_cons (f : α → Except ε β) (before : List α) (item : α) (after : List α) :
    (before ++ item :: after).mapM f =
      (before.mapM f).bind fun left => (f item).bind fun result => (after.mapM f).map fun right =>
        left ++ result :: right := by
  rw [List.mapM_append, List.mapM_cons]
  cases before.mapM f with
  | error fault => rfl
  | ok left =>
      cases f item with
      | error fault => rfl
      | ok result => cases after.mapM f <;> rfl

/-- The results of a list with an item in it are those before, that of the item, and those after. -/
theorem exists_of_mapM_append_cons {f : α → Except ε β} {before after : List α} {item : α}
    {results : List β} (h : (before ++ item :: after).mapM f = .ok results) :
    ∃ left result right, results = left ++ result :: right ∧ before.mapM f = .ok left ∧
      f item = .ok result ∧ after.mapM f = .ok right := by
  rw [mapM_append_cons] at h
  cases front : before.mapM f with
  | error fault => rw [front] at h; cases h
  | ok left =>
      cases here : f item with
      | error fault => rw [front, here] at h; cases h
      | ok result =>
          cases back : after.mapM f with
          | error fault => rw [front, here, back] at h; cases h
          | ok right =>
              rw [front, here, back] at h
              cases h
              exact ⟨left, result, right, rfl, rfl, rfl, rfl⟩

/-- What an item gives is among what its list gives. -/
theorem exists_mem_of_mapM {f : α → Except ε β} {items : List α} {results : List β}
    (h : items.mapM f = .ok results) {item : α} (mem : item ∈ items) :
    ∃ result ∈ results, f item = .ok result := by
  obtain ⟨before, after, rfl⟩ := List.append_of_mem mem
  obtain ⟨left, result, right, rfl, -, given, -⟩ := exists_of_mapM_append_cons h
  exact ⟨result, List.mem_append_right left List.mem_cons_self, given⟩

/-- What is told of items by their results alone is told of a list by its results. So a list and its
results agree in whatever reading preserves, such as which of them are literals. -/
theorem map_of_mapM {f : α → Except ε β} {told : β → γ} {tells : α → γ}
    (alike : ∀ {item result}, f item = .ok result → told result = tells item) {items : List α}
    {results : List β} (h : items.mapM f = .ok results) : results.map told = items.map tells := by
  induction items generalizing results with
  | nil =>
      cases h
      rfl
  | cons head tail ih =>
      rw [← List.nil_append (head :: tail)] at h
      obtain ⟨left, result, right, rfl, front, given, back⟩ := exists_of_mapM_append_cons h
      have nothing : left = [] := by
        cases front
        rfl
      rw [nothing, List.nil_append, List.map_cons, List.map_cons, alike given, ih back]

/-- A list gives one result for each item. -/
theorem length_of_mapM {f : α → Except ε β} {items : List α} {results : List β}
    (h : items.mapM f = .ok results) : results.length = items.length := by
  have same : results.map (fun _ => ()) = items.map fun _ => () := map_of_mapM (fun _ => rfl) h
  simpa only [List.length_map] using congrArg List.length same

/-- What every step of a fold preserves holds of its result, if it begins to hold. Nothing is said
if a step fails, since there is no result then. -/
theorem foldlM_preserves {holds : β → Prop} {step : β → α → Except ε β}
    (kept : ∀ {state item next}, holds state → step state item = .ok next → holds next)
    {items : List α} {start final : β} (begins : holds start)
    (h : items.foldlM step start = .ok final) : holds final := by
  induction items generalizing start with
  | nil =>
      cases h
      exact begins
  | cons item items ih =>
      rw [List.foldlM_cons] at h
      cases stepped : step start item with
      | error fault => rw [stepped] at h; cases h
      | ok next =>
          rw [stepped] at h
          exact ih (kept begins stepped) h

/-- Folds whose steps agree on the items of a list agree on the list, whatever they do with other
items. -/
theorem foldlM_congr {first second : β → α → Except ε β} {items : List α}
    (alike : ∀ state, ∀ item ∈ items, first state item = second state item) (start : β) :
    items.foldlM first start = items.foldlM second start := by
  induction items generalizing start with
  | nil => rfl
  | cons item items ih =>
      rw [List.foldlM_cons, List.foldlM_cons, alike start item List.mem_cons_self]
      exact bind_congr fun next =>
        ih (fun state other mem => alike state other (List.mem_cons_of_mem item mem)) next

/-- Folds whose steps give the same, if anything, give the same, if anything. They may fail with
different faults, but at the same item. -/
theorem toOption_foldlM_congr {first second : β → α → Except ε β} {items : List α}
    (alike : ∀ state, ∀ item ∈ items, (first state item).toOption = (second state item).toOption)
    (start : β) : (items.foldlM first start).toOption = (items.foldlM second start).toOption := by
  induction items generalizing start with
  | nil => rfl
  | cons item items ih =>
      have here := alike start item List.mem_cons_self
      have later := ih fun state other mem => alike state other (List.mem_cons_of_mem item mem)
      have steps (step : β → α → Except ε β) : ((item :: items).foldlM step start).toOption =
          (step start item).toOption.bind fun next => (items.foldlM step next).toOption := by
        rw [List.foldlM_cons]
        exact toOption_bind _ _
      rw [steps, steps, here]
      exact congrArg _ (funext later)

end LocaleText
