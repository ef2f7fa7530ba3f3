import LocaleText.Proofs.Appearance

/-!
# LocaleText.Proofs.Rebinding

**Formatters play no part in loading.** Messages load alike whatever formatters their translator has
(`Messages.enter_mapRegistry`), and a locale that has been loaded can be loaded again with others
(`Catalog.Loaded.reloads`), which sorts its messages into the same table. So the formatters of a
library can be changed before an operation or after it (`Library.Sound.perform_mapRegistry`), and to
give a locale other formatters is to change them in its translator alone
(`Library.Sound.rebind_alike`), up to what translators remember.
-/

namespace LocaleText

/-! ### Other formatters -/

/-- The translator with other formatters. It keeps its cache: formatters are not needed to read a
template. -/
def Translator.mapRegistry (f : Registry → Registry) (translator : Translator) : Translator :=
  { translator with registry := f translator.registry }

/-- The library with other formatters in every locale. -/
def Library.mapRegistry (f : Text → Registry → Registry) (library : Library) : Library :=
  library.mapTranslators fun code => Translator.mapRegistry (f code)

namespace Messages

/-- Formatters play no part in loading: the same texts are read, with the same faults, and the
translator ends with the same cache. -/
theorem enter_mapRegistry (f : Registry → Registry) (translator : Translator)
    (templates : Table Text) (entries : List (Text × Text)) :
    enter (translator.mapRegistry f) templates entries =
      (enter translator templates entries).map (mapTranslator (Translator.mapRegistry f)) := by
  induction entries generalizing translator templates with
  | nil => rfl
  | cons entry entries ih =>
      obtain ⟨key, text⟩ := entry
      have prepared : (translator.mapRegistry f).prepare text =
          ((translator.prepare text).1, (translator.prepare text).2.mapRegistry f) := rfl
      rw [enter, enter, prepared]
      rcases translator.prepare text with ⟨_ | _, after⟩
      · rfl
      · exact ih after (templates.insert key text)

theorem ofStrings_mapRegistry (f : Registry → Registry) (translator : Translator)
    (strings : Entries Json) :
    ofStrings (translator.mapRegistry f) strings =
      (ofStrings translator strings).map (mapTranslator (Translator.mapRegistry f)) := by
  show (flattenFields translator.locale [] strings).bind _ = _
  rw [ofStrings]
  cases flattenFields translator.locale [] strings with
  | error fault => rfl
  | ok flat => exact enter_mapRegistry f translator ∅ flat

/-- Messages that are entered once more are as before. They are entered in the order of their paths,
and no path twice. -/
theorem entered_entries (templates : Table Text) : entered ∅ templates.entries = templates :=
  templates.empty_extend

end Messages

/-! ### Reloading -/

/-- A locale that has been loaded can be loaded again with other formatters, which changes nothing
else but what is remembered. Its templates parse, since they did when it was loaded, and its code is
known. -/
theorem Catalog.Loaded.reloads {options : ParseOptions} {catalog : Catalog}
    (loaded : catalog.Loaded options) (registry : Registry) :
    ∃ select messages, Selector.ofLocale catalog.code = .ok select ∧
      Messages.ofFlat (Translator.withSelector catalog.code select registry options)
        catalog.messages.templates.entries = .ok messages ∧
      messages.renewed =
        (catalog.messages.mapTranslator (Translator.mapRegistry fun _ => registry)).renewed := by
  obtain ⟨select, registry', entries, rules, built⟩ := loaded
  obtain ⟨parses, same⟩ := Messages.ofFlat_eq_ok_iff.1 built
  refine ⟨select, _, rules, Messages.ofFlat_eq_ok_iff.2 ⟨fun entry mem => ?_, rfl⟩, ?_⟩
  · rw [same] at mem
    rcases Messages.mem_entered mem with here | none
    · exact parses entry here
    · cases none
  · rw [Messages.entered_entries, same]
    simp [Messages.renewed, Messages.mapTranslator, Translator.renewed, Translator.mapRegistry,
      Cache.options_after]

namespace Library

variable {library library' : Library}

/-! ### Each operation, with other translators -/

section Changes

variable (f : Text → Translator → Translator) (library : Library)

/-- Two changes of all translators are one. -/
theorem mapTranslators_mapTranslators (g : Text → Translator → Translator) :
    (library.mapTranslators f).mapTranslators g =
      library.mapTranslators fun code translator => g code (f code translator) := by
  simp only [mapTranslators, List.map_map]
  congr 1
  refine List.map_congr_left fun catalog _ => ?_
  simp [Catalog.mapTranslator, Messages.mapTranslator, Function.comp_def]

@[simp] theorem push_mapTranslators (catalog : Catalog) :
    (library.push catalog).mapTranslators f =
      (library.mapTranslators f).push (catalog.mapTranslator f) := by
  simp [push, mapTranslators]

@[simp] theorem activateIndex_mapTranslators (index : Nat) :
    (library.mapTranslators f).activateIndex index =
      ((library.activateIndex index).1, (library.activateIndex index).2.mapTranslators f) := by
  by_cases inside : index < library.catalogs.length <;>
    simp [activateIndex, mapTranslators, inside]

@[simp] theorem activate_mapTranslators (code : Text) :
    (library.mapTranslators f).activate code =
      ((library.activate code).1, (library.activate code).2.mapTranslators f) := by
  cases position : library.position? code with
  | none => simp [activate, position]
  | some index =>
      simp only [activate, position, position?_mapTranslators]
      rfl

@[simp] theorem setDefault_mapTranslators (code : Text) :
    (library.setDefault code).mapTranslators f = (library.mapTranslators f).setDefault code := by
  simp [setDefault]
  rfl

end Changes

theorem translatorFor_mapRegistry (library : Library) (code : Text) (registry : Registry)
    (f : Registry → Registry) :
    library.translatorFor code (f registry) =
      (library.translatorFor code registry).map (Translator.mapRegistry f) := by
  unfold translatorFor Translator.ofLocale
  cases Selector.ofLocale code <;> rfl

/-- A locale is added with other formatters, or refused for the same fault. -/
theorem catalogFor_mapRegistry (library : Library) (code : Text) (displayName : Option Text)
    (strings : Entries Json) (registry : Registry) (f : Text → Registry → Registry) :
    library.catalogFor code displayName strings (f code registry) =
      (library.catalogFor code displayName strings registry).map
        (Catalog.mapTranslator fun code => Translator.mapRegistry (f code)) := by
  unfold catalogFor
  rw [translatorFor_mapRegistry library code registry (f code)]
  split
  · rfl
  · cases library.translatorFor code registry with
    | error fault => rfl
    | ok translator =>
        simp only [Except.map, Messages.ofStrings_mapRegistry]
        cases Messages.ofStrings translator strings <;> rfl

@[simp] theorem catalogFor_mapTranslators (f : Text → Translator → Translator) (library : Library)
    (code : Text) (displayName : Option Text) (strings : Entries Json) (registry : Registry) :
    (library.mapTranslators f).catalogFor code displayName strings registry =
      library.catalogFor code displayName strings registry := by
  simp only [catalogFor, position?_mapTranslators]
  rfl

/-! ### Libraries that differ in what is remembered -/

section Alike

variable (alike : library.Alike library')
include alike

theorem Alike.codes_eq : library.codes = library'.codes := by
  simpa [renewed] using congrArg codes alike

theorem Alike.registry_eq : library.registry = library'.registry :=
  (congrArg Library.registry alike :)

theorem Alike.mapRegistry (f : Text → Registry → Registry) :
    (library.mapRegistry f).Alike (library'.mapRegistry f) := by
  have same := congrArg (Library.mapRegistry f) alike
  simp only [Alike, Library.renewed, Library.mapRegistry, mapTranslators_mapTranslators] at same ⊢
  exact same

theorem Alike.push (catalog : Catalog) : (library.push catalog).Alike (library'.push catalog) := by
  simp only [Alike, Library.renewed, push_mapTranslators] at alike ⊢
  rw [alike]

theorem Alike.setDefault (code : Text) :
    (library.setDefault code).Alike (library'.setDefault code) := by
  simp only [Alike, Library.renewed, setDefault_mapTranslators] at alike ⊢
  rw [alike]

theorem Alike.activateIndex (index : Nat) :
    (library.activateIndex index).1 = (library'.activateIndex index).1 ∧
      (library.activateIndex index).2.Alike (library'.activateIndex index).2 := by
  have same := congrArg (Library.activateIndex · index) alike
  simp only [Library.renewed, activateIndex_mapTranslators, Prod.mk.injEq] at same
  exact same

theorem Alike.activate (code : Text) :
    (library.activate code).1 = (library'.activate code).1 ∧
      (library.activate code).2.Alike (library'.activate code).2 := by
  have same := congrArg (Library.activate · code) alike
  simp only [Library.renewed, activate_mapTranslators, Prod.mk.injEq] at same
  exact same

/-- Libraries that look alike add the same, or refuse it alike: what is remembered in one locale
does not matter to another. -/
theorem Alike.catalogFor_eq (code : Text) (displayName : Option Text) (strings : Entries Json)
    (registry : Registry) :
    library.catalogFor code displayName strings registry =
      library'.catalogFor code displayName strings registry := by
  simpa [renewed] using congrArg (Library.catalogFor · code displayName strings registry) alike

end Alike

/-! ### Rebinding -/

/-- The formatters, with others for one locale. -/
def instead (code : Text) (registry : Registry) : Text → Registry → Registry :=
  fun other own => if other = code then registry else own

@[simp] theorem instead_self (code : Text) (registry : Registry) :
    instead code registry code = fun _ => registry := by
  funext own
  simp [instead]

theorem instead_of_ne {code other : Text} (registry : Registry) (h : other ≠ code) :
    instead code registry other = id := by
  funext own
  simp [instead, h]

/-- A locale that is not there is given nothing. -/
theorem perform_rebind_of_not_mem {code : Text} (registry : Registry) (h : code ∉ library.codes) :
    library.perform (.rebind code registry) = (.ok false, library) := by
  simp [perform, Operation.run, rebind, position?_eq_none_iff.2 h]

/-- Only the locale at a position has its code, since no code stands twice. -/
theorem Sound.eq_of_code_eq (sound : library.Sound) {i j : Nat} {one other : Catalog}
    (here : library.catalogs[i]? = some one) (there : library.catalogs[j]? = some other)
    (same : one.code = other.code) : i = j := by
  have inside : i < library.codes.length := by
    simpa [codes] using (List.getElem?_eq_some_iff.1 here).1
  refine (List.getElem?_inj inside sound.distinct).1 ?_
  simp [codes, here, there, same]

/-- Giving a locale other formatters succeeds as soon as it is there, and loads its messages again.
-/
theorem Sound.perform_rebind (sound : library.Sound) {code : Text} (registry : Registry)
    (h : code ∈ library.codes) :
    ∃ index catalog messages, library.catalogs[index]? = some catalog ∧ catalog.code = code ∧
      messages.renewed =
        (catalog.messages.mapTranslator (Translator.mapRegistry fun _ => registry)).renewed ∧
      library.perform (.rebind code registry) =
        (.ok true, library.updateMessages index messages) := by
  cases position : library.position? code with
  | none => exact absurd h (position?_eq_none_iff.1 position)
  | some index =>
      obtain ⟨catalog, here, rfl⟩ := exists_of_position? position
      have loaded := sound.loaded catalog (List.mem_of_getElem? here)
      obtain ⟨select, messages, rules, built, same⟩ := loaded.reloads registry
      have made : library.translatorFor catalog.code registry =
          .ok (Translator.withSelector catalog.code select registry library.options) := by
        rw [translatorFor, Translator.ofLocale, rules]
        rfl
      refine ⟨index, catalog, messages, here, rfl, same, ?_⟩
      simp [Library.perform, Operation.run, rebind, position, made, here, built]

/-- To load the messages of a locale again is to give it other formatters. At its own position the
messages are compared, and every other position has another code. -/
theorem Sound.updateMessages_alike (sound : library.Sound) {index : Nat} {catalog : Catalog}
    {messages : Messages} {registry : Registry} (here : library.catalogs[index]? = some catalog)
    (same : messages.renewed =
      (catalog.messages.mapTranslator (Translator.mapRegistry fun _ => registry)).renewed) :
    (library.updateMessages index messages).Alike
      (library.mapRegistry (instead catalog.code registry)) := by
  rw [updateMessages_eq here]
  simp only [Alike, renewed, mapRegistry, mapTranslators, List.map_map]
  congr 1
  refine List.ext_getElem? fun i => ?_
  rw [List.getElem?_map, List.getElem?_map, List.getElem?_set]
  by_cases there : index = i
  · subst there
    have inside := (List.getElem?_eq_some_iff.1 here).1
    rw [here]
    simpa [inside, Catalog.mapTranslator, Messages.renewed] using same
  · cases other : library.catalogs[i]? with
    | none => simp [there]
    | some one =>
        have apart : one.code ≠ catalog.code := fun same =>
          there (sound.eq_of_code_eq here other same.symm)
        simp [there, Catalog.mapTranslator, Messages.mapTranslator, instead_of_ne registry apart,
          Function.comp_def, Translator.mapRegistry]

/-- **Giving a locale other formatters** is to change them in its translator alone, what is
remembered aside. -/
theorem Sound.rebind_alike (sound : library.Sound) {code : Text} (registry : Registry)
    (h : code ∈ library.codes) :
    (library.perform (.rebind code registry)).1 = .ok true ∧
      (library.perform (.rebind code registry)).2.Alike
        (library.mapRegistry (instead code registry)) := by
  obtain ⟨index, catalog, messages, here, rfl, same, done⟩ := sound.perform_rebind registry h
  rw [done]
  exact ⟨rfl, sound.updateMessages_alike here same⟩

/-! ### Operations with other formatters -/

/-- The operation with the formatters written out that a locale gets where none are given. What
these are depends on the library, so that only such operations can be compared between libraries. -/
def Operation.explicit (registry : Registry) : Operation → Operation
  | .add code displayName strings => .addWith code displayName strings registry
  | operation => operation

/-- The operation with other formatters. -/
def Operation.mapRegistry (f : Text → Registry → Registry) : Operation → Operation
  | .addWith code displayName strings registry =>
    .addWith code displayName strings (f code registry)
  | .rebind code registry => .rebind code (f code registry)
  | operation => operation

theorem perform_explicit (library : Library) (operation : Operation) :
    library.perform (operation.explicit library.registry) = library.perform operation := by
  cases operation <;> rfl

theorem perform_addWith (library : Library) (code : Text) (displayName : Option Text)
    (strings : Entries Json) (registry : Registry) :
    library.perform (.addWith code displayName strings registry) =
      match library.catalogFor code displayName strings registry with
      | .error fault => (.error fault, library)
      | .ok catalog => (.ok true, library.push catalog) := by
  simp only [perform, Operation.run, LibraryM.apply_bind, apply_insertWith]
  cases library.catalogFor code displayName strings registry <;> rfl

theorem Sound.perform_eq_of_isReading (sound : library.Sound) {operation : Operation}
    (reads : operation.isReading = true) : library.perform operation = (.ok true, library) := by
  refine Prod.ext ?_ (sound.perform_of_isReading reads)
  cases operation with
  | text key arguments | read code reading => rfl
  | _ => cases reads

/-- The formatters of one locale can be replaced before those of all are changed, or afterwards by
what they are changed to. -/
theorem instead_mapRegistry (library : Library) (code : Text) (registry : Registry)
    (f : Text → Registry → Registry) :
    (library.mapRegistry (instead code registry)).mapRegistry f =
      (library.mapRegistry f).mapRegistry (instead code (f code registry)) := by
  simp only [Library.mapRegistry, mapTranslators_mapTranslators]
  congr 1
  funext other translator
  by_cases same : other = code
  · subst same
    simp [Translator.mapRegistry]
  · simp [Translator.mapRegistry, instead_of_ne _ same]

/-- **An operation with other formatters** does to a library that has them what the operation does
to the library: both answer alike, and the two libraries then differ in their formatters as before.
What is remembered may differ in the two from the beginning. -/
theorem Sound.perform_mapRegistry (sound : library.Sound) (sound' : library'.Sound)
    {f : Text → Registry → Registry} (alike : (library.mapRegistry f).Alike library')
    (operation : Operation) :
    (library.perform operation).1 =
        (library'.perform ((operation.explicit library.registry).mapRegistry f)).1 ∧
      ((library.perform operation).2.mapRegistry f).Alike
        (library'.perform ((operation.explicit library.registry).mapRegistry f)).2 := by
  have adds (code : Text) (displayName : Option Text) (strings : Entries Json)
      (registry : Registry) :
      (library.perform (.addWith code displayName strings registry)).1 =
          (library'.perform (.addWith code displayName strings (f code registry))).1 ∧
        ((library.perform (.addWith code displayName strings registry)).2.mapRegistry f).Alike
          (library'.perform (.addWith code displayName strings (f code registry))).2 := by
    have made := library.catalogFor_mapRegistry code displayName strings registry f
    rw [perform_addWith, perform_addWith, ← alike.catalogFor_eq, Library.mapRegistry,
      catalogFor_mapTranslators, made]
    cases library.catalogFor code displayName strings registry with
    | error fault => exact ⟨rfl, alike⟩
    | ok catalog =>
        have pushed := alike.push
          (catalog.mapTranslator fun code => Translator.mapRegistry (f code))
        rw [Library.mapRegistry, ← push_mapTranslators] at pushed
        exact ⟨rfl, pushed⟩
  have reads (reading : Operation) (h : reading.isReading = true) :
      (library.perform reading).1 = (library'.perform reading).1 ∧
        ((library.perform reading).2.mapRegistry f).Alike (library'.perform reading).2 := by
    rw [sound.perform_eq_of_isReading h, sound'.perform_eq_of_isReading h]
    exact ⟨rfl, alike⟩
  -- Adding has been seen to, with formatters and hence without; what remains is one case for each
  -- kind of operation.
  rw [← perform_explicit library operation]
  cases operation with
  | add code displayName strings => exact adds code displayName strings library.registry
  | addWith code displayName strings registry => exact adds code displayName strings registry
  | rebind code registry =>
      have codes : library.codes = library'.codes := by
        simpa [Library.mapRegistry] using alike.codes_eq
      by_cases loaded : code ∈ library.codes
      · obtain ⟨done, same⟩ := sound.rebind_alike registry loaded
        obtain ⟨done', same'⟩ := sound'.rebind_alike (f code registry) (codes ▸ loaded)
        have kept := alike.mapRegistry (instead code (f code registry))
        rw [← instead_mapRegistry] at kept
        exact ⟨done.trans done'.symm, (same.mapRegistry f).trans (kept.trans same'.symm)⟩
      · have absent : code ∉ library'.codes := codes ▸ loaded
        simp only [Operation.explicit, Operation.mapRegistry, perform_rebind_of_not_mem _ loaded,
          perform_rebind_of_not_mem _ absent, true_and]
        exact alike
  | activateIndex index =>
      obtain ⟨answer, after⟩ := alike.activateIndex index
      simp only [Library.mapRegistry, activateIndex_mapTranslators] at answer after
      exact ⟨congrArg Except.ok answer, after⟩
  | activate code =>
      obtain ⟨answer, after⟩ := alike.activate code
      simp only [Library.mapRegistry, activate_mapTranslators] at answer after
      exact ⟨congrArg Except.ok answer, after⟩
  | text key arguments => exact reads (.text key arguments) rfl
  | read code reading => exact reads (.read code reading) rfl

end Library
end LocaleText
