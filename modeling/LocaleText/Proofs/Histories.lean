import LocaleText.Proofs.Rebinding

/-!
# LocaleText.Proofs.Histories

**To give a locale other formatters is to have added it with them.** A library is what its history
has made of it (`Library.reached`), and every library has one (`Library.Reachable.exists_history`).
Two histories that differ in the formatters of one locale (`Library.Registered`) lead to libraries
that differ in these formatters, step by step (`Library.Registered.alike`); where the locale is
given them in the end, the libraries are alike, and then nothing tells them apart
(`Library.Alike.indistinguishable`).
-/

namespace LocaleText
namespace Library

variable {library library' : Library} {code : Text} {registry : Registry}

/-! ### The same in every locale -/

/-- A library whose locales keep their formatters is unchanged. So what holds of a library and one
with other formatters holds of one library as well. -/
theorem mapRegistry_own (library : Library) : library.mapRegistry (fun _ own => own) = library := by
  have same : (Catalog.mapTranslator fun _ => Translator.mapRegistry fun own => own) = id := by
    have own : (Translator.mapRegistry fun own => own) = id := rfl
    funext catalog
    simp [Catalog.mapTranslator, Messages.mapTranslator, own]
  rw [Library.mapRegistry, mapTranslators, same, List.map_id]

/-- An operation that gives the formatters it gave is unchanged. -/
theorem Operation.mapRegistry_own (operation : Operation) :
    operation.mapRegistry (fun _ own => own) = operation := by
  cases operation <;> rfl

/-- **Libraries that look alike** answer alike, and look alike afterwards. Caches may differ, in
what they hold as in what they have counted, because both are sound: what is cached is what reading
gives. -/
theorem Alike.perform (alike : library.Alike library') (sound : library.Sound)
    (sound' : library'.Sound) (operation : Operation) :
    (library.perform operation).1 = (library'.perform operation).1 ∧
      (library.perform operation).2.Alike (library'.perform operation).2 := by
  have own : (library.mapRegistry fun _ own => own).Alike library' := by rwa [mapRegistry_own]
  have same := sound.perform_mapRegistry sound' own operation
  rwa [mapRegistry_own, Operation.mapRegistry_own, alike.registry_eq, perform_explicit] at same

/-- So they cannot be told apart by any number of operations. The induction is on the operations,
with both libraries general, because each operation leads to two others. -/
theorem Alike.indistinguishable (alike : library.Alike library') (sound : library.Sound)
    (sound' : library'.Sound) : library.Indistinguishable library' := by
  constructor
  · intro operations
    induction operations generalizing library library' with
    | nil => rfl
    | cons operation rest ih =>
        obtain ⟨answer, after⟩ := alike.perform sound sound' operation
        rw [answers, answers, answer, ih after (sound.perform operation) (sound'.perform operation)]
  · intro operations
    induction operations generalizing library library' with
    | nil => exact alike.view_eq sound sound'
    | cons operation rest ih =>
        exact ih (alike.perform sound sound' operation).2 (sound.perform operation)
          (sound'.perform operation)

/-! ### Histories -/

/-- What happens to a library: an operation, or the choice of its default locale, which is made
once, when all directories have been loaded. -/
inductive Step where
  | perform (operation : Operation)
  | setDefault (code : Text)

/-- The library after a step. -/
def step (library : Library) : Step → Library
  | .perform operation => (library.perform operation).2
  | .setDefault code => library.setDefault code

/-- The library that some steps lead to. -/
def reached (registry : Registry) (options : ParseOptions) (steps : List Step) : Library :=
  steps.foldl step (new registry options)

/-- No history leads to a library that is not sound. -/
theorem Sound.steps (sound : library.Sound) (steps : List Step) :
    (steps.foldl step library).Sound := by
  induction steps generalizing library with
  | nil => exact sound
  | cons step rest ih =>
      cases step with
      | perform operation => exact ih (sound.perform operation)
      | setDefault code => exact ih (sound.setDefault code)

/-- To add the locale of a pack is to perform the operation that adds it. Loading a directory does
the one, users of a library the other. -/
theorem eq_perform_of_add {displayName : Option Text} {strings : Entries Json}
    (h : library.add code displayName strings = .ok library') :
    library' = (library.perform (.add code displayName strings)).2 := by
  rw [← perform_explicit, Operation.explicit, perform_addWith]
  rw [add, LibraryM.outcome, apply_insert, apply_insertWith] at h
  cases made : library.catalogFor code displayName strings library.registry with
  | error fault => simp [made, Except.map] at h
  | ok catalog =>
      simp only [made] at h
      cases h
      rfl

/-- **Every library has a history.** This is trivial for one that has been built by operations; one
that is loaded from directories has the packs that were read as its history. -/
theorem Reachable.exists_history (reachable : library.Reachable) :
    ∃ registry options steps, library = reached registry options steps := by
  have extend {registry : Registry} {options : ParseOptions} {library : Library} (last : Step)
      (h : ∃ steps, library = reached registry options steps) :
      ∃ steps, library.step last = reached registry options steps := by
    obtain ⟨steps, rfl⟩ := h
    exact ⟨steps ++ [last], by simp [reached]⟩
  have load {registry : Registry} {options : ParseOptions} {disk : Disk} {directories : List Text}
      {defaultLocale : Text} {library : Library}
      (h : (Library.new registry options).addDirectories disk directories defaultLocale =
        .ok library) :
      ∃ steps, library = reached registry options steps := by
    refine addDirectories_preserves
      (fun library => ∃ steps, library = reached registry options steps)
      (fun earlier added => ?_) (fun code => extend (.setDefault code)) ⟨[], rfl⟩ h
    rw [eq_perform_of_add added]
    exact extend (.perform _) earlier
  induction reachable with
  | new registry options => exact ⟨registry, options, [], rfl⟩
  | load disk directories defaultLocale registry h => exact ⟨registry, {}, load h⟩
  | ofConfig disk config base h => exact ⟨config.registry, config.parseOptions, load h⟩
  | perform _ operation ih =>
      obtain ⟨registry, options, earlier⟩ := ih
      exact ⟨registry, options, extend (.perform operation) earlier⟩

/-! ### A locale that has other formatters from the beginning -/

/-- The operation, with other formatters wherever the locale is given some: when it is added, with
formatters or without, and when it is given others. -/
def Operation.registering (code : Text) (registry : Registry) : Operation → Operation
  | .add other displayName strings =>
    if other = code then .addWith other displayName strings registry
    else .add other displayName strings
  | .addWith other displayName strings own =>
    .addWith other displayName strings (if other = code then registry else own)
  | .rebind other own => .rebind other (if other = code then registry else own)
  | operation => operation

/-- The second history is the first, but the locale has these formatters from the beginning: it is
added with them, and where the first history gives it others, the second gives it these or none. All
other steps are the same, in the same order. -/
inductive Registered (code : Text) (registry : Registry) : List Step → List Step → Prop where
  | nil : Registered code registry [] []
  | perform (operation : Operation) {steps steps' : List Step}
    (later : Registered code registry steps steps') :
    Registered code registry (.perform operation :: steps)
      (.perform (operation.registering code registry) :: steps')
  | setDefault (other : Text) {steps steps' : List Step}
    (later : Registered code registry steps steps') :
    Registered code registry (.setDefault other :: steps) (.setDefault other :: steps')
  | rebound (own : Registry) {steps steps' : List Step}
    (later : Registered code registry steps steps') :
    Registered code registry (.perform (.rebind code own) :: steps) steps'

/-- Giving a locale these formatters from the beginning is the same as replacing what the operation
gives, once it is said what it gives: an operation that names no formatters gives those of the
library. -/
theorem Operation.explicit_registering (code : Text) (own registry : Registry)
    (operation : Operation) :
    (operation.registering code registry).explicit own =
      (operation.explicit own).mapRegistry (instead code registry) := by
  cases operation with
  | add other displayName strings =>
      by_cases same : other = code <;> simp [registering, explicit, mapRegistry, instead, same]
  | _ => rfl

/-- The same for what an operation does to a library. Both libraries have to give the same
formatters where none are named. -/
theorem perform_registering (alike : library.registry = library'.registry) (operation : Operation) :
    library'.perform (operation.registering code registry) =
      library'.perform
        ((operation.explicit library.registry).mapRegistry (instead code registry)) := by
  rw [← perform_explicit library', Operation.explicit_registering, alike]

/-- Of two replacements of the formatters of a locale the second counts. -/
theorem instead_instead (library : Library) (code : Text) (first second : Registry) :
    (library.mapRegistry (instead code first)).mapRegistry (instead code second) =
      library.mapRegistry (instead code second) := by
  simp only [Library.mapRegistry, mapTranslators_mapTranslators]
  congr 1
  funext other translator
  by_cases same : other = code
  · subst same
    simp [Translator.mapRegistry]
  · simp [Translator.mapRegistry, instead_of_ne _ same]

/-- A library and the one in which a locale has had other formatters from the beginning differ in
these formatters. The induction is on the two histories. Both start out general, and it is the first
library with its formatters replaced that looks like the second one throughout. -/
theorem Registered.alike {steps steps' : List Step} (h : Registered code registry steps steps') :
    ∀ {library library' : Library}, library.Sound → library'.Sound →
      (library.mapRegistry (instead code registry)).Alike library' →
      ((steps.foldl step library).mapRegistry (instead code registry)).Alike
        (steps'.foldl step library') := by
  induction h with
  | nil => exact fun _ _ alike => alike
  | perform operation _ ih =>
      intro library library' sound sound' alike
      have same := (sound.perform_mapRegistry sound' alike operation).2
      have registered : library.registry = library'.registry := alike.registry_eq
      rw [← perform_registering registered] at same
      exact ih (sound.perform operation) (sound'.perform _) same
  | setDefault other _ ih =>
      intro library library' sound sound' alike
      have same := alike.setDefault other
      rw [Library.mapRegistry, ← setDefault_mapTranslators] at same
      exact ih (sound.setDefault other) (sound'.setDefault other) same
  | rebound own _ ih =>
      intro library library' sound sound' alike
      refine ih (sound.perform _) sound' ?_
      rw [step]
      by_cases loaded : code ∈ library.codes
      · have same := (sound.rebind_alike own loaded).2.mapRegistry (instead code registry)
        rw [instead_instead] at same
        exact same.trans alike
      · rwa [perform_rebind_of_not_mem own loaded]

/-! ### Other locales -/

/-- Another locale stays as it is, and where it is. -/
theorem Sound.getElem?_perform_rebind (sound : library.Sound) (registry : Registry) {index : Nat}
    {catalog : Catalog} (here : library.catalogs[index]? = some catalog)
    (other : catalog.code ≠ code) :
    (library.perform (.rebind code registry)).2.catalogs[index]? = some catalog := by
  by_cases loaded : code ∈ library.codes
  · obtain ⟨i, own, messages, there, rfl, -, done⟩ := sound.perform_rebind registry loaded
    have apart : i ≠ index := by
      rintro rfl
      rw [here] at there
      cases there
      exact other rfl
    rw [done]
    simp [Library.updateMessages, apart, here]
  · rwa [perform_rebind_of_not_mem registry loaded]

/-- Another locale is found as before. -/
theorem Sound.catalog?_perform_rebind (sound : library.Sound) (registry : Registry) {other : Text}
    (h : other ≠ code) :
    (library.perform (.rebind code registry)).2.catalog? other = library.catalog? other := by
  have after := sound.perform (.rebind code registry)
  cases found : library.catalog? other with
  | none =>
      rw [catalog?_eq_none_iff] at found ⊢
      by_cases loaded : code ∈ library.codes
      · rw [(sound.rebind_alike registry loaded).2.codes_eq]
        simpa [Library.mapRegistry] using found
      · rwa [perform_rebind_of_not_mem registry loaded]
  | some catalog =>
      obtain rfl := code_of_catalog? found
      obtain ⟨index, -, here⟩ := position?_of_catalog? found
      have kept := sound.getElem?_perform_rebind registry here h
      exact after.catalog?_of_mem (List.mem_of_getElem? kept)

/-- A message of another locale is found where it was. Which locale serves a key does not depend on
formatters. -/
theorem Sound.message?_perform_rebind (sound : library.Sound) (registry : Registry) {key : Text}
    {catalog : Catalog} {message : Message}
    (served : library.message? key = some (catalog, message)) (other : catalog.code ≠ code) :
    (library.perform (.rebind code registry)).2.message? key = some (catalog, message) := by
  have serving : (library.perform (.rebind code registry)).2.serving? key =
      library.serving? key := by
    by_cases loaded : code ∈ library.codes
    · have same := congrArg (Library.serving? · key) (sound.rebind_alike registry loaded).2
      simpa [renewed, Library.mapRegistry] using same
    · rw [perform_rebind_of_not_mem registry loaded]
  obtain ⟨index, servedAt, found⟩ := Option.bind_eq_some_iff.1 served
  obtain ⟨one, here, found⟩ := Option.bind_eq_some_iff.1 found
  obtain ⟨_, mem, same⟩ := Option.map_eq_some_iff.1 found
  cases same
  have still := sound.getElem?_perform_rebind registry here other
  simp [Library.message?, serving, servedAt, still, mem]

end Library

/-- **To give a locale other formatters is to have added it with them.** Every library has a
history, and a loaded locale can always be given other formatters. The library then cannot be told
from any whose history is the same except that the locale had these formatters from the beginning:
no operations answer differently in the two, or lead to libraries that look different.

Other locales stay as they are, a message that is theirs is still found, and it shows the same. A
locale that is not loaded is given nothing, and the library is unchanged. -/
theorem rebinding_is_registering {library : Library} (reachable : library.Reachable) :
    (∃ registry options steps, library = Library.reached registry options steps) ∧
    (∀ code formatters, code ∈ library.codes →
      (library.perform (.rebind code formatters)).1 = .ok true ∧
      (∀ registry options steps steps', library = Library.reached registry options steps →
        Library.Registered code formatters steps steps' →
        (library.perform (.rebind code formatters)).2.Indistinguishable
          (Library.reached registry options steps')) ∧
      (∀ other, other ≠ code →
        (library.perform (.rebind code formatters)).2.catalog? other = library.catalog? other) ∧
      ∀ key catalog message, library.message? key = some (catalog, message) → catalog.code ≠ code →
        (library.perform (.rebind code formatters)).2.message? key = some (catalog, message) ∧
        ∀ arguments, ((library.perform (.rebind code formatters)).2.text key arguments).1 =
          (library.text key arguments).1) ∧
    ∀ code formatters, code ∉ library.codes →
      library.perform (.rebind code formatters) = (.ok false, library) := by
  have sound := reachable.sound
  refine ⟨reachable.exists_history, fun code formatters loaded => ⟨?_, ?_, ?_, ?_⟩,
    fun code formatters => Library.perform_rebind_of_not_mem formatters⟩
  · exact (sound.rebind_alike formatters loaded).1
  · rintro registry options steps steps' rfl registered
    -- Both histories start from the same empty library, which looks like itself.
    have start := Library.sound_new registry options
    have rebound := (sound.rebind_alike formatters loaded).2
    exact (rebound.trans (registered.alike start start rfl)).indistinguishable (sound.perform _)
      (start.steps steps')
  · exact fun other => sound.catalog?_perform_rebind formatters
  · intro key catalog message served other
    have kept := sound.message?_perform_rebind formatters served other
    refine ⟨kept, fun arguments => ?_⟩
    rw [Library.text_of_message? arguments served, Library.text_of_message? arguments kept]

/-- Two locales, of which the second is given formatters of its own. -/
def Library.greetings : List Library.Step :=
  [.perform (.add "en".toList none [("bye".toList, .string "Bye {name|uppercase}".toList)]),
   .perform (.add "de".toList none [("greet".toList, .string "Hallo {name|uppercase}".toList)]),
   .perform (.rebind "de".toList ∅),
   .perform (.activate "de".toList)]

/-- The same, but the second locale is added with the standard formatters. -/
def Library.standardGreetings : List Library.Step :=
  [.perform (.add "en".toList none [("bye".toList, .string "Bye {name|uppercase}".toList)]),
   .perform (.addWith "de".toList none
    [("greet".toList, .string "Hallo {name|uppercase}".toList)] Formatter.standard),
   .perform (.activate "de".toList)]

theorem rebinding_is_registering_greetings :
    (Library.reached ∅ {} Library.greetings).Reachable ∧
    (∃ next, (Library.reached ∅ {} Library.greetings).perform
        (.rebind "de".toList Formatter.standard) = (.ok true, next) ∧
      next.Indistinguishable (Library.reached ∅ {} Library.standardGreetings) ∧
      next.catalog? "en".toList =
        (Library.reached ∅ {} Library.greetings).catalog? "en".toList ∧
      (next.text "bye".toList [.string "Ana".toList]).1 =
        ((Library.reached ∅ {} Library.greetings).text "bye".toList [.string "Ana".toList]).1) ∧
    (Library.reached ∅ {} Library.greetings).perform (.rebind "ja".toList Formatter.standard) =
      (.ok false, Library.reached ∅ {} Library.greetings) := by
  have reachable : (Library.reached ∅ {} Library.greetings).Reachable :=
    ((((Library.Reachable.new ∅ {}).perform _).perform _).perform _).perform _
  have registered : Library.Registered "de".toList Formatter.standard Library.greetings
      Library.standardGreetings :=
    .perform _ (.perform _ (.rebound _ (.perform _ .nil)))
  obtain ⟨catalog, message, code, served⟩ : ∃ catalog message, catalog.code ≠ "de".toList ∧
      (Library.reached ∅ {} Library.greetings).message? "bye".toList = some (catalog, message) :=
    ⟨_, _, by decide, rfl⟩
  obtain ⟨-, loaded, absent⟩ := rebinding_is_registering reachable
  obtain ⟨done, alike, others, kept⟩ := loaded "de".toList Formatter.standard (by decide)
  exact ⟨reachable, ⟨_, Prod.ext done rfl, alike _ _ _ _ rfl registered, others _ (by decide),
    (kept _ catalog message served code).2 _⟩, absent _ _ (by decide)⟩

end LocaleText
