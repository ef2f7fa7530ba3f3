import LocaleText.Config
import LocaleText.Proofs.Loading

/-!
# LocaleText.Proofs.Reachability

**What holds of every library.** A library is made empty, from the packs in some directories, or
from a configuration, and then undergoes operations, some of which are refused
(`Library.Reachable`). An operation has one of four effects (`Library.Effect`), and one that is
refused has none (`Library.Sound.perform_cases`). That no index leads astray, that codes are
distinct and that the messages of a locale are read with its own plural rules (`Library.Sound`) need
only be checked for each effect, and so need what a library keeps (`Library.Extends`) and what it
lists (`Library.Effect.codes_eq`).

Reading messages is an operation too, since translators remember what they have read. Here that is
no effect: the messages of a sound library have been loaded, and loaded messages stay as they are
(`Messages.Faultless`).
-/

namespace LocaleText

/-! ### Locales that are loaded -/

/-- The messages of the locale were loaded by a new translator of that locale, with the plural rules
of its code. Nothing is said of the formatters, which can be given later, or of where the texts came
from. -/
def Catalog.Loaded (options : ParseOptions) (catalog : Catalog) : Prop :=
  ∃ select registry entries, Selector.ofLocale catalog.code = .ok select ∧
    Messages.ofFlat (Translator.withSelector catalog.code select registry options) entries =
      .ok catalog.messages

section Loaded

variable {options : ParseOptions} {catalog : Catalog}

theorem Catalog.Loaded.locale? (loaded : catalog.Loaded options) :
    catalog.messages.locale? = some catalog.code := by
  obtain ⟨select, registry, entries, -, built⟩ := loaded
  obtain ⟨-, same⟩ := Messages.ofFlat_eq_ok_iff.1 built
  rw [same]
  rfl

/-- Messages that have been loaded are not changed by any reading, not even in what their translator
remembers. -/
theorem Catalog.Loaded.afterReading (loaded : catalog.Loaded options)
    (reading : Messages.Reading) : catalog.messages.afterReading reading = catalog.messages := by
  obtain ⟨select, registry, entries, -, built⟩ := loaded
  exact (Messages.faultless_of_ofFlat built).stays [reading]

end Loaded

namespace Library

/-! ### Positions -/

/-- The codes of the locales. -/
def codes (library : Library) : List Text :=
  library.catalogs.map Catalog.code

/-- The library with one more locale, which is the first one to become active and the fallback.
Where there is a fallback already, both stay. -/
def push (library : Library) (catalog : Catalog) : Library :=
  { library with
    catalogs := library.catalogs ++ [catalog]
    active := if library.fallback.isNone then some library.catalogs.length else library.active
    fallback := library.fallback.or (some library.catalogs.length) }

section Positions

variable {library : Library} {code : Text} {index : Nat} {catalog : Catalog}

theorem position?_eq_none_iff : library.position? code = none ↔ code ∉ library.codes := by
  simp [position?, codes]

theorem exists_of_position? (h : library.position? code = some index) :
    ∃ catalog, library.catalogs[index]? = some catalog ∧ catalog.code = code := by
  obtain ⟨inside, same, -⟩ := List.findIdx?_eq_some_iff_getElem.1 h
  exact ⟨library.catalogs[index], List.getElem?_eq_getElem inside, of_decide_eq_true same⟩

theorem lt_of_position? (h : library.position? code = some index) :
    index < library.catalogs.length := by
  obtain ⟨inside, -⟩ := List.findIdx?_eq_some_iff_getElem.1 h
  exact inside

/-- To change the messages of a locale is to put it back with others at its position. -/
theorem updateMessages_eq (here : library.catalogs[index]? = some catalog) (messages : Messages) :
    library.updateMessages index messages =
      { library with catalogs := library.catalogs.set index { catalog with messages } } := by
  rw [updateMessages, List.modify_eq_set_getElem?, here]
  rfl

/-- To put back the messages that are there changes nothing. -/
theorem updateMessages_self (here : library.catalogs[index]? = some catalog) :
    library.updateMessages index catalog.messages = library := by
  obtain ⟨inside, rfl⟩ := List.getElem?_eq_some_iff.1 here
  rw [updateMessages_eq here]
  exact congrArg (fun catalogs => { library with catalogs }) (List.set_getElem_self inside)

/-- Changing messages changes no code. -/
theorem codes_updateMessages (here : library.catalogs[index]? = some catalog)
    (messages : Messages) : (library.updateMessages index messages).codes = library.codes := by
  obtain ⟨inside, rfl⟩ := List.getElem?_eq_some_iff.1 here
  have inside' : index < (library.catalogs.map Catalog.code).length := by simpa using inside
  have same : library.catalogs[index].code = (library.catalogs.map Catalog.code)[index] := by simp
  rw [updateMessages_eq here, codes, List.map_set, codes]
  show (library.catalogs.map Catalog.code).set index library.catalogs[index].code = _
  rw [same, List.set_getElem_self]

@[simp] theorem codes_push (library : Library) (catalog : Catalog) :
    (library.push catalog).codes = library.codes ++ [catalog.code] := by
  simp [codes, push]

end Positions

/-! ### Operations -/

/-- What can be done with a library: to add a locale, to give it other formatters, to make it
active, to render a message of the active locale or the fallback, and to read the messages of any
locale. -/
inductive Operation where
  | add (code : Text) (displayName : Option Text) (strings : Entries Json)
  | addWith (code : Text) (displayName : Option Text) (strings : Entries Json)
    (registry : Registry)
  | rebind (code : Text) (registry : Registry)
  | activateIndex (index : Nat)
  | activate (code : Text)
  | text (key : Text) (arguments : List Json)
  | read (code : Text) (reading : Messages.Reading)

namespace Operation

/-- The code of the locale that is to be added. -/
def addedCode? : Operation → Option Text
  | add code .. | addWith code .. => some code
  | _ => none

/-- Whether messages are only read. -/
def isReading : Operation → Bool
  | text .. | read .. => true
  | _ => false

end Operation

/-- The library after a reading of the messages of a locale. Where no locale has the code, nothing
happens. -/
def afterReading (library : Library) (code : Text) (reading : Messages.Reading) : Library :=
  let after := (library.position? code).bind fun index =>
    library.catalogs[index]?.map fun catalog =>
      library.updateMessages index (catalog.messages.afterReading reading)
  after.getD library

/-- Does an operation. The answer is false where it is refused without a fault, which is so for a
locale that is not there. -/
def Operation.run : Operation → LibraryM Bool
  | add code displayName strings => do
    insert code displayName strings
    return true
  | addWith code displayName strings registry => do
    insertWith code displayName strings registry
    return true
  | rebind code registry => Library.rebind code registry
  | activateIndex index => modifyGet (Library.activateIndex · index)
  | activate code => modifyGet (Library.activate · code)
  | text key arguments => do
    modify fun library => (library.text key arguments).2
    return true
  | read code reading => do
    modify (Library.afterReading · code reading)
    return true

/-- The answer to an operation, and the library after it. -/
def perform (library : Library) (operation : Operation) : Except LoadError Bool × Library :=
  operation.run.apply library

/-- The library after some operations. -/
def after (library : Library) (operations : List Operation) : Library :=
  operations.foldl (fun library operation => (library.perform operation).2) library

/-! ### Sound libraries -/

/-- A library all of whose indices lead to a locale, and whose locales are distinct and loaded. This
is what all operations preserve; with the last field it covers what translators remember, too. -/
structure Sound (library : Library) : Prop where
  /-- No code stands twice. -/
  distinct : library.codes.Nodup
  /-- A locale is active as soon as there is one. -/
  active_eq_none_iff : library.active = none ↔ library.catalogs = []
  /-- A locale is the fallback as soon as there is one. -/
  fallback_eq_none_iff : library.fallback = none ↔ library.catalogs = []
  /-- The active locale is there. -/
  active_lt : ∀ index, library.active = some index → index < library.catalogs.length
  /-- The fallback is there. -/
  fallback_lt : ∀ index, library.fallback = some index → index < library.catalogs.length
  /-- Messages have been loaded by a translator of their locale. -/
  loaded : ∀ catalog ∈ library.catalogs, catalog.Loaded library.options

/-- What an operation does that is not refused. Whatever is to hold of every library is checked for
these four effects; that operations have no others is `Sound.perform_cases`. -/
inductive Effect (library : Library) (operation : Operation) : Library → Prop where
  /-- A locale is added. -/
  | added {catalog : Catalog} (adds : operation.addedCode? = some catalog.code)
    (fresh : catalog.code ∉ library.codes) (loaded : catalog.Loaded library.options) :
    Effect library operation (library.push catalog)
  /-- The messages of a locale are loaded once more. -/
  | reloaded (other : operation.addedCode? = none) {index : Nat} {catalog : Catalog}
    {messages : Messages} (here : library.catalogs[index]? = some catalog)
    (loaded : Catalog.Loaded library.options { catalog with messages }) :
    Effect library operation (library.updateMessages index messages)
  /-- A locale is made active. -/
  | activated (other : operation.addedCode? = none) {index : Nat}
    (inside : index < library.catalogs.length) :
    Effect library operation { library with active := some index }
  /-- The library stays as it is. -/
  | unchanged (other : operation.addedCode? = none) : Effect library operation library

variable {library next : Library} {operation : Operation}

theorem sound_new (registry : Registry) (options : ParseOptions) :
    (new registry options).Sound := by
  constructor <;> simp [new, codes]

theorem Sound.active_eq_none_iff_fallback (sound : library.Sound) :
    library.active = none ↔ library.fallback = none :=
  sound.active_eq_none_iff.trans sound.fallback_eq_none_iff.symm

/-- Adding a locale that is new and loaded keeps a library sound. The index of the new locale is
that of the end of the list, so both the first one and any later one can be found there. -/
theorem Sound.push (sound : library.Sound) {catalog : Catalog}
    (fresh : catalog.code ∉ library.codes) (loaded : catalog.Loaded library.options) :
    (library.push catalog).Sound := by
  have length : (library.push catalog).catalogs.length = library.catalogs.length + 1 := by
    simp [Library.push]
  constructor
  · rw [codes_push]
    refine List.nodup_append.2
      ⟨sound.distinct, List.nodup_singleton _, fun code mem other here => ?_⟩
    rintro rfl
    exact fresh (List.mem_singleton.1 here ▸ mem)
  · -- A locale is active exactly when there is a fallback, so the two are set together or not at
    -- all.
    cases fallback : library.fallback with
    | none => simp [Library.push, fallback]
    | some index => simp [Library.push, sound.active_eq_none_iff_fallback, fallback]
  · simp [Library.push]
  · intro index active
    rw [length]
    simp only [Library.push] at active
    split at active
    · cases active
      exact Nat.lt_succ_self _
    · exact Nat.lt_succ_of_lt (sound.active_lt index active)
  · intro index fallback
    rw [length]
    rcases Option.or_eq_some_iff.1 fallback with old | ⟨-, here⟩
    · exact Nat.lt_succ_of_lt (sound.fallback_lt index old)
    · cases here
      exact Nat.lt_succ_self _
  · intro other mem
    rcases List.mem_append.1 mem with old | here
    · exact sound.loaded other old
    · cases List.mem_singleton.1 here
      exact loaded

/-- Replacing the messages of a locale keeps a library sound, if they have been loaded for that
locale. -/
theorem Sound.updateMessages (sound : library.Sound) {index : Nat} {catalog : Catalog}
    {messages : Messages} (here : library.catalogs[index]? = some catalog)
    (loaded : Catalog.Loaded library.options { catalog with messages }) :
    (library.updateMessages index messages).Sound := by
  have codes := codes_updateMessages here messages
  rw [updateMessages_eq here] at codes ⊢
  constructor
  · rw [codes]
    exact sound.distinct
  · simpa using sound.active_eq_none_iff
  · simpa using sound.fallback_eq_none_iff
  · simpa using sound.active_lt
  · simpa using sound.fallback_lt
  · intro other mem
    rcases List.mem_or_eq_of_mem_set mem with old | rfl
    · exact sound.loaded other old
    · exact loaded

theorem Sound.activate (sound : library.Sound) {index : Nat}
    (inside : index < library.catalogs.length) :
    Sound { library with active := some index } := by
  refine { sound with active_eq_none_iff := ?_, active_lt := ?_ }
  · exact ⟨nofun, fun none => by rw [none] at inside; cases inside⟩
  · rintro _ ⟨⟩
    exact inside

/-- **No effect makes a library unsound.** -/
theorem Sound.effect (sound : library.Sound) (effect : Effect library operation next) :
    next.Sound := by
  cases effect with
  | added _ fresh loaded => exact sound.push fresh loaded
  | reloaded _ here loaded => exact sound.updateMessages here loaded
  | activated _ inside => exact sound.activate inside
  | unchanged => exact sound

/-! ### Each operation -/

/-- Messages that are loaded with the translator for a code have been loaded for that code. -/
theorem loaded_of_ofFlat {code displayName : Text} {registry : Registry}
    {translator : Translator} {entries : List (Text × Text)} {messages : Messages}
    (made : library.translatorFor code registry = .ok translator)
    (built : Messages.ofFlat translator entries = .ok messages) :
    Catalog.Loaded library.options { code, displayName, messages } := by
  rw [translatorFor, Translator.ofLocale] at made
  cases rules : Selector.ofLocale code with
  | error fault => rw [rules] at made; cases made
  | ok select =>
      rw [rules] at made
      cases made
      exact ⟨select, registry, entries, rules, built⟩

theorem apply_insert (library : Library) (code : Text) (displayName : Option Text)
    (strings : Entries Json) :
    (insert code displayName strings).apply library =
      (insertWith code displayName strings library.registry).apply library := rfl

/-- The locale that is to be added, or the fault that keeps it out. The three reasons for a fault
are found in this order, and none of them changes the library. -/
def catalogFor (library : Library) (code : Text) (displayName : Option Text)
    (strings : Entries Json) (registry : Registry) : Except LoadError Catalog :=
  if (library.position? code).isSome then .error (.duplicateLocale code)
  else
    match library.translatorFor code registry with
    | .error fault => .error fault
    | .ok translator =>
      (Messages.ofStrings translator strings).map fun messages =>
        { code, displayName := displayName.getD code, messages }

/-- **Adding a locale** puts it at the end, or is refused and does nothing. The steps of adding are
taken one after the other in a state; this says what they come to. -/
theorem apply_insertWith (library : Library) (code : Text) (displayName : Option Text)
    (strings : Entries Json) (registry : Registry) :
    (insertWith code displayName strings registry).apply library =
      match library.catalogFor code displayName strings registry with
      | .error fault => (.error fault, library)
      | .ok catalog => (.ok (), library.push catalog) := by
  unfold insertWith catalogFor
  simp only [LibraryM.apply_bind, LibraryM.apply_get]
  -- A fault can only come from the three steps that change nothing yet.
  cases position : library.position? code with
  | some index => rfl
  | none =>
      cases made : library.translatorFor code registry with
      | error fault => rfl
      | ok translator =>
          cases built : Messages.ofStrings translator strings with
          | error fault => simp [built, Except.map]
          | ok messages =>
              cases fallback : library.fallback <;> simp [built, push, fallback, Except.map]

theorem addWith_eq (library : Library) (code : Text) (displayName : Option Text)
    (strings : Entries Json) (registry : Registry) :
    library.addWith code displayName strings registry =
      (library.catalogFor code displayName strings registry).map library.push := by
  rw [addWith, LibraryM.outcome, apply_insertWith]
  cases library.catalogFor code displayName strings registry <;> rfl

theorem add_eq_ok_iff {code : Text} {displayName : Option Text} {strings : Entries Json} :
    library.add code displayName strings = .ok next ↔
      ∃ catalog, library.catalogFor code displayName strings library.registry = .ok catalog ∧
        library.push catalog = next := by
  show library.addWith code displayName strings library.registry = .ok next ↔ _
  rw [addWith_eq]
  cases library.catalogFor code displayName strings library.registry <;> simp [Except.map]

/-- A locale that can be added is new, and loaded. -/
theorem catalogFor_eq_ok {code : Text} {displayName : Option Text} {strings : Entries Json}
    {registry : Registry} {catalog : Catalog}
    (h : library.catalogFor code displayName strings registry = .ok catalog) :
    catalog.code = code ∧ code ∉ library.codes ∧ catalog.Loaded library.options := by
  unfold catalogFor at h
  cases position : library.position? code with
  | some index => simp [position] at h
  | none =>
      cases made : library.translatorFor code registry with
      | error fault => simp [position, made] at h
      | ok translator =>
          cases built : Messages.ofStrings translator strings with
          | error fault => simp [position, made, built, Except.map] at h
          | ok messages =>
              simp only [position, made, built, Option.isSome_none, Except.map] at h
              cases h
              exact ⟨rfl, position?_eq_none_iff.1 position,
                loaded_of_ofFlat made (Messages.ofFlat_of_ofStrings built)⟩

/-- The two outcomes of adding a locale. -/
theorem insertWith_cases (library : Library) (code : Text) (displayName : Option Text)
    (strings : Entries Json) (registry : Registry) :
    (∃ fault, (insertWith code displayName strings registry).apply library =
      (.error fault, library)) ∨
    ∃ catalog, catalog.code = code ∧ catalog.code ∉ library.codes ∧
      catalog.Loaded library.options ∧
      (insertWith code displayName strings registry).apply library =
        (.ok (), library.push catalog) := by
  rw [apply_insertWith]
  cases made : library.catalogFor code displayName strings registry with
  | error fault => exact .inl ⟨fault, rfl⟩
  | ok catalog =>
      obtain ⟨rfl, fresh, loaded⟩ := catalogFor_eq_ok made
      exact .inr ⟨catalog, rfl, fresh, loaded, rfl⟩

/-- The outcomes of giving a locale other formatters: refused or at fault with nothing done, or with
the messages of that locale loaded again. -/
theorem rebind_cases (library : Library) (code : Text) (registry : Registry) :
    (∃ answer, answer ≠ .ok true ∧ (rebind code registry).apply library = (answer, library)) ∨
    ∃ index catalog messages, library.catalogs[index]? = some catalog ∧
      catalog.code = code ∧ Catalog.Loaded library.options { catalog with messages } ∧
      (rebind code registry).apply library =
        (.ok true, library.updateMessages index messages) := by
  unfold rebind
  simp only [LibraryM.apply_bind, LibraryM.apply_get]
  -- The messages are replaced only after all of them have been read again.
  cases position : library.position? code with
  | none => exact .inl ⟨.ok false, nofun, rfl⟩
  | some index =>
      obtain ⟨catalog, here, rfl⟩ := exists_of_position? position
      cases made : library.translatorFor catalog.code registry with
      | error fault => exact .inl ⟨.error fault, nofun, rfl⟩
      | ok translator =>
          cases built : Messages.ofFlat translator catalog.messages.templates.entries with
          | error fault => exact .inl ⟨.error fault, nofun, by simp [here, built]⟩
          | ok messages =>
              exact .inr ⟨index, catalog, messages, here, rfl, loaded_of_ofFlat made built,
                by simp [here, built]⟩

/-- Rendering changes nothing in a sound library. -/
theorem Sound.text_snd (sound : library.Sound) (key : Text) (arguments : List Json) :
    (library.text key arguments).2 = library := by
  unfold Library.text
  split
  · next index catalog message served found =>
      simp only [message?, served, Option.bind_some] at found
      obtain ⟨other, here, found⟩ := Option.bind_eq_some_iff.1 found
      obtain ⟨_, own, same⟩ := Option.map_eq_some_iff.1 found
      cases same
      -- To render the message that has been found is to call it by its path.
      have stays := (sound.loaded catalog (List.mem_of_getElem? here)).afterReading
        (.call key arguments)
      simp only [Messages.afterReading, Messages.onMessage, own] at stays
      show library.updateMessages index (catalog.messages.call message arguments).2 = library
      rw [stays, updateMessages_self here]
  · rfl

theorem Sound.afterReading (sound : library.Sound) (code : Text) (reading : Messages.Reading) :
    library.afterReading code reading = library := by
  unfold Library.afterReading
  cases position : library.position? code with
  | none => rfl
  | some index =>
      obtain ⟨catalog, here, -⟩ := exists_of_position? position
      have stays := (sound.loaded catalog (List.mem_of_getElem? here)).afterReading reading
      simp [here, stays, updateMessages_self here]

/-- **An operation** that is refused does nothing, and any other has its effect. A library has to be
sound for that: only then is reading messages no effect. -/
theorem Sound.perform_cases (sound : library.Sound) (operation : Operation) :
    (∃ next, library.perform operation = (.ok true, next) ∧ Effect library operation next) ∨
    ∃ answer, answer ≠ .ok true ∧ library.perform operation = (answer, library) := by
  unfold perform Operation.run
  cases operation with
  | add code displayName strings =>
      rcases insertWith_cases library code displayName strings library.registry with
        ⟨fault, result⟩ | ⟨catalog, rfl, fresh, loaded, result⟩
      · exact .inr ⟨.error fault, nofun, by simp [apply_insert, result]⟩
      · exact .inl ⟨library.push catalog, by simp [apply_insert, result], .added rfl fresh loaded⟩
  | addWith code displayName strings registry =>
      rcases insertWith_cases library code displayName strings registry with
        ⟨fault, result⟩ | ⟨catalog, rfl, fresh, loaded, result⟩
      · exact .inr ⟨.error fault, nofun, by simp [result]⟩
      · exact .inl ⟨library.push catalog, by simp [result], .added rfl fresh loaded⟩
  | rebind code registry =>
      rcases rebind_cases library code registry with
        ⟨answer, refused, result⟩ | ⟨index, catalog, messages, here, -, loaded, result⟩
      · exact .inr ⟨answer, refused, result⟩
      · exact .inl ⟨_, result, .reloaded rfl here loaded⟩
  | activateIndex index =>
      by_cases inside : index < library.catalogs.length
      · exact .inl ⟨_, by simp [Library.activateIndex, inside], .activated rfl inside⟩
      · exact .inr ⟨.ok false, nofun, by simp [Library.activateIndex, inside]⟩
  | activate code =>
      cases position : library.position? code with
      | none => exact .inr ⟨.ok false, nofun, by simp [Library.activate, position]⟩
      | some index =>
          exact .inl ⟨_, by simp [Library.activate, position],
            .activated rfl (lt_of_position? position)⟩
  -- Reading is not refused, and has no effect because the library is sound.
  | text key arguments =>
      exact .inl ⟨library, by simp [sound.text_snd], .unchanged rfl⟩
  | read code reading =>
      exact .inl ⟨library, by simp [sound.afterReading], .unchanged rfl⟩

/-- **No operation makes a library unsound**, refused or not. -/
theorem Sound.perform (sound : library.Sound) (operation : Operation) :
    (library.perform operation).2.Sound := by
  obtain ⟨next, done, effect⟩ | ⟨answer, -, same⟩ := sound.perform_cases operation
  · rw [done]
    exact sound.effect effect
  · rwa [same]

theorem Sound.perform_of_isReading (sound : library.Sound) (reads : operation.isReading = true) :
    (library.perform operation).2 = library := by
  cases operation with
  | text key arguments => exact sound.text_snd key arguments
  | read code reading => exact sound.afterReading code reading
  | _ => cases reads

/-- Readings, as many as there are, change nothing. -/
theorem Sound.after_of_isReading (sound : library.Sound) {operations : List Operation}
    (read : ∀ operation ∈ operations, operation.isReading = true) :
    library.after operations = library := by
  induction operations with
  | nil => rfl
  | cons operation rest ih =>
      obtain ⟨first, others⟩ := List.forall_mem_cons.1 read
      show (library.perform operation).2.after rest = library
      rw [sound.perform_of_isReading first, ih others]

/-! ### What a library keeps -/

/-- What no operation takes back. Formatters and the active locale are not among it, as both can be
changed. -/
structure Extends (earlier later : Library) : Prop where
  /-- Locales are added behind those that are there. -/
  codes : earlier.codes <+: later.codes
  /-- The fallback stays, once there is one. -/
  fallback : earlier.fallback ≠ none → later.fallback = earlier.fallback
  /-- Templates are read in the same way. -/
  options : later.options = earlier.options

theorem Extends.refl (library : Library) : library.Extends library :=
  ⟨List.prefix_rfl, fun _ => rfl, rfl⟩

theorem Extends.trans {first second third : Library} (h : first.Extends second)
    (h' : second.Extends third) : first.Extends third where
  codes := h.codes.trans h'.codes
  fallback := fun set => by
    have same := h.fallback set
    rw [h'.fallback (same ▸ set), same]
  options := h'.options.trans h.options

/-- No effect takes anything back: one adds a locale behind the others, and the rest keep the codes
and the fallback. -/
theorem Effect.extends (effect : Effect library operation next) : library.Extends next := by
  cases effect with
  | added =>
      refine ⟨by simp, fun set => ?_, rfl⟩
      obtain ⟨index, fallback⟩ := Option.ne_none_iff_exists'.1 set
      simp [Library.push, fallback]
  | reloaded _ here => exact ⟨by simp [codes_updateMessages here], fun _ => rfl, rfl⟩
  | activated => exact ⟨List.prefix_rfl, fun _ => rfl, rfl⟩
  | unchanged => exact .refl library

/-- What is added is listed at the end. -/
theorem Effect.codes_eq (effect : Effect library operation next) :
    next.codes = library.codes ++ operation.addedCode?.toList := by
  cases effect with
  | added adds => simp [adds]
  | reloaded other here => simp [other, codes_updateMessages here]
  | activated other => simp [other, codes]
  | unchanged other => simp [other]

/-- Adding a locale does not change the active one, once there is a fallback. The first locale that
is added does become active. -/
theorem Effect.active_eq (effect : Effect library operation next)
    (addition : operation.addedCode? ≠ none) (set : library.fallback ≠ none) :
    next.active = library.active := by
  cases effect with
  | added => simp [Library.push, set]
  | reloaded other => exact absurd other addition
  | activated other => exact absurd other addition
  | unchanged => rfl

theorem Sound.extends_perform (sound : library.Sound) (operation : Operation) :
    library.Extends (library.perform operation).2 := by
  obtain ⟨next, done, effect⟩ | ⟨answer, -, same⟩ := sound.perform_cases operation
  · rw [done]
    exact effect.extends
  · rw [same]
    exact .refl library

/-- What has been reached extends what it was reached from, whatever was done. -/
theorem Sound.extends_after (sound : library.Sound) (operations : List Operation) :
    library.Extends (library.after operations) := by
  induction operations generalizing library with
  | nil => exact .refl library
  | cons operation rest ih =>
      exact (sound.extends_perform operation).trans (ih (sound.perform operation))

theorem Sound.active_perform (sound : library.Sound) (addition : operation.addedCode? ≠ none)
    (set : library.active ≠ none) : (library.perform operation).2.active = library.active := by
  have fallback : library.fallback ≠ none := mt sound.active_eq_none_iff_fallback.2 set
  obtain ⟨next, done, effect⟩ | ⟨answer, -, same⟩ := sound.perform_cases operation
  · rw [done]
    exact effect.active_eq addition fallback
  · rw [same]

/-! ### Libraries made from files -/

/-- Choosing the default locale keeps a library sound: it is one that is there, or what was the
fallback. -/
theorem Sound.setDefault (sound : library.Sound) (code : Text) :
    (library.setDefault code).Sound := by
  have inside (index : Nat) (h : (library.position? code).or library.fallback = some index) :
      index < library.catalogs.length := by
    rcases Option.or_eq_some_iff.1 h with here | ⟨-, old⟩
    · exact lt_of_position? here
    · exact sound.fallback_lt index old
  have none_iff : (library.position? code).or library.fallback = none ↔ library.catalogs = [] := by
    rw [Option.or_eq_none_iff, sound.fallback_eq_none_iff, and_iff_right_iff_imp]
    intro empty
    simp [position?, empty]
  exact
    { distinct := sound.distinct
      active_eq_none_iff := none_iff
      fallback_eq_none_iff := none_iff
      active_lt := inside
      fallback_lt := inside
      loaded := sound.loaded }

theorem Sound.add (sound : library.Sound) {code : Text} {displayName : Option Text}
    {strings : Entries Json} (h : library.add code displayName strings = .ok next) :
    next.Sound := by
  obtain ⟨catalog, made, rfl⟩ := add_eq_ok_iff.1 h
  obtain ⟨rfl, fresh, loaded⟩ := catalogFor_eq_ok made
  exact sound.push fresh loaded

section Files

variable (holds : Library → Prop) {disk : Disk}
  (add : ∀ {library next code displayName strings}, holds library →
    library.add code displayName strings = .ok next → holds next)
include add

theorem addPack_preserves {path : Text} (start : holds library)
    (h : addPack disk library path = .ok next) : holds next := by
  unfold addPack at h
  cases file : disk.file path with
  | missing => simp [file] at h
  | notReadable => simp [file] at h
  | text text =>
      cases read : Pack.read? text with
      | none => simp [file, read] at h
      | some pack => exact add start (by simpa [file, read] using h)

theorem addDirectory_preserves {directory : Text} (start : holds library)
    (h : addDirectory disk library directory = .ok next) : holds next := by
  rw [addDirectory] at h
  cases found : Pack.paths directory (disk.directory directory) with
  | error fault => rw [found] at h; cases h
  | ok paths =>
      rw [found] at h
      exact foldlM_preserves (fun kept added => addPack_preserves holds add kept added) start h

/-- **What adding a locale preserves** is preserved when directories are loaded, if choosing the
default locale preserves it as well. Packs are the only things in directories that have an effect,
and each of them adds one locale. -/
theorem addDirectories_preserves (setDefault : ∀ {library} code, holds library →
      holds (library.setDefault code))
    {directories : List Text} {defaultLocale : Text} (start : holds library)
    (h : library.addDirectories disk directories defaultLocale = .ok next) : holds next := by
  unfold addDirectories at h
  cases filled : directories.foldlM (addDirectory disk) library with
  | error fault => rw [filled] at h; cases h
  | ok full =>
      rw [filled] at h
      cases h
      have kept : holds full := foldlM_preserves
        (fun kept added => addDirectory_preserves holds add kept added) start filled
      exact setDefault defaultLocale kept

end Files

theorem Sound.addDirectories (sound : library.Sound) {disk : Disk} {directories : List Text}
    {defaultLocale : Text}
    (h : library.addDirectories disk directories defaultLocale = .ok next) : next.Sound :=
  addDirectories_preserves Sound (fun kept added => kept.add added)
    (fun code kept => kept.setDefault code) sound h

/-- The libraries that there can be: made empty, from the packs in some directories or from a
configuration, and changed by any operations. Nothing is assumed of disk, configuration or
operations. -/
inductive Reachable : Library → Prop where
  | new (registry : Registry) (options : ParseOptions) : Reachable (new registry options)
  | load {library : Library} (disk : Disk) (directories : List Text) (defaultLocale : Text)
    (registry : Registry) (h : load disk directories defaultLocale registry = .ok library) :
    Reachable library
  | ofConfig {library : Library} (disk : Disk) (config : Config) (base : Text)
    (h : ofConfig disk config base = .ok library) : Reachable library
  | perform {library : Library} (reachable : Reachable library) (operation : Operation) :
    Reachable (library.perform operation).2

/-- **All of them are sound.** -/
theorem Reachable.sound (reachable : library.Reachable) : library.Sound := by
  induction reachable with
  | new registry options => exact sound_new registry options
  | load disk directories defaultLocale registry h => exact (sound_new registry {}).addDirectories h
  | ofConfig disk config base h =>
      exact (sound_new config.registry config.parseOptions).addDirectories h
  | perform _ operation sound => exact sound.perform operation

theorem Reachable.after (reachable : library.Reachable) (operations : List Operation) :
    (library.after operations).Reachable := by
  induction operations generalizing library with
  | nil => exact reachable
  | cons operation rest ih => exact ih (reachable.perform operation)

end Library

/-- **Libraries stay sound.** Take any library that can be reached. All its indices lead to a
locale, its locales are distinct and each reads its own messages, and it stays like that.

Whatever is done next, locales are only added at the end, and the fallback never changes once there
is one, nor does the active locale when another is added. An operation that is refused, with a fault
or without, leaves the library as it was; one that is not adds just what it is told to. -/
theorem libraries_stay_sound {library : Library} (reachable : library.Reachable) :
    library.Sound ∧
      (∀ code index, library.position? code = some index → index < library.catalogs.length) ∧
      (∀ catalog ∈ library.catalogs, catalog.messages.locale? = some catalog.code) ∧
      (∀ operations, library.Extends (library.after operations)) ∧
      (∀ operation, operation.addedCode? ≠ none → library.active ≠ none →
        (library.perform operation).2.active = library.active) ∧
      (∀ operation, (library.perform operation).1 ≠ .ok true →
        (library.perform operation).2 = library) ∧
      ∀ operation, (library.perform operation).1 = .ok true →
        (library.perform operation).2.codes = library.codes ++ operation.addedCode?.toList := by
  have sound := reachable.sound
  refine ⟨sound, fun _ _ => Library.lt_of_position?,
    fun catalog mem => (sound.loaded catalog mem).locale?, sound.extends_after,
    fun operation => sound.active_perform, fun operation refused => ?_, fun operation done => ?_⟩
  · obtain ⟨next, done, -⟩ | ⟨answer, -, same⟩ := sound.perform_cases operation
    · rw [done] at refused
      exact absurd rfl refused
    · rw [same]
  · obtain ⟨next, result, effect⟩ | ⟨answer, refused, same⟩ := sound.perform_cases operation
    · rw [result]
      exact effect.codes_eq
    · rw [same] at done
      exact absurd done refused

/-- Two locales, of which the second is active; the last two operations are refused. -/
def Library.bilingual : Library :=
  (Library.new ∅ {}).after
    [.add "en".toList none [("title".toList, .string "{n} mails".toList)],
     .add "de".toList (some "Deutsch".toList) [("title".toList, .string "{n} Mails".toList)],
     .rebind "en".toList Formatter.standard, .activate "de".toList,
     .add "de".toList none [], .activateIndex 2]

theorem libraries_stay_sound_bilingual :
    Library.bilingual.Reachable ∧ Library.bilingual.codes = ["en".toList, "de".toList] ∧
      Library.bilingual.active = some 1 ∧ Library.bilingual.fallback = some 0 ∧
      Library.bilingual.Sound ∧
      (Library.bilingual.perform (.add "fr".toList none [])).2.active = some 1 ∧
      (Library.bilingual.perform (.add "fr".toList none [])).2.codes =
        ["en".toList, "de".toList, "fr".toList] ∧
      (Library.bilingual.perform (.add "fr".toList none [("x".toList, .null)])).2 =
        Library.bilingual := by
  have reachable : Library.bilingual.Reachable := (Library.Reachable.new ∅ {}).after _
  obtain ⟨sound, -, -, -, active, refused, done⟩ := libraries_stay_sound reachable
  have second : Library.bilingual.active = some 1 := rfl
  refine ⟨reachable, rfl, second, rfl, sound, ?_, done _ rfl, refused _ nofun⟩
  have set : Library.bilingual.active ≠ none := by rw [second]; nofun
  rw [active (.add "fr".toList none []) (Option.some_ne_none _) set, second]

/-- **Loaded messages never fail.** Messages can be loaded exactly when all their templates parse.
Whether they come as a list or in nested groups, messages that have been loaded by a new translator
are what their templates parse to, and the cache of the translator holds the texts they were loaded
from, whatever is done with them (`Messages.Faultless`).

So it is with the messages of every locale of a library, by whatever operations it has been reached,
and reading leaves the library as it is. -/
theorem loaded_messages_never_fail :
    (∀ locale select registry options entries,
      (∃ messages, Messages.ofFlat (Translator.withSelector locale select registry options)
          entries = .ok messages) ↔
        ∀ entry ∈ entries, (Template.parse options entry.2).isOk = true) ∧
    (∀ locale select registry options entries messages,
      Messages.ofFlat (Translator.withSelector locale select registry options) entries =
          .ok messages →
        Messages.Faultless options select registry (entries.map Prod.snd) messages) ∧
    (∀ locale select registry options strings messages,
      Messages.ofStrings (Translator.withSelector locale select registry options) strings =
          .ok messages →
        Messages.Faultless options select registry ((Json.leavesOf strings).map Prod.snd)
          messages) ∧
    ∀ library : Library, library.Reachable →
      (∀ catalog ∈ library.catalogs, ∃ select registry entries,
        Selector.ofLocale catalog.code = .ok select ∧
        Messages.ofFlat (Translator.withSelector catalog.code select registry library.options)
          entries = .ok catalog.messages ∧
        Messages.Faultless library.options select registry (entries.map Prod.snd)
          catalog.messages) ∧
      ∀ operations, (∀ operation ∈ operations, operation.isReading = true) →
        library.after operations = library := by
  refine ⟨fun locale select registry options entries => ⟨?_, fun parses => ?_⟩,
    fun _ _ _ _ _ _ => Messages.faultless_of_ofFlat,
    fun _ _ _ _ _ _ => Messages.faultless_of_ofStrings, fun library reachable => ?_⟩
  · rintro ⟨messages, built⟩
    exact (Messages.ofFlat_eq_ok_iff.1 built).1
  · exact ⟨_, Messages.ofFlat_eq_ok_iff.2 ⟨parses, rfl⟩⟩
  -- A sound library has loaded its locales itself.
  have sound := reachable.sound
  refine ⟨fun catalog mem => ?_, fun operations => sound.after_of_isReading⟩
  obtain ⟨select, registry, entries, rules, built⟩ := sound.loaded catalog mem
  exact ⟨select, registry, entries, rules, built, Messages.faultless_of_ofFlat built⟩

/-- A message that is overwritten, so that one template more is read than is kept. -/
def repeatedKey : List (Text × Text) :=
  [("title".toList, "Inbox".toList), ("title".toList, "Inbox ({n})".toList)]

/-- A message in a group. -/
def nestedGroup : Entries Json :=
  [("inbox".toList, .object [("title".toList, .string "Inbox ({n})".toList)])]

/-- A translator for which all numbers are alike. -/
def plainTranslator : Translator :=
  Translator.withSelector "en".toList (fun _ => .other) ∅ {}

theorem loaded_messages_never_fail_sample :
    (∃ messages, Messages.ofFlat plainTranslator repeatedKey = .ok messages ∧ messages.size = 1 ∧
      Messages.Faultless {} (fun _ => .other) ∅ ["Inbox".toList, "Inbox ({n})".toList] messages) ∧
    (∃ messages, Messages.ofStrings plainTranslator nestedGroup = .ok messages ∧
      Messages.Faultless {} (fun _ => .other) ∅ ["Inbox ({n})".toList] messages) ∧
    Library.bilingual.Reachable ∧
      Library.bilingual.after [.text "title".toList [.number (.integer 2)],
        .read "en".toList (.isPlural "title".toList)] = Library.bilingual := by
  obtain ⟨-, flat, nested, library⟩ := loaded_messages_never_fail
  have reachable : Library.bilingual.Reachable := (Library.Reachable.new ∅ {}).after _
  refine ⟨⟨_, rfl, rfl, flat _ _ _ _ repeatedKey _ rfl⟩, ⟨_, rfl, nested _ _ _ _ nestedGroup _ rfl⟩,
    reachable, (library _ reachable).2 _ ?_⟩
  simp [Library.Operation.isReading]

end LocaleText
