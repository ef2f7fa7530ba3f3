import LocaleText.Proofs.ByteOrder
import LocaleText.Proofs.Reachability

/-!
# LocaleText.Proofs.Fallback

**What is served by the fallback is what is reported as missing.** A message is looked up by
position, in the active locale and then in the fallback (`Library.message?_eq`); the keys that a
locale lacks are those of the fallback, filtered. `Library.FallsBack` says that the two agree, and
what is rendered in each case.
-/

namespace LocaleText

/-- The message of a locale at a path, together with the locale: what a look-up returns, if it finds
anything. -/
def Catalog.serve? (catalog : Catalog) (key : Text) : Option (Catalog × Message) :=
  (catalog.messages.find? key).map fun message => (catalog, message)

/-- A message of a locale is rendered to this text, with the plural rules and the formatters of that
locale. The rules are those of the locale's own code, whatever locale is active. -/
def Catalog.Renders (options : ParseOptions) (catalog : Catalog) (message : Message)
    (arguments : List Json) (text : Text) : Prop :=
  ∃ template translator, Template.parse options message.template = .ok template ∧
    catalog.messages.translator = some translator ∧
    Selector.ofLocale catalog.code = .ok translator.select ∧
    text = template.render translator.select translator.registry (Arguments.ofList arguments)

namespace Messages

variable {messages : Messages} {key : Text}

/-- A message is found exactly at the paths that are reported to hold one. -/
theorem isSome_find? : (messages.find? key).isSome = messages.contains key := by
  simp [find?, contains, Table.contains]

theorem find?_of_contains (h : messages.contains key = true) :
    ∃ message, messages.find? key = some message := by
  rwa [← isSome_find?, Option.isSome_iff_exists] at h

theorem find?_of_not_contains (h : messages.contains key = false) : messages.find? key = none := by
  rwa [← isSome_find?, Option.isSome_eq_false_iff, Option.isNone_iff_eq_none] at h

/-- The paths that are listed are those that hold a message. -/
theorem mem_keys_iff : key ∈ messages.keys ↔ messages.contains key = true :=
  Table.contains_iff_mem_names.symm

end Messages

section Catalogs

variable {catalog : Catalog} {key : Text}

theorem Catalog.serve?_of_contains (h : catalog.messages.contains key = true) :
    ∃ message, catalog.serve? key = some (catalog, message) := by
  obtain ⟨message, found⟩ := Messages.find?_of_contains h
  exact ⟨message, by simp [serve?, found]⟩

theorem Catalog.serve?_of_not_contains (h : catalog.messages.contains key = false) :
    catalog.serve? key = none := by
  simp [serve?, Messages.find?_of_not_contains h]

theorem Catalog.serve?_eq_some {served : Catalog × Message} (h : catalog.serve? key = some served) :
    served.1 = catalog ∧ catalog.messages.find? key = some served.2 := by
  obtain ⟨message, found, rfl⟩ := Option.map_eq_some_iff.1 h
  exact ⟨rfl, found⟩

/-- A message is rendered to one text: neither the template nor the translator is a matter of
choice. -/
theorem Catalog.Renders.unique {options : ParseOptions} {message : Message} {arguments : List Json}
    {text text' : Text} (h : catalog.Renders options message arguments text)
    (h' : catalog.Renders options message arguments text') : text = text' := by
  obtain ⟨template, translator, parsed, bound, -, rfl⟩ := h
  obtain ⟨template', translator', parsed', bound', -, rfl⟩ := h'
  rw [parsed] at parsed'
  rw [bound] at bound'
  cases parsed'
  cases bound'
  rfl

/-- Calling a message of a locale that has been loaded renders it. When it was loaded, every message
was read once and the rules were looked up under the locale's code; a call reads the same template
and uses the same rules. -/
theorem Catalog.Loaded.renders {options : ParseOptions} (loaded : catalog.Loaded options)
    {message : Message} (mem : message ∈ catalog.messages.toList) (arguments : List Json) :
    catalog.Renders options message arguments (catalog.messages.call message arguments).1 := by
  obtain ⟨select, registry, entries, rules, built⟩ := loaded
  obtain ⟨template, parsed, shows, -⟩ := (Messages.faultless_of_ofFlat built).reads message mem
  obtain ⟨-, same⟩ := Messages.ofFlat_eq_ok_iff.1 built
  exact ⟨template, _, parsed, by rw [same], rules, (shows arguments).2⟩

/-- Calling a message of a locale that has been loaded never fails, because whatever could fail has
been tried on loading. -/
theorem Catalog.Loaded.call?_eq {options : ParseOptions} (loaded : catalog.Loaded options)
    {message : Message} (mem : message ∈ catalog.messages.toList) (arguments : List Json) :
    (catalog.messages.call? message arguments).1 =
      .ok (catalog.messages.call message arguments).1 := by
  obtain ⟨select, registry, entries, -, built⟩ := loaded
  obtain ⟨template, -, shows, -⟩ := (Messages.faultless_of_ofFlat built).reads message mem
  rw [(shows arguments).1, (shows arguments).2]

end Catalogs

namespace Library

variable {library : Library} {code key : Text}

/-! ### Looking messages up -/

/-- The locale with a code stands where its position says. Both look for the first locale of that
code. -/
theorem catalog?_eq_of_position? {index : Nat} (h : library.position? code = some index) :
    library.catalog? code = library.catalogs[index]? := by
  rw [catalog?, List.find?_eq_getElem?_findIdx, (List.findIdx?_eq_some_iff_findIdx_eq.1 h).2]

/-- There is no locale with a code when the code is not listed. -/
theorem catalog?_eq_none_iff : library.catalog? code = none ↔ code ∉ library.codes := by
  simp [catalog?, codes]

/-- The locale found for a code has that code. -/
theorem code_of_catalog? {catalog : Catalog} (h : library.catalog? code = some catalog) :
    catalog.code = code := by
  simpa using List.find?_some h

theorem position?_of_catalog? {catalog : Catalog} (h : library.catalog? code = some catalog) :
    ∃ index, library.position? code = some index ∧ library.catalogs[index]? = some catalog := by
  cases position : library.position? code with
  | none =>
      rw [position?_eq_none_iff, ← catalog?_eq_none_iff, h] at position
      cases position
  | some index => exact ⟨index, rfl, by rw [← catalog?_eq_of_position? position, h]⟩

/-- **Looking a message up**: the active locale is asked first and then the fallback. The library
keeps positions of the two; what serves a key is the first of these positions whose locale has it.
-/
theorem message?_eq {active fallback : Catalog} (h : library.activeCatalog? = some active)
    (h' : library.fallbackCatalog? = some fallback) :
    library.message? key = (active.serve? key).or (fallback.serve? key) := by
  obtain ⟨i, activeAt, here⟩ := Option.bind_eq_some_iff.1 h
  obtain ⟨j, fallbackAt, there⟩ := Option.bind_eq_some_iff.1 h'
  simp only [message?, serving?, activeAt, fallbackAt, List.findSome?_cons, List.findSome?_nil,
    Option.filter_some, here, there]
  -- If the active locale has the key, the fallback is not looked at; else it may be that the
  -- fallback has it.
  cases own : active.messages.contains key with
  | true =>
      obtain ⟨message, found⟩ := Messages.find?_of_contains own
      simp [here, Catalog.serve?, found]
  | false =>
      rw [Catalog.serve?_of_not_contains own]
      cases other : fallback.messages.contains key with
      | true =>
          obtain ⟨message, found⟩ := Messages.find?_of_contains other
          simp [there, Catalog.serve?, found]
      | false => simp [Catalog.serve?_of_not_contains other]

theorem mem_of_activeCatalog? {catalog : Catalog} (h : library.activeCatalog? = some catalog) :
    catalog ∈ library.catalogs := by
  obtain ⟨index, -, here⟩ := Option.bind_eq_some_iff.1 h
  exact List.mem_of_getElem? here

theorem mem_of_fallbackCatalog? {catalog : Catalog} (h : library.fallbackCatalog? = some catalog) :
    catalog ∈ library.catalogs := by
  obtain ⟨index, -, here⟩ := Option.bind_eq_some_iff.1 h
  exact List.mem_of_getElem? here

/-- What is found is a message of a locale of the library. -/
theorem mem_of_message? {catalog : Catalog} {message : Message}
    (h : library.message? key = some (catalog, message)) :
    catalog ∈ library.catalogs ∧ catalog.messages.find? key = some message := by
  obtain ⟨index, -, h⟩ := Option.bind_eq_some_iff.1 h
  obtain ⟨other, here, h⟩ := Option.bind_eq_some_iff.1 h
  obtain ⟨_, found, same⟩ := Option.map_eq_some_iff.1 h
  cases same
  exact ⟨List.mem_of_getElem? here, found⟩

/-- The text for a key is that of the message that is found for it. -/
theorem text_of_message? {catalog : Catalog} {message : Message} (arguments : List Json)
    (h : library.message? key = some (catalog, message)) :
    (library.text key arguments).1 = (catalog.messages.call message arguments).1 := by
  obtain ⟨index, served, -⟩ := Option.bind_eq_some_iff.1 h
  simp [text, served, h]

/-- The text for a key without a message is the key. -/
theorem text_of_no_message (arguments : List Json) (h : library.message? key = none) :
    (library.text key arguments).1 = key := by
  cases served : library.serving? key <;> simp [text, served, h]

/-! ### Missing keys -/

/-- The missing keys are listed in the order of the fallback's keys. -/
theorem missingKeys?_eq {own fallback : Catalog} (h : library.catalog? code = some own)
    (h' : library.fallbackCatalog? = some fallback) :
    library.missingKeys? code =
      some (fallback.messages.keys.filter fun key => !own.messages.contains key) := by
  simp [missingKeys?, h, h']

/-- How a library whose active locale is `own` serves what this locale lacks. The fields follow a
request: which locales are asked, which message is found, how it is rendered, what is shown if there
is none, and what is reported as missing. -/
structure FallsBack (library : Library) (own fallback : Catalog) : Prop where
  /-- The locale is active. -/
  active : library.activeCatalog? = some own
  /-- The other one is the fallback. -/
  falls : library.fallbackCatalog? = some fallback
  /-- A message is the locale's own, or else that of the fallback. -/
  looks : ∀ key, library.message? key = (own.serve? key).or (fallback.serve? key)
  /-- It is rendered with the rules and the formatters of the locale that it comes from. -/
  renders : ∀ key arguments catalog message, library.message? key = some (catalog, message) →
    catalog.Renders library.options message arguments (library.text key arguments).1
  /-- A path is shown itself where there is no message, and only there, unless a message happens to
  be rendered to it. -/
  shows : ∀ key arguments, (library.text key arguments).1 = key ↔
    library.message? key = none ∨ ∃ catalog message,
      library.message? key = some (catalog, message) ∧
        catalog.Renders library.options message arguments key
  /-- The missing keys are those that the fallback has and the locale lacks, which are those that
  the fallback serves, in order. -/
  reports : ∃ keys, library.missingKeys? own.code = some keys ∧
    (keys.Pairwise fun a b => Text.bytes a < Text.bytes b) ∧
    (∀ key, key ∈ keys ↔
      fallback.messages.contains key = true ∧ own.messages.contains key = false) ∧
    (∀ key, key ∈ keys ↔ own.messages.contains key = false ∧
      ∃ message, library.message? key = some (fallback, message)) ∧
    (keys = [] ↔ ∀ key, fallback.messages.contains key = true →
      ∃ message, library.message? key = some (own, message))
  /-- The fallback lacks none of its own. -/
  complete : library.missingKeys? fallback.code = some []

/-- What the fallback serves is what the active locale lacks and the fallback has. The locale may be
the fallback itself; then it serves as the active one, and both sides are false. -/
theorem served_by_fallback_iff {own fallback : Catalog}
    (looks : library.message? key = (own.serve? key).or (fallback.serve? key)) :
    (fallback.messages.contains key = true ∧ own.messages.contains key = false) ↔
      own.messages.contains key = false ∧
        ∃ message, library.message? key = some (fallback, message) := by
  rw [and_comm, and_congr_right_iff]
  intro lacks
  rw [looks, Catalog.serve?_of_not_contains lacks, Option.none_or]
  refine ⟨Catalog.serve?_of_contains, fun ⟨message, served⟩ => ?_⟩
  rw [← Messages.isSome_find?, (Catalog.serve?_eq_some served).2]
  rfl

/-- What the active locale serves is what it has. For a key that the fallback has, this tells the
two apart: a key that neither has is served by none. -/
theorem served_by_own_iff {own fallback : Catalog}
    (looks : library.message? key = (own.serve? key).or (fallback.serve? key))
    (has : fallback.messages.contains key = true) :
    own.messages.contains key = true ↔ ∃ message, library.message? key = some (own, message) := by
  rw [looks]
  cases own' : own.messages.contains key with
  | true =>
      obtain ⟨message, served⟩ := Catalog.serve?_of_contains own'
      simp [served]
  | false =>
      -- The fallback serves the key; if it were the locale itself, this one would have it.
      simp only [Bool.false_eq_true, false_iff, Catalog.serve?_of_not_contains own', Option.none_or]
      rintro ⟨message, served⟩
      obtain ⟨rfl, -⟩ := Catalog.serve?_eq_some served
      rw [has] at own'
      cases own'

/-- There is one locale with a code, because codes are distinct in a sound library. -/
theorem Sound.eq_of_mem (sound : library.Sound) {one other : Catalog}
    (mem : one ∈ library.catalogs) (mem' : other ∈ library.catalogs)
    (same : one.code = other.code) : one = other :=
  List.inj_on_of_nodup_map sound.distinct mem mem' same

/-- A locale of the library is the one that is found for its code. -/
theorem Sound.catalog?_of_mem (sound : library.Sound) {catalog : Catalog}
    (mem : catalog ∈ library.catalogs) : library.catalog? catalog.code = some catalog := by
  cases found : library.catalog? catalog.code with
  | none => exact absurd (List.mem_map_of_mem mem) (catalog?_eq_none_iff.1 found)
  | some other =>
      exact congrArg some
        (sound.eq_of_mem (List.mem_of_find?_eq_some found) mem (code_of_catalog? found))

/-- There is a fallback as soon as there is a locale. -/
theorem Sound.fallbackCatalog?_eq_none_iff (sound : library.Sound) :
    library.fallbackCatalog? = none ↔ library.catalogs = [] := by
  rw [← sound.fallback_eq_none_iff, fallbackCatalog?]
  cases set : library.fallback with
  | none => simp
  | some index => simpa using sound.fallback_lt index set

/-- As soon as a locale is active there is a fallback. -/
theorem Sound.exists_fallback (sound : library.Sound) {own : Catalog}
    (active : library.activeCatalog? = some own) :
    ∃ fallback, library.fallbackCatalog? = some fallback := by
  have here : library.catalogs ≠ [] := List.ne_nil_of_mem (mem_of_activeCatalog? active)
  exact Option.ne_none_iff_exists'.1 (mt sound.fallbackCatalog?_eq_none_iff.1 here)

/-- Whatever locale is active, the fallback serves what this locale lacks. Each field is one of the
lemmas above; soundness of the library is used for the locales' being loaded and for their codes'
being distinct. -/
theorem Sound.fallsBack (sound : library.Sound) {own fallback : Catalog}
    (active : library.activeCatalog? = some own)
    (falls : library.fallbackCatalog? = some fallback) : library.FallsBack own fallback := by
  have here := mem_of_activeCatalog? active
  have there := mem_of_fallbackCatalog? falls
  have looks (key : Text) : library.message? key = (own.serve? key).or (fallback.serve? key) :=
    message?_eq active falls
  have missing := missingKeys?_eq (sound.catalog?_of_mem here) falls
  have mem_missing (key : Text) :
      (key ∈ fallback.messages.keys.filter fun key => !own.messages.contains key) ↔
        fallback.messages.contains key = true ∧ own.messages.contains key = false := by
    simp [Messages.mem_keys_iff]
  have renders (key : Text) (arguments : List Json) (catalog : Catalog) (message : Message)
      (served : library.message? key = some (catalog, message)) :
      catalog.Renders library.options message arguments (library.text key arguments).1 := by
    obtain ⟨inside, found⟩ := mem_of_message? served
    rw [text_of_message? arguments served]
    exact (sound.loaded catalog inside).renders (Messages.mem_toList_of_find? found) arguments
  -- Each field is one of the lemmas above, but for what is shown and what is reported.
  refine
    { active, falls, looks, renders
      shows := fun key arguments => ⟨fun shown => ?_, ?_⟩
      reports := ⟨_, missing, ?_, mem_missing, fun key => ?_, ?_⟩
      complete := ?_ }
  · cases served : library.message? key with
    | none => exact .inl rfl
    | some serving =>
        have rendered := renders key arguments serving.1 serving.2 served
        rw [shown] at rendered
        exact .inr ⟨serving.1, serving.2, rfl, rendered⟩
  · rintro (absent | ⟨catalog, message, served, rendered⟩)
    · exact text_of_no_message arguments absent
    · exact (renders key arguments catalog message served).unique rendered
  · exact fallback.messages.templates.names_increasing.filter _
  · rw [mem_missing, served_by_fallback_iff (looks key)]
  · rw [List.eq_nil_iff_forall_not_mem]
    refine forall_congr' fun key => ?_
    rw [mem_missing, not_and, Bool.not_eq_false]
    exact forall_congr' fun has => served_by_own_iff (looks key) has
  · rw [missingKeys?_eq (sound.catalog?_of_mem there) falls]
    simp [Messages.mem_keys_iff]

/-- A locale that is loaded can be made active, and is the active one then. -/
theorem activate_of_catalog? {own : Catalog} (h : library.catalog? code = some own) :
    (library.activate code).1 = true ∧ (library.activate code).2.activeCatalog? = some own := by
  obtain ⟨index, position, here⟩ := position?_of_catalog? h
  simp [activate, position, activeCatalog?, here]

end Library

/-- **The fallback serves what is missing.** In whatever library that can be reached, a locale that
is loaded can be made active, which changes nothing in what is missing from it. There is a fallback
then, and `FallsBack` says the rest: a message is the locale's own or else that of the fallback,
rendered by the rules of the locale it comes from, and the keys that are reported as missing are
those that the fallback serves, in order. For a locale that is not loaded nothing is reported.

The library has to be reachable, since only operations of a library keep its positions within bounds
and its codes distinct. -/
theorem fallback_serves_missing_keys {library : Library} (reachable : library.Reachable) :
    (∀ code own, library.catalog? code = some own →
      (library.activate code).1 = true ∧
      (library.activate code).2.missingKeys? code = library.missingKeys? code ∧
      ∃ fallback, library.fallbackCatalog? = some fallback ∧
        (library.activate code).2.FallsBack own fallback) ∧
    ∀ code, code ∉ library.codes → library.missingKeys? code = none := by
  refine ⟨fun code own loaded => ?_, fun code absent => ?_⟩
  · obtain ⟨done, active⟩ := Library.activate_of_catalog? loaded
    have sound : (library.activate code).2.Sound := reachable.sound.perform (.activate code)
    obtain ⟨fallback, falls⟩ := sound.exists_fallback active
    obtain ⟨index, position, -⟩ := Library.position?_of_catalog? loaded
    have same : library.fallbackCatalog? = (library.activate code).2.fallbackCatalog? ∧
        library.missingKeys? code = (library.activate code).2.missingKeys? code := by
      simp [Library.activate, position, Library.fallbackCatalog?, Library.missingKeys?,
        Library.catalog?]
    exact ⟨done, same.2.symm, fallback, same.1.trans falls, sound.fallsBack active falls⟩
  · simp [Library.missingKeys?, Library.catalog?_eq_none_iff.2 absent]

/-- Two locales, of which the second lacks what stands in a group of the first. -/
def Library.partlyTranslated : Library :=
  (Library.new ∅ {}).after
    [.add "en".toList none [("menu".toList, .object [("open".toList, .string "Open".toList)]),
       ("title".toList, .string "Inbox".toList)],
     .add "de".toList none [("title".toList, .string "Eingang".toList)]]

theorem fallback_serves_missing_keys_partly :
    Library.partlyTranslated.Reachable ∧
    (∃ own fallback, Library.partlyTranslated.catalog? "de".toList = some own ∧
      fallback.code = "en".toList ∧
      (Library.partlyTranslated.activate "de".toList).2.FallsBack own fallback ∧
      own.messages.keys = ["title".toList] ∧
      fallback.messages.keys = ["menu.open".toList, "title".toList] ∧
      Library.partlyTranslated.missingKeys? "de".toList = some ["menu.open".toList]) ∧
    Library.partlyTranslated.missingKeys? "fr".toList = none := by
  have reachable : Library.partlyTranslated.Reachable := (Library.Reachable.new ∅ {}).after _
  obtain ⟨served, absent⟩ := fallback_serves_missing_keys reachable
  obtain ⟨own, loaded⟩ : ∃ own, Library.partlyTranslated.catalog? "de".toList = some own := ⟨_, rfl⟩
  obtain ⟨-, -, fallback, falls, back⟩ := served _ own loaded
  refine ⟨reachable, ⟨own, fallback, loaded, ?_, back, ?_, ?_, rfl⟩, absent _ (by decide)⟩
  · cases falls
    rfl
  · cases loaded
    rfl
  · cases falls
    rfl

end LocaleText
