import LocaleText.Proofs.Flattening
import LocaleText.Proofs.Reachability
import LocaleText.Proofs.Traversal

/-!
# LocaleText.Proofs.Refusals

**Why a locale is refused.** `Library.Refusal` lists the reasons in the order of their precedence,
and adding a locale is refused for exactly these (`Library.catalogFor_eq_error_iff`).

Nested groups are gone through twice when they are loaded: they are flattened, up to the first value
that is neither a text nor a group, and only then are the texts read, up to the first one that is no
template. Each time the ends of the groups are read one after the other
(`Messages.flatten_eq_mapM`, `Messages.enter_eq_error_iff`). These stand in the order of the names
that lead to them (`Json.ends_sorted`), so that what is reported is of all that is faulty the one
with the least names (`Json.mapM_ends_eq_error_iff`).
-/

namespace LocaleText

/-! ### What is faulty in nested groups -/

namespace Json

/-- Whether the value is neither a text nor a group. -/
def Unsupported : Json → Prop
  | string _ | object _ => False
  | _ => True

/-- Whether everything in the value is a text or a group. -/
def Supported (value : Json) : Prop :=
  ∀ names inner, value.at? names = some inner → ¬inner.Unsupported

/-- Whether the value is a text that is no template. -/
def Malformed (options : ParseOptions) (value : Json) : Prop :=
  ∃ text fault, value = .string text ∧ Template.parse options text = .error fault

/-- Whether every text in the value is a template. -/
def WellFormed (options : ParseOptions) (value : Json) : Prop :=
  ∀ names text, value.at? names = some (.string text) →
    ∃ template, Template.parse options text = .ok template

/-- What is faulty in a value: of all that names lead to, that of the least names. Names are
compared one by one, by their characters, which is the order in which the groups list them. -/
structure IsFirst (value : Json) (faulty : Json → Prop) (names : List Text) (inner : Json) :
    Prop where
  /-- The names lead to it. -/
  leads : value.at? names = some inner
  /-- It is faulty. -/
  isFaulty : faulty inner
  /-- Whatever else is faulty stands behind it. -/
  least : ∀ others other, value.at? others = some other → faulty other →
    others = names ∨ names < others

/-- What is faulty first is the first of the ends that is faulty. Groups are walked through, not
looked at, so a group must not be faulty itself. -/
theorem isFirst_iff {value : Json} (ordered : value.Ordered) {faulty : Json → Prop}
    (noGroup : ∀ fields, ¬faulty (.object fields)) {names : List Text} {inner : Json} :
    value.IsFirst faulty names inner ↔
      ∃ before after, value.ends = before ++ (names, inner) :: after ∧
        (∀ earlier ∈ before, ¬faulty earlier.2) ∧ faulty inner := by
  -- The ends are in the order of the names, so what stands in front has lesser names.
  have sorted := ends_sorted ordered
  constructor
  · intro first
    have isEnd : ∀ fields, inner ≠ .object fields :=
      fun fields same => noGroup fields (same ▸ first.isFaulty)
    have mem : (names, inner) ∈ value.ends := (mem_ends_iff ordered).2 ⟨first.leads, isEnd⟩
    obtain ⟨before, after, split⟩ := List.append_of_mem mem
    refine ⟨before, after, split, fun earlier here bad => ?_, first.isFaulty⟩
    obtain ⟨others, other⟩ := earlier
    rw [split, List.pairwise_append] at sorted
    have less : others < names := sorted.2.2 _ here _ List.mem_cons_self
    have leads := ((mem_ends_iff ordered).1 (split ▸ List.mem_append_left _ here)).1
    rcases first.least others other leads bad with rfl | greater
    · exact List.lt_irrefl _ less
    · exact List.lt_irrefl _ (List.lt_trans less greater)
  · intro h
    obtain ⟨before, after, split, right, bad⟩ := h
    have mem : (names, inner) ∈ value.ends := by simp [split]
    refine ⟨((mem_ends_iff ordered).1 mem).1, bad, fun others other leads bad' => ?_⟩
    have mem' : (others, other) ∈ value.ends :=
      (mem_ends_iff ordered).2 ⟨leads, fun fields same => noGroup fields (same ▸ bad')⟩
    rw [split] at mem' sorted
    rcases List.mem_append.1 mem' with earlier | later
    · exact absurd bad' (right _ earlier)
    · rcases List.mem_cons.1 later with same | behind
      · exact .inl (Prod.mk.inj same).1
      · exact .inr ((List.pairwise_cons.1 (List.pairwise_append.1 sorted).2.1).1 _ behind)

/-- **A reading of the ends** fails with the fault of what is faulty first, if it fails at the
faulty ones and only there. Both passes over the groups are readings of this kind. -/
theorem mapM_ends_eq_error_iff {α ε : Type} {value : Json} (ordered : value.Ordered)
    {faulty : Json → Prop} (noGroup : ∀ fields, ¬faulty (.object fields))
    {f : List Text × Json → Except ε α}
    (fails : ∀ names inner, (names, inner) ∈ value.ends →
      ((∃ fault, f (names, inner) = .error fault) ↔ faulty inner)) {fault : ε} :
    value.ends.mapM f = .error fault ↔
      ∃ names inner, value.IsFirst faulty names inner ∧ f (names, inner) = .error fault := by
  simp only [mapM_eq_error_iff, isFirst_iff ordered noGroup]
  constructor
  · -- Where the reading stops, the end is faulty, and those in front of it are not.
    intro h
    obtain ⟨before, ⟨names, inner⟩, after, split, succeeds, stops⟩ := h
    have bad : faulty inner := (fails names inner (by simp [split])).1 ⟨fault, stops⟩
    refine ⟨names, inner, ⟨before, after, split, fun earlier mem bad' => ?_, bad⟩, stops⟩
    obtain ⟨_, read⟩ := succeeds earlier mem
    obtain ⟨_, stops'⟩ := (fails earlier.1 earlier.2 (by simp [split, mem])).2 bad'
    rw [read] at stops'
    cases stops'
  · intro h
    obtain ⟨names, inner, ⟨before, after, split, right, -⟩, stops⟩ := h
    refine ⟨before, (names, inner), after, split, fun earlier mem => ?_, stops⟩
    cases read : f earlier with
    | ok result => exact ⟨result, rfl⟩
    | error other =>
        have bad := (fails earlier.1 earlier.2 (by simp [split, mem])).1 ⟨other, read⟩
        exact absurd bad (right earlier mem)

end Json

namespace Messages

/-! ### Flattening and loading -/

/-- The text at an end, with its path, or the fault of an end that is no text. Both name the path
that a message has there. -/
def textAt (locale path : Text) (part : List Text × Json) : Except LoadError (Text × Text) :=
  match part with
  | (names, .string text) => .ok (pathOf path names, text)
  | (names, other) => .error (.unsupportedMessage locale (pathOf path names) other.kind)

mutual

/-- **Flattening** reads the ends one after the other. The groups are gone through as deep as they
are nested, and the path is built on the way; as a reading of ends it has the path of each end at
once. -/
theorem flatten_eq_mapM (locale path : Text) : (value : Json) →
    flatten locale path value = value.ends.mapM (textAt locale path)
  | .object fields => by
      rw [flatten, Json.ends]
      exact flattenFields_eq_mapM locale path fields
  | .string _ | .null | .bool _ | .number _ | .array _ => rfl

theorem flattenFields_eq_mapM (locale parent : Text) : (fields : List (Text × Json)) →
    flattenFields locale parent fields = (Json.endsOf fields).mapM (textAt locale parent)
  | [] => rfl
  | (name, value) :: fields => by
      have front : (value.ends.map fun (names, inner) => (name :: names, inner)).mapM
          (textAt locale parent) = value.ends.mapM (textAt locale (childPath parent name)) := by
        rw [List.mapM_map]
        congr 1
        funext ⟨names, inner⟩
        cases inner <;> rfl
      rw [flattenFields, flatten_eq_mapM, flattenFields_eq_mapM, Json.endsOf, List.mapM_append,
        front]
      cases value.ends.mapM (textAt locale (childPath parent name)) with
      | error fault => rfl
      | ok texts =>
          cases (Json.endsOf fields).mapM (textAt locale parent) <;> rfl

end

/-- The template of an entry, or the fault with which it is reported. -/
def readEntry (options : ParseOptions) (locale : Text) (entry : Text × Text) :
    Except LoadError Template :=
  (Template.parse options entry.2).mapError (.template locale entry.1)

/-- An entry is reported with its path when its text is no template. -/
theorem readEntry_eq_error_iff {options : ParseOptions} {locale : Text} {entry : Text × Text}
    {fault : LoadError} :
    readEntry options locale entry = .error fault ↔
      ∃ malformed, Template.parse options entry.2 = .error malformed ∧
        fault = .template locale entry.1 malformed := by
  unfold readEntry
  cases Template.parse options entry.2 with
  | error malformed => simp [Except.mapError, eq_comm]
  | ok template => simp [Except.mapError]

/-- **Loading** fails as reading the entries one after the other does. Texts that have been read
before are not parsed again but looked up, which makes no difference because the cache is sound. -/
theorem enter_eq_error_iff {translator : Translator} (sound : translator.cache.Sound)
    {templates : Table Text} {entries : List (Text × Text)} {fault : LoadError} :
    enter translator templates entries = .error fault ↔
      entries.mapM (readEntry translator.cache.options translator.locale) = .error fault := by
  induction entries generalizing translator templates with
  | nil => exact ok_eq_error_iff
  | cons entry entries ih =>
      obtain ⟨key, text⟩ := entry
      have later := @ih { translator with cache := (translator.cache.resolve text).2 }
        (sound.perform (.resolve text)) (templates.insert key text)
      have options : (translator.cache.resolve text).2.options = translator.cache.options :=
        translator.cache.options_perform (.resolve text)
      -- What a look-up answers is what parsing gives, whether it is a hit or not.
      have prepared : translator.prepare text =
          (Template.parse translator.cache.options text,
            { translator with cache := (translator.cache.resolve text).2 }) := by
        rw [← sound.resolve_fst text]
        rfl
      rw [options] at later
      rw [enter, prepared, List.mapM_cons, readEntry]
      cases Template.parse translator.cache.options text with
      | error malformed => exact error_eq_error_iff
      | ok template =>
          refine later.trans ?_
          cases entries.mapM (readEntry translator.cache.options translator.locale) with
          | error other => exact error_eq_error_iff
          | ok found => exact ok_eq_error_iff

/-- The text at an end that is one. -/
def content : Json → Text
  | .string text => text
  | _ => []

section Strings

variable {locale : Text} {strings : Entries Json} {fault : LoadError}

/-- An end is reported when it is no text, with its path and its kind. -/
theorem textAt_eq_error_iff {names : List Text} {inner : Json}
    (noGroup : ∀ fields, inner ≠ .object fields) :
    textAt locale [] (names, inner) = .error fault ↔ inner.Unsupported ∧
      fault = .unsupportedMessage locale (pathOf [] names) inner.kind := by
  cases inner with
  | object fields => exact absurd rfl (noGroup fields)
  | _ => simp [textAt, Json.Unsupported, eq_comm]

/-- What stands at an end and is supported is a text. Groups are supported, too, but stand at no
end. -/
theorem exists_text {value inner : Json} (ordered : value.Ordered) {names : List Text}
    (supported : value.Supported)
    (mem : (names, inner) ∈ value.ends) : ∃ text, inner = .string text := by
  obtain ⟨leads, noGroup⟩ := (Json.mem_ends_iff ordered).1 mem
  have here := supported names inner leads
  cases inner with
  | string text => exact ⟨text, rfl⟩
  | object fields => exact absurd rfl (noGroup fields)
  | _ => exact absurd trivial here

/-- Nested groups are not flattened when something in them is no text; what comes first of that is
reported. Whether texts are templates is not looked at. -/
theorem flattenFields_eq_error_iff (ordered : (Json.object strings).Ordered) :
    flattenFields locale [] strings = .error fault ↔
      ∃ names inner, (Json.object strings).IsFirst Json.Unsupported names inner ∧
        fault = .unsupportedMessage locale (pathOf [] names) inner.kind := by
  have leaf {names : List Text} {inner : Json} (mem : (names, inner) ∈ (Json.object strings).ends) :
      ∀ fields, inner ≠ .object fields := ((Json.mem_ends_iff ordered).1 mem).2
  have noGroup (fields : List (Text × Json)) : ¬(Json.object fields).Unsupported := not_false
  rw [flattenFields_eq_mapM]
  refine (Json.mapM_ends_eq_error_iff ordered noGroup fun names inner mem => ?_).trans ?_
  · simp [textAt_eq_error_iff (leaf mem)]
  · refine exists_congr fun names => exists_congr fun inner => and_congr_right fun first => ?_
    have mem : (names, inner) ∈ (Json.object strings).ends :=
      (Json.mem_ends_iff ordered).2
        ⟨first.leads, fun fields same => noGroup fields (same ▸ first.isFaulty)⟩
    simp [textAt_eq_error_iff (leaf mem), first.isFaulty]

/-- Nested groups of texts are flattened to these texts, in the order in which they stand. -/
theorem flattenFields_of_supported (ordered : (Json.object strings).Ordered)
    (supported : (Json.object strings).Supported) :
    flattenFields locale [] strings = .ok ((Json.object strings).ends.map fun (names, inner) =>
      (pathOf [] names, content inner)) := by
  rw [flattenFields_eq_mapM]
  refine mapM_eq_ok fun part mem => ?_
  obtain ⟨names, inner⟩ := part
  obtain ⟨text, rfl⟩ := exists_text ordered supported mem
  rfl

theorem flattenFields_isOk_iff (ordered : (Json.object strings).Ordered) :
    (∃ flat, flattenFields locale [] strings = .ok flat) ↔ (Json.object strings).Supported := by
  refine ⟨fun h names inner leads bad => ?_, fun supported =>
    ⟨_, flattenFields_of_supported ordered supported⟩⟩
  have noGroup : ∀ fields, inner ≠ .object fields := by
    rintro fields rfl
    exact bad
  rw [flattenFields_eq_mapM] at h
  obtain ⟨entry, read⟩ :=
    mapM_isOk_iff.1 h (names, inner) ((Json.mem_ends_iff ordered).2 ⟨leads, noGroup⟩)
  rw [(textAt_eq_error_iff noGroup).2 ⟨bad, rfl⟩] at read
  cases read

/-- Texts are not loaded when one of them is no template; the first one that is none is reported. A
text counts even if another one would take its place. -/
theorem ofFlat_eq_error_iff {translator : Translator} (sound : translator.cache.Sound)
    (ordered : (Json.object strings).Ordered)
    (supported : (Json.object strings).Supported) :
    ofFlat translator ((Json.object strings).ends.map fun (names, inner) =>
        (pathOf [] names, content inner)) = .error fault ↔
      ∃ names text malformed,
        (Json.object strings).IsFirst (Json.Malformed translator.cache.options) names
          (.string text) ∧
        Template.parse translator.cache.options text = .error malformed ∧
        fault = .template translator.locale (pathOf [] names) malformed := by
  rw [ofFlat, enter_eq_error_iff sound, List.mapM_map]
  have noGroup (fields : List (Text × Json)) :
      ¬Json.Malformed translator.cache.options (.object fields) := nofun
  refine (Json.mapM_ends_eq_error_iff ordered noGroup fun names inner mem => ?_).trans ?_
  · obtain ⟨text, rfl⟩ := exists_text ordered supported mem
    simp only [Function.comp_apply, readEntry_eq_error_iff]
    simp [Json.Malformed, content]
  · constructor
    · intro h
      obtain ⟨names, inner, first, stops⟩ := h
      obtain ⟨text, malformed, rfl, -⟩ := first.isFaulty
      obtain ⟨malformed, fails, rfl⟩ := readEntry_eq_error_iff.1 stops
      exact ⟨names, text, malformed, first, fails, rfl⟩
    · intro h
      obtain ⟨names, text, malformed, first, fails, rfl⟩ := h
      exact ⟨names, .string text, first, readEntry_eq_error_iff.2 ⟨malformed, fails, rfl⟩⟩

/-- What is loaded from nested groups, or the fault. Every value is looked at before any template
is, so one that is no text is reported even behind a text that is no template. -/
theorem ofStrings_eq_error_iff {translator : Translator} (sound : translator.cache.Sound)
    (ordered : (Json.object strings).Ordered) :
    ofStrings translator strings = .error fault ↔
      (∃ names inner, (Json.object strings).IsFirst Json.Unsupported names inner ∧
        fault = .unsupportedMessage translator.locale (pathOf [] names) inner.kind) ∨
      (Json.object strings).Supported ∧ ∃ names text malformed,
        (Json.object strings).IsFirst (Json.Malformed translator.cache.options) names
          (.string text) ∧
        Template.parse translator.cache.options text = .error malformed ∧
        fault = .template translator.locale (pathOf [] names) malformed := by
  by_cases supported : (Json.object strings).Supported
  · have none : ¬∃ names inner, (Json.object strings).IsFirst Json.Unsupported names inner ∧
        fault = .unsupportedMessage translator.locale (pathOf [] names) inner.kind := by
      intro h
      obtain ⟨names, inner, first, -⟩ := h
      exact supported names inner first.leads first.isFaulty
    rw [or_iff_right none, and_iff_right supported, ofStrings,
      flattenFields_of_supported ordered supported]
    exact ofFlat_eq_error_iff sound ordered supported
  · rw [or_iff_left fun h => supported h.1, ← flattenFields_eq_error_iff ordered, ofStrings]
    cases flat : flattenFields translator.locale [] strings with
    | ok entries => exact absurd ((flattenFields_isOk_iff ordered).1 ⟨entries, flat⟩) supported
    | error other => exact error_eq_error_iff

/-- Nested groups are loaded when they hold nothing but templates. -/
theorem ofStrings_isOk_iff {translator : Translator} (sound : translator.cache.Sound)
    (ordered : (Json.object strings).Ordered) :
    (∃ messages, ofStrings translator strings = .ok messages) ↔
      (Json.object strings).Supported ∧
        (Json.object strings).WellFormed translator.cache.options := by
  -- The groups are flattened exactly when they are supported; only then are templates looked at.
  by_cases supported : (Json.object strings).Supported
  · rw [and_iff_right supported, ofStrings, flattenFields_of_supported ordered supported]
    have parses : (∃ messages, ofFlat translator ((Json.object strings).ends.map
          fun (names, inner) => (pathOf [] names, content inner)) = .ok messages) ↔
        ∀ part ∈ (Json.object strings).ends,
          (Template.parse translator.cache.options (content part.2)).isOk = true := by
      simp only [ofFlat, enter_eq_ok_iff sound, exists_and_left, exists_eq, and_true,
        List.forall_mem_map]
    refine parses.trans ⟨fun all names text leads => ?_, fun all part mem => ?_⟩
    · have mem := (Json.mem_ends_iff ordered).2 ⟨leads, fun _ same => by cases same⟩
      exact isOk_iff.1 (all (names, .string text) mem)
    · obtain ⟨names, inner⟩ := part
      obtain ⟨text, rfl⟩ := exists_text ordered supported mem
      exact isOk_iff.2 (all names text ((Json.mem_ends_iff ordered).1 mem).1)
  · refine ⟨?_, fun h => absurd h.1 supported⟩
    intro h
    obtain ⟨messages, loaded⟩ := h
    rw [ofStrings] at loaded
    cases flat : flattenFields translator.locale [] strings with
    | ok entries => exact absurd ((flattenFields_isOk_iff ordered).1 ⟨entries, flat⟩) supported
    | error fault =>
        rw [flat] at loaded
        cases loaded

end Strings

end Messages

namespace Library

/-! ### Adding a locale -/

variable {library : Library} {code : Text} {strings : Entries Json}

/-- Why a locale is not added. The reasons are in the order of precedence: each of them only counts
where those before it do not hold. The path in a report is that of the message, had there been one.
-/
inductive Refusal (library : Library) (code : Text) (strings : Entries Json) : LoadError → Prop
  /-- There is such a locale. -/
  | duplicate (loaded : code ∈ library.codes) : Refusal library code strings (.duplicateLocale code)
  /-- Else the code is no locale identifier. -/
  | invalid {fault : LocaleError} (fresh : code ∉ library.codes)
    (unknown : LanguageId.parse code = .error fault) :
    Refusal library code strings (.invalidLocale code fault)
  /-- Else something is neither a text nor a group; what comes first of that is reported. -/
  | unsupported {id : LanguageId} {names : List Text} {inner : Json} (fresh : code ∉ library.codes)
    (known : LanguageId.parse code = .ok id)
    (first : (Json.object strings).IsFirst Json.Unsupported names inner) :
    Refusal library code strings
      (.unsupportedMessage code (Messages.pathOf [] names) inner.kind)
  /-- Else some text is no template; the first one that is none is reported. -/
  | template {id : LanguageId} {names : List Text} {text : Text} {fault : TemplateError}
    (fresh : code ∉ library.codes) (known : LanguageId.parse code = .ok id)
    (supported : (Json.object strings).Supported)
    (first : (Json.object strings).IsFirst (Json.Malformed library.options) names (.string text))
    (malformed : Template.parse library.options text = .error fault) :
    Refusal library code strings (.template code (Messages.pathOf [] names) fault)

section Reasons

variable {displayName : Option Text} {registry : Registry}

theorem catalogFor_of_loaded (loaded : code ∈ library.codes) :
    library.catalogFor code displayName strings registry = .error (.duplicateLocale code) := by
  have position : (library.position? code).isSome = true := by
    rw [Option.isSome_iff_ne_none, Ne, position?_eq_none_iff, not_not]
    exact loaded
  rw [catalogFor, if_pos position]

theorem catalogFor_of_unknown {fault : LocaleError} (fresh : code ∉ library.codes)
    (unknown : LanguageId.parse code = .error fault) :
    library.catalogFor code displayName strings registry = .error (.invalidLocale code fault) := by
  simp [catalogFor, position?_eq_none_iff.2 fresh, translatorFor, Translator.ofLocale,
    Selector.ofLocale, Plural.Rules.ofLocale, unknown, Except.map, Except.mapError]

/-- A new locale whose code is a locale identifier is the matter of its messages. From here on it is
loading that decides, with a new translator whose cache is empty. -/
theorem catalogFor_of_known {id : LanguageId} (fresh : code ∉ library.codes)
    (known : LanguageId.parse code = .ok id) :
    library.catalogFor code displayName strings registry =
      (Messages.ofStrings (.withSelector code (Plural.Rules.ofLanguage id.dataLanguage).category
        registry library.options) strings).map fun messages =>
          { code, displayName := displayName.getD code, messages } := by
  simp [catalogFor, position?_eq_none_iff.2 fresh, translatorFor, Translator.ofLocale,
    Selector.ofLocale, Plural.Rules.ofLocale, known, Except.map, Except.mapError]

/-- **A locale is refused** for exactly these reasons. The cases of `Refusal` exclude each other, so
there is one fault. -/
theorem catalogFor_eq_error_iff (ordered : (Json.object strings).Ordered) {fault : LoadError} :
    library.catalogFor code displayName strings registry = .error fault ↔
      library.Refusal code strings fault := by
  constructor
  · intro refused
    -- The three tests in the order in which they are made.
    by_cases loaded : code ∈ library.codes
    · rw [catalogFor_of_loaded loaded] at refused
      cases refused
      exact .duplicate loaded
    cases known : LanguageId.parse code with
    | error unknown =>
        rw [catalogFor_of_unknown loaded known] at refused
        cases refused
        exact .invalid loaded known
    | ok id =>
        rw [catalogFor_of_known loaded known, map_eq_error_iff,
          Messages.ofStrings_eq_error_iff (Cache.sound_new library.options) ordered] at refused
        rcases refused with ⟨names, inner, first, rfl⟩ |
          ⟨supported, names, text, malformed, first, fails, rfl⟩
        · exact .unsupported loaded known first
        · exact .template loaded known supported first fails
  · intro refusal
    cases refusal with
    | duplicate loaded => exact catalogFor_of_loaded loaded
    | invalid fresh unknown => exact catalogFor_of_unknown fresh unknown
    | unsupported fresh known first =>
        rw [catalogFor_of_known fresh known, map_eq_error_iff,
          Messages.ofStrings_eq_error_iff (Cache.sound_new library.options) ordered]
        exact .inl ⟨_, _, first, rfl⟩
    | template fresh known supported first malformed =>
        rw [catalogFor_of_known fresh known, map_eq_error_iff,
          Messages.ofStrings_eq_error_iff (Cache.sound_new library.options) ordered]
        exact .inr ⟨supported, _, _, _, first, malformed, rfl⟩

/-- **A locale is added** when there is no reason to refuse it. -/
theorem catalogFor_isOk_iff (ordered : (Json.object strings).Ordered) :
    (∃ catalog, library.catalogFor code displayName strings registry = .ok catalog) ↔
      code ∉ library.codes ∧ (∃ id, LanguageId.parse code = .ok id) ∧
        (Json.object strings).Supported ∧ (Json.object strings).WellFormed library.options := by
  by_cases loaded : code ∈ library.codes
  · rw [catalogFor_of_loaded loaded]
    exact ⟨nofun, fun h => absurd loaded h.1⟩
  cases known : LanguageId.parse code with
  | error unknown =>
      rw [catalogFor_of_unknown loaded known]
      exact ⟨nofun, fun h => nomatch h.2.1⟩
  | ok id =>
      rw [catalogFor_of_known loaded known, map_isOk_iff,
        Messages.ofStrings_isOk_iff (Cache.sound_new library.options) ordered]
      exact ⟨fun h => ⟨loaded, ⟨id, rfl⟩, h⟩, fun h => h.2.2⟩

end Reasons

end Library

/-- **Why a locale is refused.** A locale is added exactly when its code is not loaded and is a
locale identifier, everything in its groups is a text and every text is a template. Otherwise the
fault is that of the first of these conditions that does not hold, and of the first value or text
that it does not hold of, in the order of the names; `Library.Refusal` says which, for every fault.

The path in the report is the one at which a message would be found: the dotted path, except that a
nameless group at the root is taken for the root. Formatters and the name to be displayed do not
matter. That the groups are ordered is no restriction for what is read from a file. -/
theorem locale_is_refused_for_first_fault (library : Library) (code : Text)
    (displayName : Option Text) (registry : Registry) {strings : Entries Json}
    (ordered : (Json.object strings).Ordered) :
    ((∃ next, library.addWith code displayName strings registry = .ok next) ↔
      code ∉ library.codes ∧ (∃ id, LanguageId.parse code = .ok id) ∧
        (Json.object strings).Supported ∧ (Json.object strings).WellFormed library.options) ∧
    (∀ fault, library.addWith code displayName strings registry = .error fault ↔
      library.Refusal code strings fault) ∧
    library.add code displayName strings =
      library.addWith code displayName strings library.registry ∧
    ∀ name names, Messages.pathOf [] (name :: names) =
      if name = [] then Messages.pathOf [] names else Messages.dotted (name :: names) := by
  refine ⟨?_, fun fault => ?_, rfl, fun name names => ?_⟩
  · rw [Library.addWith_eq, ← Library.catalogFor_isOk_iff ordered]
    exact map_isOk_iff
  · rw [Library.addWith_eq, ← Library.catalogFor_eq_error_iff ordered]
    exact map_eq_error_iff
  · by_cases nameless : name = []
    · subst nameless
      rfl
    · rw [if_neg nameless]
      exact Messages.pathOf_of_ne_nil nameless names

/-- A text that is no template, and something behind it that is no text. -/
def Json.twiceFaulty : Entries Json :=
  [("a".toList, .string "\x7b".toList), ("b".toList, .object [("c".toList, .array [])])]

/-- A text that is no template, and one at the same path that would take its place. -/
def Json.overwritten : Entries Json :=
  [("a".toList, .object [("b".toList, .string "\x7b".toList)]), ("a.b".toList, .string "x".toList)]

theorem locale_is_refused_for_first_fault_sample :
    ((Json.object Json.twiceFaulty).Ordered ∧
      (Library.new ∅ {}).Refusal "en".toList Json.twiceFaulty
        (.unsupportedMessage "en".toList "b.c".toList .array)) ∧
    ((Json.object Json.overwritten).Ordered ∧
      (Library.new ∅ {}).Refusal "en".toList Json.overwritten
        (.template "en".toList "a.b".toList (.unclosedBrace 0))) ∧
    (Json.object Json.menu).Ordered ∧ (Json.object Json.menu).WellFormed {} := by
  have twice : (Json.object Json.twiceFaulty).Ordered := by
    simp only [Json.twiceFaulty, Json.Ordered, Json.OrderedFields, Json.OrderedItems,
      Entries.Sorted]
    decide
  have overwritten : (Json.object Json.overwritten).Ordered := by
    simp only [Json.overwritten, Json.Ordered, Json.OrderedFields, Entries.Sorted]
    decide
  have menu : (Json.object Json.menu).Ordered := by
    simp only [Json.menu, Json.Ordered, Json.OrderedFields, Entries.Sorted]
    decide
  obtain ⟨-, refused, -⟩ := locale_is_refused_for_first_fault (Library.new ∅ {})
    "en".toList none ∅ twice
  obtain ⟨-, refused', -⟩ := locale_is_refused_for_first_fault (Library.new ∅ {})
    "en".toList none ∅ overwritten
  obtain ⟨added, -⟩ := locale_is_refused_for_first_fault (Library.new ∅ {})
    "en".toList none ∅ menu
  exact ⟨⟨twice, (refused _).1 rfl⟩, ⟨overwritten, (refused' _).1 rfl⟩, menu,
    (added.1 ⟨_, rfl⟩).2.2.2⟩

/-- A number in a nameless group. -/
def Json.namelessNumber : Entries Json :=
  [([], .object [("n".toList, .number (.integer 3))])]

/-- **A fault can be misplaced**: below a nameless group at the root, the path in the report is not
the dotted one. -/
theorem nameless_group_misplaces_fault :
    (Library.new ∅ {}).Reachable ∧ (Json.object Json.namelessNumber).Ordered ∧
    (Json.object Json.namelessNumber).IsFirst Json.Unsupported [[], "n".toList]
      (.number (.integer 3)) ∧
    (Library.new ∅ {}).add "en".toList none Json.namelessNumber =
      .error (.unsupportedMessage "en".toList "n".toList .number) ∧
    (Library.new ∅ {}).add "en".toList none Json.namelessNumber ≠
      .error (.unsupportedMessage "en".toList (Messages.dotted [[], "n".toList]) .number) := by
  have ordered : (Json.object Json.namelessNumber).Ordered := by
    simp [Json.namelessNumber, Json.Ordered, Json.OrderedFields, Entries.Sorted]
  have reported : (Library.new ∅ {}).add "en".toList none Json.namelessNumber =
      .error (.unsupportedMessage "en".toList "n".toList .number) := rfl
  refine ⟨.new ∅ {}, ordered, ?_, reported, ?_⟩
  · have noGroup (fields : List (Text × Json)) : ¬(Json.object fields).Unsupported := not_false
    exact (Json.isFirst_iff ordered noGroup).2
      ⟨[], [], rfl, fun _ mem => absurd mem List.not_mem_nil, trivial⟩
  · rw [reported, Ne, Except.error.injEq]
    decide

end LocaleText
