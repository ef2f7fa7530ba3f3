import LocaleText.Library.Messages
import LocaleText.Proofs.Caching

/-!
# LocaleText.Proofs.Loading

**Messages that load never fail later.** Loading reads every template once. It succeeds exactly when
all of them parse, and leaves the translator with a cache of exactly these texts
(`Messages.enter_eq_ok_iff`). From then on every look-up is a hit, so that reading messages in any
order changes nothing (`Messages.Ready.after`), and every message is what its template parses to:
`Messages.Faultless` says so, `Messages.faultless_of_ofFlat` and `Messages.faultless_of_ofStrings`
prove it for the two ways of loading.
-/

namespace LocaleText

/-! ### Nested groups -/

mutual

/-- The texts in a value, at any depth, each with the names that lead to it. What is neither a text
nor a group has none. -/
def Json.leaves : Json → List (List Text × Text)
  | .string text => [([], text)]
  | .object fields => leavesOf fields
  | _ => []

/-- The texts in the fields of a group. -/
def Json.leavesOf : List (Text × Json) → List (List Text × Text)
  | [] => []
  | (name, value) :: fields =>
    value.leaves.map (fun (names, text) => (name :: names, text)) ++ leavesOf fields

end

namespace Messages

/-- The path of what some names lead to, from the group at `parent`: each name is put behind the
path of its group. -/
def pathOf (parent : Text) (names : List Text) : Text :=
  names.foldl childPath parent

mutual

/-- When a value can be flattened, the result lists its texts in their order, each at its path.
Nothing is said where it cannot; a value that is no text and no group is a fault. -/
theorem eq_of_flatten {locale path : Text} : {value : Json} → {flat : List (Text × Text)} →
    flatten locale path value = .ok flat →
      flat = value.leaves.map fun (names, text) => (pathOf path names, text)
  | .string text, flat, h => by
      cases h
      rfl
  | .object fields, flat, h => by
      rw [flatten] at h
      exact eq_of_flattenFields h
  | .null, _, h | .bool _, _, h | .number _, _, h | .array _, _, h => by
      cases h

theorem eq_of_flattenFields {locale parent : Text} : {fields : List (Text × Json)} →
    {flat : List (Text × Text)} → flattenFields locale parent fields = .ok flat →
      flat = (Json.leavesOf fields).map fun (names, text) => (pathOf parent names, text)
  | [], flat, h => by
      cases h
      rfl
  | (name, value) :: fields, flat, h => by
      rw [flattenFields] at h
      cases front : flatten locale (childPath parent name) value with
      | error fault =>
          simp only [front] at h
          cases h
      | ok texts =>
          cases back : flattenFields locale parent fields with
          | error fault =>
              simp only [front, back] at h
              cases h
          | ok others =>
              simp only [front, back] at h
              cases h
              rw [eq_of_flatten front, eq_of_flattenFields back, Json.leavesOf, List.map_append,
                List.map_map]
              rfl

end

/-! ### Loading -/

/-- The look-ups that loading makes, one for each template. -/
def loadSteps (entries : List (Text × Text)) : List Cache.Step :=
  entries.map fun entry => .resolve entry.2

/-- The templates with those of some entries, a later one in place of an earlier one of its path.
This is the table that loading ends with, the cache apart. -/
def entered (templates : Table Text) (entries : List (Text × Text)) : Table Text :=
  entries.foldl (fun templates (key, text) => templates.insert key text) templates

/-- **Loading** succeeds exactly when every template parses, and then has made one look-up for each
of them. The induction is on the entries with the translator general: each look-up changes its
cache, which stays sound and keeps its options, so that what the next one finds is still what
parsing gives. -/
theorem enter_eq_ok_iff {translator : Translator} (sound : translator.cache.Sound)
    {templates : Table Text} {entries : List (Text × Text)} {messages : Messages} :
    enter translator templates entries = .ok messages ↔
      (∀ entry ∈ entries, (Template.parse translator.cache.options entry.2).isOk = true) ∧
        messages =
          { translator := some
              { translator with cache := translator.cache.after (loadSteps entries) }
            templates := entered templates entries } := by
  induction entries generalizing translator templates with
  | nil =>
      refine ⟨fun h => ?_, fun h => ?_⟩
      · cases h
        exact ⟨nofun, rfl⟩
      · rw [h.2]
        rfl
  | cons entry entries ih =>
      obtain ⟨key, text⟩ := entry
      have later := @ih { translator with cache := (translator.cache.resolve text).2 }
        (sound.perform (.resolve text)) (templates.insert key text)
      have options : (translator.cache.resolve text).2.options = translator.cache.options :=
        translator.cache.options_perform (.resolve text)
      have prepared : translator.prepare text =
          ((translator.cache.resolve text).1.map CacheEntry.template,
            { translator with cache := (translator.cache.resolve text).2 }) := rfl
      rw [options] at later
      rw [enter, List.forall_mem_cons, ← sound.resolve_fst text, prepared]
      cases (translator.cache.resolve text).1 with
      | error fault => exact ⟨nofun, fun h => nomatch h.1.1⟩
      | ok found => exact later.trans (and_congr_left' ⟨fun all => ⟨rfl, all⟩, And.right⟩)

/-- The texts that loading leaves in a new cache are those of the templates. Nothing is cleared on
the way, and every text is remembered because it parses. -/
theorem rememberedTexts_loadSteps {options : ParseOptions} {entries : List (Text × Text)}
    (parses : ∀ entry ∈ entries, (Template.parse options entry.2).isOk = true) :
    Cache.rememberedTexts options (loadSteps entries) = entries.map Prod.snd := by
  have unbroken : Cache.sinceClear (loadSteps entries) = loadSteps entries := by
    refine List.rtakeWhile_eq_self_iff.2 fun step mem => ?_
    obtain ⟨entry, -, rfl⟩ := List.mem_map.1 mem
    rfl
  have texts : (loadSteps entries).filterMap Cache.Step.text? = entries.map Prod.snd := by
    rw [loadSteps, List.filterMap_map, ← List.filterMap_eq_map]
    rfl
  rw [Cache.rememberedTexts, unbroken, texts, List.filter_eq_self]
  intro text mem
  obtain ⟨entry, here, rfl⟩ := List.mem_map.1 mem
  exact parses entry here

/-- What is entered comes from the entries or was there before. An entry may also be lost, to a
later one of its path. -/
theorem mem_entered {templates : Table Text} {entries : List (Text × Text)} {entry : Text × Text}
    (h : entry ∈ (entered templates entries).entries) :
    entry ∈ entries ∨ entry ∈ templates.entries := by
  induction entries generalizing templates with
  | nil => exact .inr h
  | cons first rest ih =>
      rcases ih h with later | here
      · exact .inl (List.mem_cons_of_mem first later)
      · rcases Entries.mem_insert here with same | before
        · exact .inl (List.mem_cons.2 (.inl same))
        · exact .inr before

/-! ### Reading messages -/

/-- What can be done with messages. All but the last two are about the message at a path, and do
nothing if there is none. -/
inductive Reading where
  | text (key : Text) (arguments : List Json)
  | get (key : Text)
  | call (key : Text) (arguments : List Json)
  | call? (key : Text) (arguments : List Json)
  | isPlural (key : Text)
  | argumentKeys (key : Text)
  | children (group : Text)
  | keys

/-- The messages after an operation on the message at a path, if there is one, and as they were if
there is none. -/
def onMessage (messages : Messages) (key : Text) (operation : Message → Messages) : Messages :=
  match messages.find? key with
  | some message => operation message
  | none => messages

/-- The messages after a reading. -/
def afterReading (messages : Messages) : Reading → Messages
  | .text key arguments => (messages.text key arguments).2
  | .call key arguments => messages.onMessage key fun message => (messages.call message arguments).2
  | .call? key arguments =>
    messages.onMessage key fun message => (messages.call? message arguments).2
  | .isPlural key => messages.onMessage key fun message => (messages.isPlural message).2
  | .argumentKeys key => messages.onMessage key fun message => (messages.argumentKeys message).2
  | .get _ | .children _ | .keys => messages

/-- The messages after some readings. -/
def after (messages : Messages) (readings : List Reading) : Messages :=
  readings.foldl afterReading messages

/-- The translator of the messages has an entry for every template. It is with such a translator
that loading ends, and every reading preserves it, because it changes nothing. -/
structure Ready (messages : Messages) (translator : Translator) : Prop where
  /-- It is their translator. -/
  bound : messages.translator = some translator
  /-- Its entries are what their texts parse to. -/
  sound : translator.cache.Sound
  /-- Every template has one. -/
  known : ∀ message ∈ messages.toList, translator.cache.contains message.template = true

section Ready

variable {messages : Messages} {translator : Translator}

/-- A message that is found is one of the messages. -/
theorem mem_toList_of_find? {key : Text} {message : Message}
    (h : messages.find? key = some message) : message ∈ messages.toList := by
  obtain ⟨template, found, rfl⟩ := Option.map_eq_some_iff.1 h
  exact List.mem_map.2 ⟨(key, template), Entries.mem_of_find? found, rfl⟩

/-- **A message with an entry** is what its template parses to, and reading it changes nothing.
Whatever is asked of the message goes through one look-up of its template, which is a hit; a hit
returns the cache as it was. -/
theorem Ready.reads (ready : messages.Ready translator) {message : Message}
    (mem : message ∈ messages.toList) :
    ∃ template, Template.parse translator.cache.options message.template = .ok template ∧
      (∀ arguments,
        messages.call? message arguments =
          (.ok (template.render translator.select translator.registry (Arguments.ofList arguments)),
            messages) ∧
        messages.call message arguments =
          (template.render translator.select translator.registry (Arguments.ofList arguments),
            messages)) ∧
      messages.isPlural message = (template.isPlural, messages) ∧
      messages.argumentKeys message = (template.keys, messages) := by
  obtain ⟨entry, found⟩ := Option.isSome_iff_exists.1 (ready.known message mem)
  -- The one look-up that every reading goes through.
  have hit : translator.cache.resolve message.template = (.ok entry, translator.cache) := by
    rw [Cache.resolve, found]
  have prepared : translator.prepare message.template = (.ok entry.template, translator) := by
    rw [Translator.prepare, hit]
    rfl
  have rendered (arguments : List Json) :
      translator.translate? message.template arguments =
        (.ok (entry.template.render translator.select translator.registry
          (Arguments.ofList arguments)), translator) := by
    rw [Translator.translate?, Cache.render, hit]
    rfl
  have same : { messages with translator := some translator } = messages := by
    rw [← ready.bound]
  refine ⟨entry.template, ready.sound.parsed found, fun arguments => ⟨?_, ?_⟩, ?_, ?_⟩
  · simp only [call?, withTranslator, ready.bound, rendered, same]
  · simp only [call, withTranslator, ready.bound, Translator.translate, rendered, same]
  · simp only [isPlural, inspect, withTranslator, ready.bound, prepared, same]
  · simp only [argumentKeys, inspect, withTranslator, ready.bound, prepared, same]

/-- **A reading** changes nothing. Either there is no message at the path, or the one there is has
an entry. -/
theorem Ready.afterReading (ready : messages.Ready translator) (reading : Reading) :
    messages.afterReading reading = messages := by
  have unchanged (key : Text) {operation : Message → Messages}
      (h : ∀ message ∈ messages.toList, operation message = messages) :
      messages.onMessage key operation = messages := by
    unfold onMessage
    cases found : messages.find? key with
    | none => rfl
    | some message => exact h message (mem_toList_of_find? found)
  cases reading with
  | get key => rfl
  | children group => rfl
  | keys => rfl
  | text key arguments =>
      show (messages.text key arguments).2 = messages
      unfold text
      cases found : messages.find? key with
      | none => rfl
      | some message =>
          obtain ⟨template, -, shows, -⟩ := ready.reads (mem_toList_of_find? found)
          exact congrArg Prod.snd (shows arguments).2
  | call key arguments =>
      refine unchanged key fun message mem => ?_
      obtain ⟨template, -, shows, -⟩ := ready.reads mem
      exact congrArg Prod.snd (shows arguments).2
  | call? key arguments =>
      refine unchanged key fun message mem => ?_
      obtain ⟨template, -, shows, -⟩ := ready.reads mem
      exact congrArg Prod.snd (shows arguments).1
  | isPlural key =>
      refine unchanged key fun message mem => ?_
      obtain ⟨template, -, -, plural, -⟩ := ready.reads mem
      exact congrArg Prod.snd plural
  | argumentKeys key =>
      refine unchanged key fun message mem => ?_
      obtain ⟨template, -, -, -, keys⟩ := ready.reads mem
      exact congrArg Prod.snd keys

/-- Readings in any order change nothing, by induction on their list. -/
theorem Ready.after (ready : messages.Ready translator) (readings : List Reading) :
    messages.after readings = messages := by
  induction readings with
  | nil => rfl
  | cons reading rest ih =>
      show (messages.afterReading reading).after rest = messages
      rw [ready.afterReading, ih]

end Ready

/-! ### Messages that have been loaded -/

/-- Messages loaded from templates with these texts read as their templates parse, whatever is done
with them. In particular no call of a message fails, and the two ways to call it show the same. -/
structure Faultless (options : ParseOptions) (select : Selector) (registry : Registry)
    (texts : List Text) (messages : Messages) : Prop where
  /-- Every message is what its template parses to. -/
  reads : ∀ message ∈ messages.toList, ∃ template,
    Template.parse options message.template = .ok template ∧
    (∀ arguments,
      (messages.call? message arguments).1 =
        .ok (template.render select registry (Arguments.ofList arguments)) ∧
      (messages.call message arguments).1 =
        template.render select registry (Arguments.ofList arguments)) ∧
    (messages.isPlural message).1 = template.isPlural ∧
    (messages.argumentKeys message).1 = template.keys
  /-- The cache of their translator holds exactly these texts, each once. -/
  cached : ∃ translator, messages.translator = some translator ∧
    (∀ text, translator.cache.contains text = true ↔ text ∈ texts) ∧
    translator.cache.size = texts.dedup.length
  /-- Reading them in any order changes nothing. -/
  stays : ∀ readings, messages.after readings = messages

section Loaded

variable {locale : Text} {select : Selector} {registry : Registry} {options : ParseOptions}
  {entries : List (Text × Text)} {strings : Entries Json} {messages : Messages}

/-- What loading with a new translator gives. The cache of a new translator is empty, and so is
sound. -/
theorem ofFlat_eq_ok_iff :
    ofFlat (Translator.withSelector locale select registry options) entries = .ok messages ↔
      (∀ entry ∈ entries, (Template.parse options entry.2).isOk = true) ∧
        messages =
          { translator := some
              { locale, select, registry
                cache := (Cache.new options).after (loadSteps entries) }
            templates := entered ∅ entries } :=
  enter_eq_ok_iff (Cache.sound_new options)

/-- Messages loaded from texts at their paths are faultless. Both the paths and the texts can be
any, as long as the texts parse, which loading has found out. -/
theorem faultless_of_ofFlat
    (h : ofFlat (Translator.withSelector locale select registry options) entries = .ok messages) :
    Faultless options select registry (entries.map Prod.snd) messages := by
  obtain ⟨parses, rfl⟩ := ofFlat_eq_ok_iff.1 h
  have remembered := rememberedTexts_loadSteps parses
  have holds (text : Text) : ((Cache.new options).after (loadSteps entries)).contains text = true ↔
      text ∈ entries.map Prod.snd := by
    rw [Cache.contains_after, remembered]
  -- Every message was entered, hence looked up, hence remembered.
  have ready : Ready
      { translator := some
          { locale, select, registry, cache := (Cache.new options).after (loadSteps entries) }
        templates := entered ∅ entries }
      { locale, select, registry, cache := (Cache.new options).after (loadSteps entries) } := by
    refine ⟨rfl, (Cache.sound_new options).after _, fun message mem => (holds _).2 ?_⟩
    obtain ⟨entry, stored, rfl⟩ := List.mem_map.1 mem
    rcases mem_entered stored with here | none
    · exact List.mem_map_of_mem here
    · cases none
  refine ⟨fun message mem => ?_, ⟨_, rfl, holds, ?_⟩, ready.after⟩
  · obtain ⟨template, parsed, shows, plural, keys⟩ := ready.reads mem
    rw [Cache.options_after] at parsed
    exact ⟨template, parsed, fun arguments =>
      ⟨congrArg Prod.fst (shows arguments).1, congrArg Prod.fst (shows arguments).2⟩,
      congrArg Prod.fst plural, congrArg Prod.fst keys⟩
  · rw [Cache.size_after, remembered]

/-- Nested groups load as the texts in them, each at its path. -/
theorem ofFlat_of_ofStrings {translator : Translator}
    (h : ofStrings translator strings = .ok messages) :
    ofFlat translator ((Json.leavesOf strings).map fun (names, text) => (pathOf [] names, text)) =
      .ok messages := by
  rw [ofStrings] at h
  cases flat : flattenFields translator.locale [] strings with
  | error fault =>
      rw [flat] at h
      cases h
  | ok entries =>
      rw [flat] at h
      rw [← eq_of_flattenFields flat]
      exact h

/-- Messages loaded from nested groups are faultless. -/
theorem faultless_of_ofStrings
    (h : ofStrings (Translator.withSelector locale select registry options) strings =
      .ok messages) :
    Faultless options select registry ((Json.leavesOf strings).map Prod.snd) messages := by
  have faultless := faultless_of_ofFlat (ofFlat_of_ofStrings h)
  rwa [List.map_map] at faultless

end Loaded

end Messages

end LocaleText
