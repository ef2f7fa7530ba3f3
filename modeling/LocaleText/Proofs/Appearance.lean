import LocaleText.Proofs.Fallback

/-!
# LocaleText.Proofs.Appearance

**What can be seen of a library.** A view holds all that a library shows: its locales, what they
count and lack, their messages and what these render to (`Library.view`). What translators remember
is not seen: a sound library looks like the one whose translators are new
(`Library.Sound.view_renewed`). So libraries that differ in nothing else (`Library.Alike`) look
alike.

A change of the translators, here to new ones, leaves codes and paths in place; what looks only at
these is unchanged (`Library.mapTranslators`).
-/

namespace LocaleText

/-! ### Changing the translators -/

/-- The messages with their translator changed. -/
def Messages.mapTranslator (f : Translator → Translator) (messages : Messages) : Messages :=
  { messages with translator := messages.translator.map f }

/-- The locale with its translator changed. -/
def Catalog.mapTranslator (f : Text → Translator → Translator) (catalog : Catalog) : Catalog :=
  { catalog with messages := catalog.messages.mapTranslator (f catalog.code) }

/-- The library with the translator of every locale changed. -/
def Library.mapTranslators (f : Text → Translator → Translator) (library : Library) : Library :=
  { library with catalogs := library.catalogs.map (Catalog.mapTranslator f) }

namespace Messages

variable (f : Translator → Translator) (messages : Messages)

@[simp] theorem find?_mapTranslator (key : Text) :
    (messages.mapTranslator f).find? key = messages.find? key := rfl

@[simp] theorem contains_mapTranslator (key : Text) :
    (messages.mapTranslator f).contains key = messages.contains key := rfl

@[simp] theorem keys_mapTranslator : (messages.mapTranslator f).keys = messages.keys := rfl

@[simp] theorem size_mapTranslator : (messages.mapTranslator f).size = messages.size := rfl

@[simp] theorem toList_mapTranslator : (messages.mapTranslator f).toList = messages.toList := rfl

end Messages

namespace Library

variable (f : Text → Translator → Translator) (library : Library) (code key : Text)

@[simp] theorem getElem?_mapTranslators (index : Nat) :
    (library.mapTranslators f).catalogs[index]? =
      library.catalogs[index]?.map (Catalog.mapTranslator f) := by
  simp [mapTranslators]

/-- The codes of the locales, and with them their places, are read off before any translator is
asked. The lemmas that follow say the same of all that looks only at codes and paths. -/
@[simp] theorem codes_mapTranslators : (library.mapTranslators f).codes = library.codes := by
  simp [mapTranslators, codes, Catalog.mapTranslator]

@[simp] theorem position?_mapTranslators :
    (library.mapTranslators f).position? code = library.position? code := by
  rw [position?, mapTranslators, List.findIdx?_map]
  rfl

@[simp] theorem catalog?_mapTranslators :
    (library.mapTranslators f).catalog? code =
      (library.catalog? code).map (Catalog.mapTranslator f) := by
  rw [catalog?, mapTranslators, List.find?_map]
  rfl

@[simp] theorem activeCatalog?_mapTranslators :
    (library.mapTranslators f).activeCatalog? =
      library.activeCatalog?.map (Catalog.mapTranslator f) := by
  cases h : library.active <;> simp [activeCatalog?, mapTranslators, h]

@[simp] theorem fallbackCatalog?_mapTranslators :
    (library.mapTranslators f).fallbackCatalog? =
      library.fallbackCatalog?.map (Catalog.mapTranslator f) := by
  cases h : library.fallback <;> simp [fallbackCatalog?, mapTranslators, h]

@[simp] theorem missingKeys?_mapTranslators :
    (library.mapTranslators f).missingKeys? code = library.missingKeys? code := by
  unfold missingKeys?
  cases own : library.catalog? code <;> cases fallback : library.fallbackCatalog? <;>
    simp [own, fallback, Catalog.mapTranslator]

@[simp] theorem localeHasKey_mapTranslators :
    (library.mapTranslators f).localeHasKey code key = library.localeHasKey code key := by
  unfold localeHasKey messages?
  cases found : library.catalog? code <;> simp [found, Catalog.mapTranslator]

/-- Which locale serves a key is decided by the paths of its messages alone. -/
@[simp] theorem serving?_mapTranslators :
    (library.mapTranslators f).serving? key = library.serving? key := by
  show List.findSome? _ [library.active, library.fallback] = List.findSome? _ _
  congr 1
  funext candidate
  congr 1
  funext index
  cases here : library.catalogs[index]? <;> simp [here, Catalog.mapTranslator]

@[simp] theorem message?_mapTranslators :
    (library.mapTranslators f).message? key =
      (library.message? key).map fun (catalog, message) => (catalog.mapTranslator f, message) := by
  simp only [message?, serving?_mapTranslators, getElem?_mapTranslators, Option.map_bind,
    Option.bind_map, Function.comp_def, Option.map_map]
  rfl

end Library

/-! ### Views -/

/-- What a message shows: its place and its text, what is told of it, and what it renders to, with a
fault and without. The last two are functions, so that a view holds the answers to all calls. -/
structure MessageView where
  key : Text
  template : Text
  isPlural : Bool
  argumentKeys : List Text
  call : List Json → Text
  call? : List Json → Except TemplateError Text

/-- What the messages of a locale show. -/
structure MessagesView where
  locale? : Option Text
  size : Nat
  keys : List Text
  all : List MessageView
  contains : Text → Bool
  find? : Text → Option MessageView
  children : Text → List MessageView
  text : Text → List Json → Text

/-- What a library shows: everything that can be asked of it without changing it, for every locale,
key and list of arguments. Two libraries with one view cannot be told apart by a single question. -/
structure LibraryView where
  summaries : List (Text × Text)
  active : Option Nat
  activeCode? : Option Text
  fallbackCode? : Option Text
  statistics : List Statistics
  missingKeys? : Text → Option (List Text)
  localeHasKey : Text → Text → Bool
  messages? : Text → Option MessagesView
  activeMessages? : Option MessagesView
  message? : Text → Option (Text × MessageView)
  text : Text → List Json → Text

namespace Messages

/-- What one of the messages shows. -/
def viewOf (messages : Messages) (message : Message) : MessageView where
  key := message.key
  template := message.template
  isPlural := (messages.isPlural message).1
  argumentKeys := (messages.argumentKeys message).1
  call arguments := (messages.call message arguments).1
  call? arguments := (messages.call? message arguments).1

/-- What the messages show. -/
def view (messages : Messages) : MessagesView where
  locale? := messages.locale?
  size := messages.size
  keys := messages.keys
  all := messages.toList.map messages.viewOf
  contains := messages.contains
  find? key := (messages.find? key).map messages.viewOf
  children group := (messages.children group).map messages.viewOf
  text key arguments := (messages.text key arguments).1

end Messages

/-- What a library shows. -/
def Library.view (library : Library) : LibraryView where
  summaries := library.catalogs.map fun catalog => (catalog.code, catalog.displayName)
  active := library.active
  activeCode? := library.activeCode?
  fallbackCode? := library.fallbackCode?
  statistics := library.statistics
  missingKeys? := library.missingKeys?
  localeHasKey := library.localeHasKey
  messages? code := (library.messages? code).map Messages.view
  activeMessages? := library.activeCatalog?.map fun catalog => catalog.messages.view
  message? key := (library.message? key).map fun (catalog, message) =>
    (catalog.code, catalog.messages.viewOf message)
  text key arguments := (library.text key arguments).1

/-! ### What translators remember -/

/-- The translator with a new cache. -/
def Translator.renewed (translator : Translator) : Translator :=
  { translator with cache := Cache.new translator.cache.options }

/-- The messages with a new cache. -/
def Messages.renewed (messages : Messages) : Messages :=
  messages.mapTranslator Translator.renewed

/-- The library with new caches. -/
def Library.renewed (library : Library) : Library :=
  library.mapTranslators fun _ => Translator.renewed

/-- What the translator of the messages remembers is what it has read. Without that a new translator
might answer otherwise. -/
def Messages.Reliable (messages : Messages) : Prop :=
  ∀ translator, messages.translator = some translator → translator.cache.Sound

namespace Translator

variable {translator : Translator} (sound : translator.cache.Sound) (text : Text)
  (arguments : List Json)
include sound

/-- What a translator makes of a text does not depend on what it remembers, as long as it remembers
what it has read (`Cache.Sound`). The same holds of what it translates a text to, with a fault or
without. -/
theorem prepare_renewed : (translator.renewed.prepare text).1 = (translator.prepare text).1 := by
  rw [prepare_fst sound, prepare_fst (Cache.sound_new _)]
  rfl

theorem translate?_renewed :
    (translator.renewed.translate? text arguments).1 =
      (translator.translate? text arguments).1 := by
  rw [translate?_fst sound, translate?_fst (Cache.sound_new _)]
  rfl

theorem translate_renewed :
    (translator.renewed.translate text arguments).1 = (translator.translate text arguments).1 := by
  rw [translate_fst sound, translate_fst (Cache.sound_new _)]
  rfl

end Translator

namespace Messages

variable {messages : Messages}

/-- What is asked of a translator with a reliable memory is answered by a new one alike. This is the
only place where the translator of the messages is looked at; the lemmas on single questions name
the operation. -/
theorem Reliable.withTranslator_fst (reliable : messages.Reliable) {α : Type} (absent : α)
    {operation : Translator → α × Translator}
    (alike : ∀ translator : Translator, translator.cache.Sound →
      (operation translator.renewed).1 = (operation translator).1) :
    (messages.renewed.withTranslator absent operation).1 =
      (messages.withTranslator absent operation).1 := by
  cases bound : messages.translator with
  | none => simp [withTranslator, renewed, mapTranslator, bound]
  | some translator =>
      simp [withTranslator, renewed, mapTranslator, bound, alike translator (reliable _ bound)]

/-- Inspecting a message reads its template and applies a function to it. Only the reading involves
the memory. -/
theorem Reliable.inspect_fst (reliable : messages.Reliable) {α : Type} (message : Message)
    (absent : α) (f : Template → α) :
    (messages.renewed.inspect message absent f).1 = (messages.inspect message absent f).1 := by
  refine reliable.withTranslator_fst absent fun translator sound => ?_
  have same := Translator.prepare_renewed sound message.template
  rcases read : translator.renewed.prepare message.template with ⟨result, _⟩
  rcases read' : translator.prepare message.template with ⟨result', _⟩
  simp only [read, read'] at same
  subst same
  cases result <;> rfl

theorem Reliable.call_fst (reliable : messages.Reliable) (message : Message)
    (arguments : List Json) :
    (messages.renewed.call message arguments).1 = (messages.call message arguments).1 :=
  reliable.withTranslator_fst message.template fun _ sound =>
    Translator.translate_renewed sound message.template arguments

theorem Reliable.call?_fst (reliable : messages.Reliable) (message : Message)
    (arguments : List Json) :
    (messages.renewed.call? message arguments).1 = (messages.call? message arguments).1 :=
  reliable.withTranslator_fst (Except.ok message.template) fun _ sound =>
    Translator.translate?_renewed sound message.template arguments

theorem Reliable.text_fst (reliable : messages.Reliable) (key : Text) (arguments : List Json) :
    (messages.renewed.text key arguments).1 = (messages.text key arguments).1 := by
  unfold text
  cases found : messages.find? key with
  | none => simp [renewed, found]
  | some message => simpa [renewed, found] using reliable.call_fst message arguments

theorem Reliable.viewOf_renewed (reliable : messages.Reliable) :
    messages.renewed.viewOf = messages.viewOf := by
  funext message
  simp only [viewOf, isPlural, argumentKeys, reliable.inspect_fst, reliable.call_fst,
    reliable.call?_fst]

/-- All that messages show is shown by the same messages with a new memory. -/
theorem Reliable.view_renewed (reliable : messages.Reliable) :
    messages.renewed.view = messages.view := by
  have locale : messages.renewed.locale? = messages.locale? := by
    simp [locale?, renewed, mapTranslator, Function.comp_def, Translator.renewed]
  simp only [view, locale, reliable.viewOf_renewed, reliable.text_fst]
  rfl

end Messages

/-- Counting the plural messages of a locale inspects each of them. -/
theorem Messages.Reliable.statistics_renewed {catalog : Catalog}
    (reliable : catalog.messages.Reliable) :
    (catalog.mapTranslator fun _ => Translator.renewed).statistics = catalog.statistics := by
  have plural (message : Message) : (catalog.messages.renewed.isPlural message).1 =
      (catalog.messages.isPlural message).1 := reliable.inspect_fst message false Template.isPlural
  simp only [Messages.renewed] at plural
  simp [Catalog.statistics, Catalog.mapTranslator, plural]

/-- Messages that have been loaded remember what has been read: their cache is the one that loading
leaves behind, and loading starts from an empty one. -/
theorem Catalog.Loaded.reliable {options : ParseOptions} {catalog : Catalog}
    (loaded : catalog.Loaded options) : catalog.messages.Reliable := by
  obtain ⟨select, registry, entries, -, built⟩ := loaded
  obtain ⟨-, same⟩ := Messages.ofFlat_eq_ok_iff.1 built
  intro translator bound
  rw [same] at bound
  cases bound
  exact (Cache.sound_new options).after _

namespace Library

variable {library library' : Library}

/-- What a key renders to, over active locale, fallback and the key itself. Both libraries are
served by the same locale, or by none. -/
theorem Sound.text_renewed (sound : library.Sound) (key : Text) (arguments : List Json) :
    (library.renewed.text key arguments).1 = (library.text key arguments).1 := by
  have found : library.renewed.message? key = _ := message?_mapTranslators _ library key
  cases served : library.message? key with
  | none =>
      rw [served] at found
      rw [text_of_no_message arguments served, text_of_no_message arguments found]
  | some serving =>
      obtain ⟨catalog, message⟩ := serving
      rw [served] at found
      obtain ⟨mem, -⟩ := mem_of_message? served
      rw [text_of_message? arguments served, text_of_message? arguments found]
      exact (sound.loaded catalog mem).reliable.call_fst message arguments

/-- **What translators remember** is not seen. A sound library holds loaded locales only, so every
memory is reliable, and each field of the view is either free of translators or covered by one of
the lemmas above. -/
theorem Sound.view_renewed (sound : library.Sound) : library.renewed.view = library.view := by
  have reliable {catalog : Catalog} (mem : catalog ∈ library.catalogs) :
      catalog.messages.Reliable := (sound.loaded catalog mem).reliable
  unfold view
  congr 1
  · -- The first fields are read from codes and indices, which renewing leaves alone. From the
    -- statistics on, translators are asked, and what they answer is what they would answer when
    -- new.
    simp [renewed, mapTranslators, Catalog.mapTranslator]
  · simp [renewed, activeCode?, Function.comp_def, Catalog.mapTranslator]
  · simp [renewed, fallbackCode?, Function.comp_def, Catalog.mapTranslator]
  · simp only [statistics, renewed, mapTranslators, List.map_map]
    exact List.map_congr_left fun catalog mem => (reliable mem).statistics_renewed
  · funext code
    simp [renewed]
  · funext code key
    simp [renewed]
  · funext code
    cases found : library.catalog? code with
    | none => simp [renewed, messages?, found]
    | some catalog =>
        have mem : catalog ∈ library.catalogs := List.mem_of_find?_eq_some found
        simpa [renewed, Messages.renewed, messages?, found, Catalog.mapTranslator] using
          (reliable mem).view_renewed
  · cases active : library.activeCatalog? with
    | none => simp [renewed, active]
    | some catalog =>
        simpa [renewed, Messages.renewed, active, Catalog.mapTranslator] using
          (reliable (mem_of_activeCatalog? active)).view_renewed
  · funext key
    cases served : library.message? key with
    | none => simp [renewed, served]
    | some serving =>
        have same := congrFun (reliable (mem_of_message? served).1).viewOf_renewed serving.2
        simpa [renewed, Messages.renewed, served, Catalog.mapTranslator] using same
  · funext key arguments
    exact sound.text_renewed key arguments

/-! ### Libraries that look alike -/

/-- The libraries are the same but for what their translators remember. Renewing both makes them
equal, which turns the relation into an equation that rewriting can use. -/
def Alike (library library' : Library) : Prop :=
  library.renewed = library'.renewed

theorem Alike.symm (alike : library.Alike library') : library'.Alike library :=
  Eq.symm alike

theorem Alike.trans {library'' : Library} (alike : library.Alike library')
    (alike' : library'.Alike library'') : library.Alike library'' :=
  Eq.trans alike alike'

/-- **Libraries that look alike** cannot be told apart by a question, as both look like the one with
new translators. -/
theorem Alike.view_eq (alike : library.Alike library') (sound : library.Sound)
    (sound' : library'.Sound) : library.view = library'.view := by
  rw [← sound.view_renewed, ← sound'.view_renewed, alike]

/-- The answers to some operations. -/
def answers (library : Library) : List Operation → List (Except LoadError Bool)
  | [] => []
  | operation :: rest =>
    (library.perform operation).1 :: (library.perform operation).2.answers rest

/-- Whatever is done with both libraries, they answer alike and look alike. The operations come
first: a question asked later finds what was done in between. -/
structure Indistinguishable (library library' : Library) : Prop where
  /-- The same operations succeed, with the same results, and the others fail with the same faults.
  -/
  answer : ∀ operations, library.answers operations = library'.answers operations
  /-- After the same operations, everything that can be asked is answered alike. -/
  look : ∀ operations, (library.after operations).view = (library'.after operations).view

end Library
end LocaleText
