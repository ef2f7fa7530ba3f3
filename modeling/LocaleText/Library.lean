import LocaleText.Library.Messages

/-!
# Libraries of locales

A library holds the messages of several locales, one of them active and one the fallback. A message
is looked up in the active locale and then in the fallback. The first locale that is added becomes
both; adding more changes neither.

The operations that can fail are written as they happen, one change after the other (`LibraryM`).
A fault undoes nothing by itself; that these operations leave the library as it was when they fail
is due to the order of their steps.
-/

namespace LocaleText

/-- A locale and its messages. -/
structure Catalog where
  /-- The code of the locale. -/
  code : Text
  /-- The name under which the locale is listed. -/
  displayName : Text
  /-- The messages. -/
  messages : Messages

/-- The locales that are loaded. -/
structure Library where
  /-- The locales in the order in which they were loaded. -/
  catalogs : List Catalog
  /-- The position of the active locale. -/
  active : Option Nat
  /-- The position of the fallback locale. -/
  fallback : Option Nat
  /-- The formatters that messages see, unless a locale has its own. -/
  registry : Registry
  /-- How templates are read. -/
  options : ParseOptions

/-- An operation that changes a library step by step. What has been changed before a fault stops it
stays changed. -/
abbrev LibraryM (α : Type) := ExceptT LoadError (StateM Library) α

namespace LibraryM

variable {α β : Type}

/-- The result of an operation, or the fault that stopped it, and the library after it. -/
def apply (operation : LibraryM α) (library : Library) : Except LoadError α × Library :=
  operation.run.run library

/-- The result of an operation and the library after it, or the fault that stopped it. -/
def outcome (operation : LibraryM α) (library : Library) : Except LoadError (α × Library) :=
  match operation.apply library with
  | (.ok result, after) => .ok (result, after)
  | (.error fault, _) => .error fault

@[simp] theorem apply_pure (value : α) (library : Library) :
    apply (pure value) library = (.ok value, library) := rfl

@[simp] theorem apply_get (library : Library) : apply get library = (.ok library, library) := rfl

@[simp] theorem apply_modify (change : Library → Library) (library : Library) :
    apply (modify change) library = (.ok (), change library) := rfl

@[simp] theorem apply_modifyGet (change : Library → α × Library) (library : Library) :
    apply (modifyGet change) library = (.ok (change library).1, (change library).2) := rfl

@[simp] theorem apply_throw (fault : LoadError) (library : Library) :
    apply (throw fault : LibraryM α) library = (.error fault, library) := rfl

@[simp] theorem apply_liftM (result : Except LoadError α) (library : Library) :
    apply (liftM result) library = (result, library) := rfl

@[simp] theorem apply_bind (first : LibraryM α) (next : α → LibraryM β) (library : Library) :
    apply (first >>= next) library =
      match apply first library with
      | (.ok value, after) => apply (next value) after
      | (.error fault, after) => (.error fault, after) := by
  simp only [apply, ExceptT.run_bind, StateT.run_bind]
  rcases StateT.run (ExceptT.run first) library with ⟨result, after⟩
  cases result <;> rfl

@[simp] theorem apply_map (f : α → β) (operation : LibraryM α) (library : Library) :
    apply (f <$> operation) library =
      match apply operation library with
      | (.ok value, after) => (.ok (f value), after)
      | (.error fault, after) => (.error fault, after) := by
  rw [map_eq_pure_bind, apply_bind]
  rcases apply operation library with ⟨result, after⟩
  cases result <;> rfl

end LibraryM

/-- The number of messages of a locale. -/
structure Statistics where
  /-- The code of the locale. -/
  code : Text
  /-- The name under which the locale is listed. -/
  displayName : Text
  /-- The number of messages. -/
  total : Nat
  /-- The number of messages with a plural block. -/
  plural : Nat
  deriving DecidableEq, Repr

namespace Catalog

/-- The messages counted. -/
def statistics (catalog : Catalog) : Statistics where
  code := catalog.code
  displayName := catalog.displayName
  total := catalog.messages.size
  plural := catalog.messages.toList.countP fun message => (catalog.messages.isPlural message).1

end Catalog

namespace Library

/-- A library without locales. -/
def new (registry : Registry) (options : ParseOptions) : Library :=
  { catalogs := [], active := none, fallback := none, registry := registry, options := options }

/-- The position of a locale. -/
def position? (library : Library) (code : Text) : Option Nat :=
  library.catalogs.findIdx? fun catalog => catalog.code = code

/-- The locale with that code. -/
def catalog? (library : Library) (code : Text) : Option Catalog :=
  library.catalogs.find? fun catalog => catalog.code = code

/-- The active locale. -/
def activeCatalog? (library : Library) : Option Catalog :=
  library.active.bind fun index => library.catalogs[index]?

/-- The fallback locale. -/
def fallbackCatalog? (library : Library) : Option Catalog :=
  library.fallback.bind fun index => library.catalogs[index]?

/-- The code of the active locale. -/
def activeCode? (library : Library) : Option Text :=
  library.activeCatalog?.map Catalog.code

/-- The code of the fallback locale. -/
def fallbackCode? (library : Library) : Option Text :=
  library.fallbackCatalog?.map Catalog.code

/-- The messages of a locale. -/
def messages? (library : Library) (code : Text) : Option Messages :=
  (library.catalog? code).map Catalog.messages

/-- A translator for a locale of the library. -/
def translatorFor (library : Library) (code : Text) (registry : Registry) :
    Except LoadError Translator :=
  (Translator.ofLocale code registry library.options).mapError (.invalidLocale code)

/-- Adds a locale whose messages see only the given formatters. -/
def insertWith (code : Text) (displayName : Option Text) (strings : Entries Json)
    (registry : Registry) : LibraryM Unit := do
  let library ← get
  if (library.position? code).isSome then
    throw (.duplicateLocale code)
  let translator ← library.translatorFor code registry
  let messages ← Messages.ofStrings translator strings
  let catalog := { code, displayName := displayName.getD code, messages }
  modify fun library => { library with catalogs := library.catalogs ++ [catalog] }
  if (← get).fallback.isNone then
    modify fun library => { library with fallback := some (library.catalogs.length - 1) }
    modify fun library => { library with active := library.fallback }

/-- Adds a locale. -/
def insert (code : Text) (displayName : Option Text) (strings : Entries Json) : LibraryM Unit := do
  let library ← get
  insertWith code displayName strings library.registry

/-- The library with a locale whose messages see only the given formatters. -/
def addWith (library : Library) (code : Text) (displayName : Option Text) (strings : Entries Json)
    (registry : Registry) : Except LoadError Library :=
  ((insertWith code displayName strings registry).outcome library).map Prod.snd

/-- The library with another locale. -/
def add (library : Library) (code : Text) (displayName : Option Text) (strings : Entries Json) :
    Except LoadError Library :=
  ((insert code displayName strings).outcome library).map Prod.snd

/-- The library with other messages for the locale at a position. -/
def updateMessages (library : Library) (index : Nat) (messages : Messages) : Library :=
  { library with catalogs := library.catalogs.modify index fun c => { c with messages } }

/-- Gives the messages of a locale other formatters. Nothing happens to a locale that is not loaded,
and the answer says so. -/
def rebind (code : Text) (registry : Registry) : LibraryM Bool := do
  let library ← get
  match library.position? code with
  | none => return false
  | some index =>
    let translator ← library.translatorFor code registry
    let entries := (library.catalogs[index]?.map fun c => c.messages.templates.entries).getD []
    let messages ← Messages.ofFlat translator entries
    modify fun library => library.updateMessages index messages
    return true

/-- The library in which the messages of a locale see other formatters, and whether it is loaded. -/
def setRegistry (library : Library) (code : Text) (registry : Registry) :
    Except LoadError (Bool × Library) :=
  (rebind code registry).outcome library

/-- Makes the locale at a position the active one, if there is one. -/
def activateIndex (library : Library) (index : Nat) : Bool × Library :=
  if index < library.catalogs.length then (true, { library with active := some index })
  else (false, library)

/-- Makes a locale the active one, if it is loaded. -/
def activate (library : Library) (code : Text) : Bool × Library :=
  match library.position? code with
  | some index => (true, { library with active := some index })
  | none => (false, library)

/-- Makes a locale the fallback, if it is loaded, and the fallback the active locale. -/
def setDefault (library : Library) (code : Text) : Library :=
  let fallback := (library.position? code).or library.fallback
  { library with fallback := fallback, active := fallback }

/-- The statistics of all locales. -/
def statistics (library : Library) : List Statistics :=
  library.catalogs.map Catalog.statistics

/-- The messages of the fallback locale that a locale lacks. -/
def missingKeys? (library : Library) (code : Text) : Option (List Text) :=
  match library.catalog? code, library.fallbackCatalog? with
  | some catalog, some fallback =>
    some (fallback.messages.keys.filter fun key => !catalog.messages.contains key)
  | _, _ => none

/-- Whether a locale itself has a message at a path. -/
def localeHasKey (library : Library) (code key : Text) : Bool :=
  match library.messages? code with
  | some messages => messages.contains key
  | none => false

/-- Where a message is found: the position of the first locale that has it, the active one before
the fallback. -/
def serving? (library : Library) (key : Text) : Option Nat :=
  [library.active, library.fallback].findSome? fun candidate =>
    candidate.filter fun index =>
      match library.catalogs[index]? with
      | some catalog => catalog.messages.contains key
      | none => false

/-- The locale that serves a message, and the message. -/
def message? (library : Library) (key : Text) : Option (Catalog × Message) :=
  (library.serving? key).bind fun index =>
    library.catalogs[index]?.bind fun catalog =>
      (catalog.messages.find? key).map fun message => (catalog, message)

/-- Renders a message; a path without a message is shown itself. -/
def text (library : Library) (key : Text) (arguments : List Json) : Text × Library :=
  match library.serving? key, library.message? key with
  | some index, some (catalog, message) =>
    let (rendered, messages) := catalog.messages.call message arguments
    (rendered, library.updateMessages index messages)
  | _, _ => (key, library)

end Library
end LocaleText
