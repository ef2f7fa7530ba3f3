import LocaleText.Library.Error
import LocaleText.Translator

/-!
# The messages of a locale

The messages of a locale come as texts in nested groups and are addressed by dotted paths: the
text called `open` in the group `menu` is the message `menu.open`. `Messages.ofStrings` flattens
the groups and reads every template, so that a malformed one is found when the locale is loaded;
of two texts with the same path the later one stays. Rendering a message can change what the
translator has cached, so the operations that read a template return the messages after it.
-/

namespace LocaleText

/-- A message: its path and its template. -/
structure Message where
  /-- The dotted path. -/
  key : Text
  /-- The text of the template. -/
  template : Text
  deriving DecidableEq, Repr

/-- The messages of a locale. -/
structure Messages where
  /-- What renders the messages; there is none where there is no locale. -/
  translator : Option Translator
  /-- The texts of the templates by path. -/
  templates : Table Text

namespace Messages

/-- What joins the names of a path. -/
def separator : Char := '.'

/-- The path of what is called `name` in the group at `parent`, the root being at the empty path. -/
def childPath (parent name : Text) : Text :=
  if parent.isEmpty then name else parent ++ separator :: name

mutual

/-- The texts in a value at `path`, each with its own path, groups in the order of their names. -/
def flatten (locale path : Text) : Json → Except LoadError (List (Text × Text))
  | .string text => .ok [(path, text)]
  | .object fields => flattenFields locale path fields
  | .null => .error (.unsupportedMessage locale path .null)
  | .bool _ => .error (.unsupportedMessage locale path .boolean)
  | .number _ => .error (.unsupportedMessage locale path .number)
  | .array _ => .error (.unsupportedMessage locale path .array)

/-- The texts in the fields of the group at `parent`. -/
def flattenFields (locale parent : Text) :
    List (Text × Json) → Except LoadError (List (Text × Text))
  | [] => .ok []
  | (name, value) :: fields =>
    match flatten locale (childPath parent name) value with
    | .error fault => .error fault
    | .ok front =>
      match flattenFields locale parent fields with
      | .error fault => .error fault
      | .ok back => .ok (front ++ back)

end

/-- The messages where there is no locale. -/
def empty : Messages :=
  { translator := none, templates := ∅ }

/-- Reads templates and enters them by path, on top of those entered before. -/
def enter (translator : Translator) (templates : Table Text) :
    List (Text × Text) → Except LoadError Messages
  | [] => .ok { translator := some translator, templates := templates }
  | (key, text) :: entries =>
    match translator.prepare text with
    | (.error fault, _) => .error (.template translator.locale key fault)
    | (.ok _, translator) => enter translator (templates.insert key text) entries

/-- The messages with the given paths and templates. -/
def ofFlat (translator : Translator) (entries : List (Text × Text)) : Except LoadError Messages :=
  enter translator ∅ entries

/-- The messages in nested groups. -/
def ofStrings (translator : Translator) (strings : Entries Json) : Except LoadError Messages :=
  (flattenFields translator.locale [] strings).bind (ofFlat translator)

/-- The code of the locale. -/
def locale? (messages : Messages) : Option Text :=
  messages.translator.map Translator.locale

/-- The message at a path. -/
def find? (messages : Messages) (key : Text) : Option Message :=
  (messages.templates.find? key).map fun template => { key, template }

/-- Whether there is a message at a path. -/
def contains (messages : Messages) (key : Text) : Bool :=
  messages.templates.contains key

/-- All messages in the order of their paths. -/
def toList (messages : Messages) : List Message :=
  messages.templates.entries.map fun (key, template) => { key, template }

/-- The paths in order. -/
def keys (messages : Messages) : List Text :=
  messages.templates.names

/-- The number of messages. -/
def size (messages : Messages) : Nat :=
  messages.templates.size

/-- Whether there is no message. -/
def isEmpty (messages : Messages) : Bool :=
  messages.templates.isEmpty

/-- What is left of a path below a group; the root is above every path. -/
def pathBelow? (group path : Text) : Option Text :=
  if group.isEmpty then some path
  else (Text.dropLeading? group path).bind (Text.dropLeading? [separator])

/-- The messages in a group, those in deeper groups left out, in order. -/
def children (messages : Messages) (group : Text) : List Message :=
  messages.toList.filter fun message =>
    match pathBelow? group message.key with
    | some rest => !rest.contains separator
    | none => false

/-- Runs an operation of the translator, `absent` being its result where there is none. -/
def withTranslator {α : Type} (messages : Messages) (absent : α)
    (operation : Translator → α × Translator) : α × Messages :=
  match messages.translator with
  | none => (absent, messages)
  | some translator =>
    let (result, translator) := operation translator
    (result, { messages with translator := some translator })

/-- Renders a message; a template that does not parse is shown as it is. -/
def call (messages : Messages) (message : Message) (arguments : List Json) : Text × Messages :=
  messages.withTranslator message.template fun translator =>
    translator.translate message.template arguments

/-- Renders a message. -/
def call? (messages : Messages) (message : Message) (arguments : List Json) :
    Except TemplateError Text × Messages :=
  messages.withTranslator (.ok message.template) fun translator =>
    translator.translate? message.template arguments

/-- Reads the template of a message and applies `f`; what does not parse gives `absent`. -/
def inspect {α : Type} (messages : Messages) (message : Message) (absent : α) (f : Template → α) :
    α × Messages :=
  messages.withTranslator absent fun translator =>
    match translator.prepare message.template with
    | (.ok template, translator) => (f template, translator)
    | (.error _, translator) => (absent, translator)

/-- Whether the message has a plural block. -/
def isPlural (messages : Messages) (message : Message) : Bool × Messages :=
  messages.inspect message false Template.isPlural

/-- The keys of the arguments that the message reads. -/
def argumentKeys (messages : Messages) (message : Message) : List Text × Messages :=
  messages.inspect message [] Template.keys

/-- Renders the message at a path; where there is none, nothing. -/
def text (messages : Messages) (key : Text) (arguments : List Json) : Text × Messages :=
  match messages.find? key with
  | none => ([], messages)
  | some message => messages.call message arguments

end Messages
end LocaleText
