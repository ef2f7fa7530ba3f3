import LocaleText.Text

/-!
# The command line

What the arguments of the command ask for. An argument is an option, the value of the option before
it, or a word; the first word names the action, and the words behind it are its operands. An option
stands anywhere behind what it belongs to, the general ones behind the action as well, and only
`--arg` may be given twice in one place. After `--` everything is a word. Reading stops at the first
request for help or for the version, or at the first mistake.

Arguments are taken one at a time by `State.step`; what is asked for is worked out from the last
state.
-/

namespace LocaleText.Command

/-- Where an argument stands: before the action, or behind one. -/
inductive Place where
  | top | check | render | help
  deriving DecidableEq, Repr

/-- The name of an action, or of the command itself. -/
def Place.ofName? (name : Text) : Option Place :=
  if name = "check".toList then some .check
  else if name = "render".toList then some .render
  else if name = "help".toList then some .help
  else none

/-- The options. -/
inductive Opt where
  | config | verbose | help | version | defaultLocale | failOnMissing | reference | dir | locale
  | arg | json
  deriving DecidableEq, Repr

namespace Opt

/-- All options. -/
def all : List Opt :=
  [config, verbose, help, version, defaultLocale, failOnMissing, reference, dir, locale, arg, json]

/-- The long name of an option. -/
def name : Opt → Text
  | config => "config".toList
  | verbose => "verbose".toList
  | help => "help".toList
  | version => "version".toList
  | defaultLocale => "default-locale".toList
  | failOnMissing => "fail-on-missing".toList
  | reference => "reference".toList
  | dir => "dir".toList
  | locale => "locale".toList
  | arg => "arg".toList
  | json => "json".toList

/-- The letter of an option that has one. -/
def letter? : Opt → Option Char
  | verbose => some 'v'
  | help => some 'h'
  | version => some 'V'
  | _ => none

/-- Whether the option can stand in a place. -/
def standsAt (place : Place) : Opt → Bool
  | config | verbose | help => true
  | version => place == .top
  | defaultLocale | failOnMissing | reference => place == .check
  | dir | locale | arg | json => place == .render

/-- Whether the option has a value. -/
def hasValue : Opt → Bool
  | verbose | help | version | failOnMissing => false
  | _ => true

/-- Whether the value of the option is a path. A path is not empty. -/
def isPath : Opt → Bool
  | config | reference | dir => true
  | _ => false

/-- The option of a long name in a place. -/
def ofName? (place : Place) (name : Text) : Option Opt :=
  all.find? fun opt => opt.standsAt place && opt.name == name

/-- The option of a letter in a place. -/
def ofLetter? (place : Place) (letter : Char) : Option Opt :=
  all.find? fun opt => opt.standsAt place && opt.letter? == some letter

end Opt

/-- Why reading stops before the end. -/
inductive Stop where
  /-- The arguments ask for nothing that the command can do. -/
  | mistake
  /-- The version is asked for. -/
  | version
  /-- Help is asked for. -/
  | help (topic : Place)
  deriving DecidableEq, Repr

/-- An option that has been given. -/
structure Given where
  /-- Where it stands. -/
  place : Place
  /-- The option. -/
  opt : Opt
  /-- Its value, empty if it has none. -/
  value : Text
  deriving DecidableEq, Repr

/-- What has been read. -/
structure State where
  /-- Where the next argument stands. -/
  place : Place := .top
  /-- The options, in order. -/
  given : List Given := []
  /-- The operands, in order. -/
  words : List Text := []
  /-- The option whose value is due. -/
  pending : Option Opt := none
  /-- Whether everything from here on is a word. -/
  onlyWords : Bool := false

namespace State

/-- Whether an option has been given in this place. -/
def hasHere (state : State) (opt : Opt) : Bool :=
  state.given.any fun given => given.place == state.place && given.opt == opt

/-- Takes an option with its value. -/
def takeOption (state : State) (opt : Opt) (value : Text) : Except Stop State :=
  match opt with
  | .help => .error (.help state.place)
  | .version => .error .version
  | _ =>
    if (opt ≠ .arg && state.hasHere opt) || (opt.isPath && value.isEmpty) then .error .mistake
    else
      .ok { state with
        given := state.given ++ [⟨state.place, opt, value⟩]
        pending := none }

/-- Takes an option by its long name, perhaps with a value behind an equals sign. -/
def takeLong (state : State) (argument : Text) : Except Stop State :=
  let (name, value) :=
    match Text.cut? '=' argument with
    | some (name, value) => (name, some value)
    | none => (argument, none)
  match Opt.ofName? state.place name, value with
  | none, _ => .error .mistake
  | some opt, none =>
    if opt.hasValue then .ok { state with pending := some opt } else state.takeOption opt []
  | some opt, some value => if opt.hasValue then state.takeOption opt value else .error .mistake

/-- Takes options by their letters. -/
def takeLetters (state : State) : Text → Except Stop State
  | [] => .ok state
  | letter :: letters =>
    match Opt.ofLetter? state.place letter with
    | none => .error .mistake
    | some opt => (state.takeOption opt []).bind fun state => state.takeLetters letters

/-- Takes a word. An action has one operand; that of a check is a path, and a path is not empty. -/
def takeWord (state : State) (word : Text) : Except Stop State :=
  match state.place, state.words with
  | .top, _ =>
    match Place.ofName? word with
    | some place => if state.onlyWords then .error .mistake else .ok { state with place := place }
    | none => .error .mistake
  | .check, [] => if word.isEmpty then .error .mistake else .ok { state with words := [word] }
  | .render, [] => .ok { state with words := [word] }
  | .help, words => .ok { state with words := words ++ [word] }
  | _, _ => .error .mistake

/-- Takes one argument. -/
def step (state : State) (argument : Text) : Except Stop State :=
  if state.place = .help then state.takeWord argument
  else
    match state.pending with
    | some opt =>
      match argument with
      | '-' :: _ :: _ => .error .mistake
      | _ => state.takeOption opt argument
    | none =>
      if state.onlyWords then state.takeWord argument
      else
        match argument with
        | ['-', '-'] => .ok { state with onlyWords := true }
        | '-' :: '-' :: long => state.takeLong long
        | '-' :: c :: letters => state.takeLetters (c :: letters)
        | word => state.takeWord word

/-- The last value of an option. -/
def value? (state : State) (opt : Opt) : Option Text :=
  (state.given.reverse.find? fun given => given.opt = opt).map Given.value

/-- All values of an option. -/
def values (state : State) (opt : Opt) : List Text :=
  (state.given.filter fun given => given.opt = opt).map Given.value

end State

/-- What a check is asked for. -/
structure CheckRequest where
  /-- The directory that holds the packs, in place of the configured ones. -/
  directory : Option Text := none
  /-- The locale that the others are compared with, in place of the configured one. -/
  defaultLocale : Option Text := none
  /-- Whether a missing message is a failure. -/
  failOnMissing : Bool := false
  /-- The file that lists the messages that have to be there. -/
  reference : Option Text := none
  deriving DecidableEq, Repr

/-- What a rendering is asked for. -/
structure RenderRequest where
  /-- The path of the message. -/
  key : Text
  /-- The directory that holds the packs, in place of the configured ones. -/
  directory : Option Text := none
  /-- The locale to render in, in place of the fallback. -/
  locale : Option Text := none
  /-- Named arguments, each with its value behind an equals sign. -/
  named : List Text := []
  /-- The argument list as JSON text, in place of named arguments. -/
  json : Option Text := none
  deriving DecidableEq, Repr

/-- What the command is asked for. -/
inductive Action where
  /-- To load all packs and compare them with the fallback. -/
  | check (request : CheckRequest)
  /-- To render a message. -/
  | render (request : RenderRequest)
  deriving DecidableEq, Repr

/-- The reference that an action reads. -/
def Action.referencePath? : Action → Option Text
  | check request => request.reference
  | render _ => none

/-- A command line. -/
structure Invocation where
  /-- The configuration file. -/
  config : Option Text
  /-- What to do. -/
  action : Action
  deriving DecidableEq, Repr

/-- What the arguments ask for, when all have been read. -/
def State.finish (state : State) : Except Stop Invocation :=
  if state.pending.isSome then .error .mistake
  else
    let config := state.value? .config
    match state.place, state.words with
    | .top, _ => .error .mistake
    | .help, [] => .error (.help .top)
    | .help, [name] =>
      match Place.ofName? name with
      | some place => .error (.help place)
      | none => .error .mistake
    | .help, _ => .error .mistake
    | .check, words =>
      .ok {
        config
        action := .check {
          directory := words.head?
          defaultLocale := state.value? .defaultLocale
          failOnMissing := (state.value? .failOnMissing).isSome
          reference := state.value? .reference } }
    | .render, [key] =>
      let named := state.values .arg
      let json := state.value? .json
      if !named.isEmpty && json.isSome then .error .mistake
      else
        .ok {
          config
          action := .render {
            key, named, json
            directory := state.value? .dir
            locale := state.value? .locale } }
    | .render, _ => .error .mistake

/-- Reads a command line. -/
def Invocation.ofArguments (arguments : List Text) : Except Stop Invocation :=
  (arguments.foldlM State.step {}).bind State.finish

end LocaleText.Command
