import LocaleText.Command.Line
import LocaleText.Command.Result

/-!
# Rendering a message from the command line

The message is looked up in the locale that is asked for, or in the fallback, with arguments from
the command line: either named ones, whose values are JSON where they can be read as JSON and text
otherwise, or a whole argument list as JSON.
-/

namespace LocaleText.Command

/-- The argument list that a JSON text stands for: an array lists the arguments, and any other value
is the only one. -/
def jsonArguments (text : Text) : Except Error (List Json) :=
  match Json.read? text with
  | some (.array values) => .ok values
  | some value => .ok [value]
  | none => .error .parseArguments

/-- The value that a text stands for. -/
def argumentValue (text : Text) : Json :=
  (Json.read? text).getD (.string text)

/-- The name and the value of an argument. -/
def namedArgument (argument : Text) : Except Error (Text × Json) :=
  match Text.cut? '=' argument with
  | some (name, value) => .ok (name, argumentValue value)
  | none => .error (.badArgument argument)

/-- The argument list that named arguments stand for; of several with one name the last counts. -/
def namedArguments (arguments : List Text) : Except Error (List Json) :=
  if arguments.isEmpty then .ok []
  else (arguments.mapM namedArgument).map fun fields => [.object (Entries.ofList fields)]

/-- The argument list of a request. -/
def RenderRequest.arguments (request : RenderRequest) : Except Error (List Json) :=
  match request.json with
  | some text => jsonArguments text
  | none => namedArguments request.named

/-- The library with the locale of a request active. -/
def RenderRequest.activate (request : RenderRequest) (library : Library) : Except Error Library :=
  match request.locale with
  | none => .ok library
  | some code =>
    match library.activate code with
    | (true, library) => .ok library
    | (false, _) => .error (.notLoaded code)

/-- The text of the message that is asked for. -/
def RenderRequest.text (request : RenderRequest) (library : Library) : Except Error Text := do
  let library ← request.activate library
  match library.activeCode? with
  | none => .error .noLocale
  | some locale =>
    let arguments ← request.arguments
    match library.message? request.key with
    | none => .error (.unknownMessage request.key locale)
    | some (catalog, message) =>
      (catalog.messages.call? message arguments).1.mapError (.render request.key)

/-- Renders a message of a library. -/
def render (library : Library) (request : RenderRequest) : Result :=
  match request.text library with
  | .error fault => .failed fault
  | .ok text => { output := [text] }

end LocaleText.Command
