import LocaleText.Command.Check
import LocaleText.Command.Help
import LocaleText.Command.Render

/-!
# Running the command

The command reads its arguments, loads the configuration and does what it is asked for. It ends with
status 0 when that succeeds, 1 when it fails, and 2 when the arguments are mistaken.
-/

namespace LocaleText.Command

/-- What a run leaves. -/
structure Outcome where
  /-- The exit status. -/
  status : Nat
  /-- The output. -/
  output : Text := []
  /-- The complaints. -/
  complaints : Text := []
  deriving DecidableEq, Repr

/-- Lines with their ends. -/
def unlines (lines : List Text) : Text :=
  lines.flatMap (· ++ ['\n'])

/-- The outcome of an action. -/
def Result.outcome (wording : Wording) (result : Result) : Outcome :=
  match result.fault with
  | none =>
    { status := 0, output := unlines result.output, complaints := unlines result.complaints }
  | some fault =>
    let report := "l10n-compiler error: ".toList ++ fault.message wording
    { status := 1
      output := unlines result.output
      complaints := unlines (result.complaints ++ [report]) }

/-- The configuration of a command and the directory that its paths are seen from: that of the
configuration file, or the current one. -/
def loadConfig (disk : Disk) (path : Option Text) : Except Error (Config × Text) :=
  match path with
  | none => .ok ({}, ['.'])
  | some path =>
    match Config.load disk path with
    | .error fault => .error (.config path fault)
    | .ok config => .ok (config, (Path.parent? path).getD ['.'])

/-- The configuration with settings of the command line in place of its own. -/
def Action.settings (action : Action) (config : Config) : Config :=
  match action with
  | .check request =>
    { config with
      localeDirs := (request.directory.map ([·])).getD config.localeDirs
      defaultLocale := request.defaultLocale.getD config.defaultLocale }
  | .render request =>
    { config with localeDirs := (request.directory.map ([·])).getD config.localeDirs }

/-- Loads the packs of a configuration. -/
def loadLibrary (disk : Disk) (config : Config) (base : Text) : Except Error Library :=
  (Library.ofConfig disk config base).mapError (.packs (config.directories base))

/-- Does what a command line asks for. -/
def Invocation.run (disk : Disk) (invocation : Invocation) : Result :=
  match loadConfig disk invocation.config with
  | .error fault => .failed fault
  | .ok (config, base) =>
    match loadLibrary disk (invocation.action.settings config) base with
    | .error fault => .failed fault
    | .ok library =>
      match invocation.action with
      | .check request => check disk library request
      | .render request => render library request

/-- The outcome where reading the arguments stops. -/
def Stop.outcome : Stop → Outcome
  | .mistake => { status := 2, complaints := unlines [mistakeText] }
  | .version => { status := 0, output := unlines [versionText] }
  | .help topic => { status := 0, output := unlines (helpLines topic) }

/-- Runs the command. -/
def run (wording : Wording) (disk : Disk) (arguments : List Text) : Outcome :=
  match Invocation.ofArguments arguments with
  | .error stop => stop.outcome
  | .ok invocation => (invocation.run disk).outcome wording

end LocaleText.Command
