import LocaleText.Config

/-!
# What can go wrong with a command

The faults of the two actions and their reports. A report names the outermost fault first and then
what lies behind it.
-/

namespace LocaleText.Command

/-- A fault of an action. -/
inductive Error where
  /-- The configuration cannot be loaded. -/
  | config (path : Text) (fault : ConfigError)
  /-- The packs cannot be loaded. -/
  | packs (directories : List Text) (fault : LoadError)
  /-- There is no locale. -/
  | noLocale
  /-- Messages of the fallback are missing elsewhere. -/
  | missingKeys
  /-- The reference cannot be read. -/
  | readReference (path : Text)
  /-- The reference is not well-formed. -/
  | parseReference (path : Text)
  /-- Messages of the reference are missing. -/
  | referenceMismatch
  /-- The locale is not loaded. -/
  | notLoaded (code : Text)
  /-- The argument list is not JSON. -/
  | parseArguments
  /-- The argument has no equals sign. -/
  | badArgument (argument : Text)
  /-- There is no such message. -/
  | unknownMessage (key locale : Text)
  /-- The message cannot be rendered. -/
  | render (key : Text) (fault : TemplateError)
  deriving DecidableEq, Repr

namespace Error

/-- Text between single quotation marks. -/
def quoted (text : Text) : Text :=
  '\'' :: (text ++ ['\''])

/-- A report and what lies behind it. -/
def becauseOf (report cause : Text) : Text :=
  report ++ ": ".toList ++ cause

/-- The report of a fault. -/
def message (wording : Wording) : Error → Text
  | config path fault =>
    becauseOf ("load configuration ".toList ++ path) (fault.message wording)
  | packs directories fault =>
    let report := becauseOf
      ("load localization files from ".toList ++ List.intercalate ", ".toList directories)
      (fault.message wording)
    match fault.cause? with
    | some cause => becauseOf report cause.message
    | none => report
  | noLocale => "no locale files found".toList
  | missingKeys => "missing localization keys detected".toList
  | readReference path =>
    becauseOf ("read localization reference ".toList ++ path) (wording .notReadable)
  | parseReference path => becauseOf ("parse reference ".toList ++ path) (wording .malformed)
  | referenceMismatch => "reference coverage mismatch detected".toList
  | notLoaded code => "locale ".toList ++ quoted code ++ " is not loaded".toList
  | parseArguments => becauseOf "parse --json arguments".toList (wording .malformed)
  | badArgument argument =>
    "argument ".toList ++ quoted argument ++ " must look like NAME=VALUE".toList
  | unknownMessage key locale =>
    "message ".toList ++ quoted key ++ " not found in locale ".toList ++ quoted locale
  | render key fault => becauseOf ("render ".toList ++ quoted key) fault.message

end Error
end LocaleText.Command
