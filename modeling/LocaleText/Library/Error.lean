import LocaleText.Json.Value
import LocaleText.Locale.Identifier
import LocaleText.Template.Error

/-!
# What can go wrong when locales are loaded

The faults of loading, from the directory down to the single message. Where a fault lies with a file
or a directory, the report ends with the reason; how reasons are worded is left to the caller.
-/

namespace LocaleText

/-- Why a file or a directory is of no use. -/
inductive Reason where
  /-- It cannot be listed. -/
  | notListable
  /-- It cannot be read as text. -/
  | notReadable
  /-- Its text is not what it should be. -/
  | malformed
  deriving DecidableEq, Repr

/-- How reasons are worded. -/
abbrev Wording := Reason → Text

/-- A short wording. -/
def Reason.text : Wording
  | notListable => "not a directory that can be listed".toList
  | notReadable => "not a file that can be read as text".toList
  | malformed => "malformed content".toList

/-- A fault of loading locales. -/
inductive LoadError where
  /-- The directory cannot be listed. -/
  | unlistableDirectory (path : Text)
  /-- The locale file cannot be read, or an entry beside it not be examined. -/
  | unreadableFile (path : Text)
  /-- The locale file is not well-formed. -/
  | malformedFile (path : Text)
  /-- The locale is loaded already. -/
  | duplicateLocale (code : Text)
  /-- The template of the message is malformed. -/
  | template (locale key : Text) (fault : TemplateError)
  /-- The message is neither a text nor a group of messages. -/
  | unsupportedMessage (locale key : Text) (kind : Json.Kind)
  /-- The code is no locale identifier. -/
  | invalidLocale (code : Text) (fault : LocaleError)
  deriving DecidableEq, Repr

namespace LoadError

/-- The report of a fault. -/
def message (wording : Wording) : LoadError → Text
  | unlistableDirectory path =>
    "failed to enumerate locale directory ".toList ++ path ++ ": ".toList ++ wording .notListable
  | unreadableFile path =>
    "failed to read locale file ".toList ++ path ++ ": ".toList ++ wording .notReadable
  | malformedFile path =>
    "failed to parse locale file ".toList ++ path ++ ": ".toList ++ wording .malformed
  | duplicateLocale code => "duplicate locale code ".toList ++ code
  | template locale key fault =>
    "locale ".toList ++ locale ++ " message '".toList ++ key
      ++ "' has a malformed template: ".toList ++ fault.message
  | unsupportedMessage locale key kind =>
    "locale ".toList ++ locale ++ " message '".toList ++ key
      ++ "' uses unsupported type '".toList ++ kind.name ++ "'".toList
  | invalidLocale code fault =>
    "locale identifier '".toList ++ code ++ "' is invalid: ".toList ++ fault.message

/-- The fault that lies behind a fault, where the report names it a second time. -/
def cause? : LoadError → Option TemplateError
  | template _ _ fault => some fault
  | _ => none

end LoadError
end LocaleText
