import LocaleText.Command.Line
import LocaleText.Command.Result

/-!
# Checking locale packs

A check compares every locale with the fallback, and may compare one locale with a reference list
of messages. `Coverage` is what there is to report of a locale; the verdict and the report are
made from the same list, so the numbers in the report are those that decide.
-/

namespace LocaleText.Command

/-- What a check finds out about a locale. -/
structure Coverage where
  /-- The locale, and its messages counted. -/
  statistics : Statistics
  /-- Whether the locale is the fallback. -/
  isFallback : Bool
  /-- The messages of the fallback that the locale lacks. -/
  missing : List Text
  deriving DecidableEq, Repr

/-- A list of messages that a locale has to define. -/
structure Reference where
  /-- Where the list comes from. -/
  source : Option Text
  /-- The locale, if not the fallback. -/
  locale : Option Text
  /-- The paths of the messages. -/
  keys : List Text
  deriving DecidableEq, Repr

/-- The names of the fields of a reference. -/
def Reference.fieldNames : List Text :=
  ["source".toList, "locale".toList, "keys".toList]

/-- Reads a reference. -/
def Reference.read? (text : Text) : Option Reference := do
  let source ← Json.Source.read? text
  match ← Json.Record.fields? fieldNames source with
  | [source, locale, keys] =>
    return {
      source := ← Json.Record.orDefault? Json.Record.optionalText? none source
      locale := ← Json.Record.orDefault? Json.Record.optionalText? none locale
      keys := ← Json.Record.required? Json.Record.texts? keys }
  | _ => none

/-- What there is to report of every locale. -/
def coverage (library : Library) (fallback : Text) : List Coverage :=
  library.statistics.map fun statistics =>
    { statistics
      isFallback := statistics.code = fallback
      missing :=
        if statistics.code = fallback then []
        else (library.missingKeys? statistics.code).getD [] }

/-- The number of messages that are missing, over all locales. -/
def totalMissing (coverages : List Coverage) : Nat :=
  coverages.foldr (fun coverage total => coverage.missing.length + total) 0

/-- How many of the missing messages of a locale are listed. -/
def listedCount : Nat := 5

/-- The lines that report a locale. -/
def Coverage.lines (coverage : Coverage) : List Text :=
  let s := coverage.statistics
  let line :=
    " - ".toList ++ s.displayName ++ " [".toList ++ s.code ++ "]: ".toList ++ Text.ofNat s.total
      ++ " strings (".toList ++ Text.ofNat s.plural ++ " plural)".toList
  let bullet := "     · ".toList
  let count := coverage.missing.length
  if coverage.isFallback then [line ++ " [fallback]".toList]
  else if count = 0 then [line]
  else
    [line ++ " - missing ".toList ++ Text.ofNat count ++ " key(s)".toList]
      ++ (coverage.missing.take listedCount).map (bullet ++ ·)
      ++ (if listedCount < count then
            [bullet ++ "... ".toList ++ Text.ofNat (count - listedCount) ++ " more".toList]
          else [])

/-- The comparison of all locales with the fallback. -/
def compareLocales (library : Library) (fallback : Text) (failOnMissing : Bool) : Result :=
  let coverages := coverage library fallback
  let total := totalMissing coverages
  { output :=
      ("Loaded ".toList ++ Text.ofNat library.catalogs.length
        ++ " locale(s); fallback locale: ".toList ++ fallback)
      :: coverages.flatMap Coverage.lines
    complaints :=
      if 0 < total then
        ["Found ".toList ++ Text.ofNat total
          ++ " missing localization key(s) relative to fallback ".toList
          ++ Error.quoted fallback]
      else []
    fault := if 0 < total ∧ failOnMissing then some .missingKeys else none }

/-- The messages of a reference that a locale does not define itself. -/
def Reference.missing (reference : Reference) (library : Library) (locale : Text) : List Text :=
  reference.keys.filter fun key => !library.localeHasKey locale key

/-- The comparison of a locale with a reference. -/
def Reference.compare (reference : Reference) (library : Library) (fallback : Text) : Result :=
  let locale := reference.locale.getD fallback
  let missing := reference.missing library locale
  if missing.isEmpty then
    let against := match reference.source with
      | some source => " against ".toList ++ source
      | none => []
    { output :=
        ["Reference coverage OK for locale ".toList ++ Error.quoted locale ++ against
          ++ " (".toList ++ Text.ofNat reference.keys.length ++ " keys)".toList] }
  else
    { complaints :=
        ("Localization reference check failed for locale ".toList ++ Error.quoted locale
          ++ "; missing ".toList ++ Text.ofNat missing.length ++ " key(s)".toList)
        :: missing.map ("  · ".toList ++ ·)
      fault := some .referenceMismatch }

/-- The comparison with the reference at a path. -/
def compareReference (disk : Disk) (library : Library) (fallback path : Text) : Result :=
  match disk.file path with
  | .text text =>
    match Reference.read? text with
    | some reference => reference.compare library fallback
    | none => .failed (.parseReference path)
  | _ => .failed (.readReference path)

/-- Checks the locales of a library. -/
def check (disk : Disk) (library : Library) (request : CheckRequest) : Result :=
  match library.fallbackCode? with
  | none => .failed .noLocale
  | some fallback =>
    let compared := compareLocales library fallback request.failOnMissing
    match request.reference with
    | none => compared
    | some path => compared.followedBy (compareReference disk library fallback path)

end LocaleText.Command
