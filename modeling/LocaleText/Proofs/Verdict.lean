import LocaleText.Command.Run
import LocaleText.Proofs.Fallback

/-!
# LocaleText.Proofs.Verdict

**What a check decides, and what it reports.** The verdict and the report are made from the same
list, what there is to report of each locale (`Command.coverage`), and this list holds of each the
messages of the fallback that it lacks (`Command.coverage_eq`): that the fallback is left out makes
no difference, since it lacks none. Everything else is read off the list, the total and the lines of
the report as well as the fault (`Command.check_fault_eq_none_iff`).
-/

namespace LocaleText

/-! ### What a locale lacks -/

/-- The messages of the fallback that a locale lacks, in the order of the fallback. -/
def Catalog.lacking (own fallback : Catalog) : List Text :=
  fallback.messages.keys.filter fun key => !own.messages.contains key

/-- Whether a locale has all messages that the fallback has. It may have others as well. -/
def Catalog.Covers (own fallback : Catalog) : Prop :=
  ∀ key, fallback.messages.contains key = true → own.messages.contains key = true

/-- The number of messages of the fallback that the locales lack, each counted for itself: a message
that two locales lack counts twice. -/
def Library.lackingTotal (library : Library) (fallback : Catalog) : Nat :=
  library.catalogs.foldr (fun own total => (own.lacking fallback).length + total) 0

theorem Catalog.mem_lacking_iff {own fallback : Catalog} {key : Text} :
    key ∈ own.lacking fallback ↔
      fallback.messages.contains key = true ∧ own.messages.contains key = false := by
  simp [lacking, Messages.mem_keys_iff]

theorem Catalog.lacking_eq_nil_iff {own fallback : Catalog} :
    own.lacking fallback = [] ↔ own.Covers fallback := by
  simp only [List.eq_nil_iff_forall_not_mem, mem_lacking_iff, not_and, Bool.not_eq_false]
  rfl

theorem Catalog.lacking_self (catalog : Catalog) : catalog.lacking catalog = [] :=
  lacking_eq_nil_iff.2 fun _ has => has

/-- Nothing is lacking in total when no locale lacks anything. -/
theorem Library.lackingTotal_eq_zero_iff {library : Library} {fallback : Catalog} :
    library.lackingTotal fallback = 0 ↔ ∀ own ∈ library.catalogs, own.Covers fallback := by
  rw [lackingTotal]
  induction library.catalogs with
  | nil => simp
  | cons own others ih =>
      rw [List.foldr_cons, Nat.add_eq_zero_iff, ih, List.length_eq_zero_iff,
        Catalog.lacking_eq_nil_iff, List.forall_mem_cons]

theorem Library.localeHasKey_iff {library : Library} {code key : Text} :
    library.localeHasKey code key = true ↔
      ∃ own, library.catalog? code = some own ∧ own.messages.contains key = true := by
  cases loaded : library.catalog? code <;> simp [localeHasKey, messages?, loaded]

namespace Command

/-! ### The report -/

/-- What there is to report of a locale. -/
def coverageOf (fallback own : Catalog) : Coverage where
  statistics := own.statistics
  isFallback := own.code = fallback.code
  missing := own.lacking fallback

/-- **The list of what there is to report** holds of each locale what it lacks. For the fallback
nothing is looked up, and nothing is listed as missing; since codes are distinct, that is what it
lacks. -/
theorem coverage_eq {library : Library} (sound : library.Sound) {fallback : Catalog}
    (falls : library.fallbackCatalog? = some fallback) :
    coverage library fallback.code = library.catalogs.map (coverageOf fallback) := by
  rw [coverage, Library.statistics, List.map_map]
  refine List.map_congr_left fun own mem => ?_
  have loaded := sound.catalog?_of_mem mem
  rw [Function.comp_apply, coverageOf]
  congr 1
  show (if own.code = fallback.code then [] else (library.missingKeys? own.code).getD []) = _
  by_cases same : own.code = fallback.code
  · -- There is one locale with that code.
    rw [same, sound.catalog?_of_mem (Library.mem_of_fallbackCatalog? falls)] at loaded
    cases loaded
    rw [if_pos rfl, Catalog.lacking_self]
  · rw [if_neg same, Library.missingKeys?_eq loaded falls]
    rfl

/-- The line that reports a locale, without what is said of missing messages. -/
def heading (own : Catalog) : Text :=
  " - ".toList ++ own.displayName ++ " [".toList ++ own.code ++ "]: ".toList
    ++ Text.ofNat own.statistics.total ++ " strings (".toList
    ++ Text.ofNat own.statistics.plural ++ " plural)".toList

/-- What stands before a message that is listed as missing. -/
def bullet : Text :=
  "     · ".toList

/-- What the lines about a locale say of the messages of the fallback that it lacks. How many are
listed is left open here, but they are the first ones, and with the number of the others they add
up. -/
inductive Reports (fallback own : Catalog) : List Text → Prop where
  /-- Nothing is said where none is missing, except that the fallback is marked as such. -/
  | complete (none : own.lacking fallback = []) :
    Reports fallback own
      [heading own ++ if own.code = fallback.code then " [fallback]".toList else []]
  /-- Else their number is given, the first ones are listed and the others are counted. -/
  | lacking {listed : List Text} {remainder : Nat} (some : listed ≠ [])
    (first : listed <+: own.lacking fallback)
    (adds : listed.length + remainder = (own.lacking fallback).length) :
    Reports fallback own
      ((heading own ++ " - missing ".toList ++ Text.ofNat (own.lacking fallback).length
          ++ " key(s)".toList)
        :: listed.map (bullet ++ ·)
        ++ if remainder = 0 then []
          else [bullet ++ "... ".toList ++ Text.ofNat remainder ++ " more".toList])

/-- The lines about a locale in three cases: the fallback, a locale that lacks nothing, and one of
which some messages are listed. -/
theorem lines_eq (fallback own : Catalog) :
    (coverageOf fallback own).lines =
      if own.code = fallback.code then [heading own ++ " [fallback]".toList]
      else if (own.lacking fallback).length = 0 then [heading own]
      else
        [heading own ++ " - missing ".toList ++ Text.ofNat (own.lacking fallback).length
            ++ " key(s)".toList]
          ++ ((own.lacking fallback).take listedCount).map (bullet ++ ·)
          ++ if listedCount < (own.lacking fallback).length then
              [bullet ++ "... ".toList
                ++ Text.ofNat ((own.lacking fallback).length - listedCount) ++ " more".toList]
            else [] := by
  simp only [Coverage.lines, coverageOf, decide_eq_true_eq]
  rfl

/-- The lines about a locale report what it lacks. The fallback is never said to lack anything, so
it has to be known that it does not. -/
theorem reports_lines {fallback own : Catalog}
    (single : own.code = fallback.code → own.lacking fallback = []) :
    Reports fallback own (coverageOf fallback own).lines := by
  rw [lines_eq]
  by_cases none : own.lacking fallback = []
  · have complete := Reports.complete none
    by_cases same : own.code = fallback.code
    · rwa [if_pos same] at complete ⊢
    · rw [if_neg same, List.append_nil] at complete
      rwa [if_neg same, none, List.length_nil, if_pos rfl]
  · have count : (own.lacking fallback).length ≠ 0 := mt List.length_eq_zero_iff.1 none
    have some : (own.lacking fallback).take listedCount ≠ [] :=
      mt List.take_eq_nil_iff.1 (not_or.2 ⟨nofun, none⟩)
    have adds : ((own.lacking fallback).take listedCount).length
        + ((own.lacking fallback).length - listedCount) = (own.lacking fallback).length := by
      rw [List.length_take]
      omega
    have report := Reports.lacking some (List.take_prefix _ _) adds
    rw [if_neg (mt single none), if_neg count]
    by_cases more : listedCount < (own.lacking fallback).length
    · rw [if_neg (Nat.sub_ne_zero_of_lt more)] at report
      rwa [if_pos more]
    · rw [if_pos (Nat.sub_eq_zero_of_le (Nat.le_of_not_lt more))] at report
      rwa [if_neg more]

/-- The complaint about missing messages. -/
def complaint (fallback : Catalog) (total : Nat) : List Text :=
  if 0 < total then
    ["Found ".toList ++ Text.ofNat total
      ++ " missing localization key(s) relative to fallback ".toList
      ++ Error.quoted fallback.code]
  else []

/-- The comparison of all locales with the fallback, as it follows from what each of them lacks. -/
def comparison (library : Library) (fallback : Catalog) (strict : Bool) : Result where
  output :=
    ("Loaded ".toList ++ Text.ofNat library.catalogs.length
      ++ " locale(s); fallback locale: ".toList ++ fallback.code)
    :: library.catalogs.flatMap fun own => (coverageOf fallback own).lines
  complaints := complaint fallback (library.lackingTotal fallback)
  fault :=
    if 0 < library.lackingTotal fallback ∧ strict = true then some .missingKeys else none

section Check

variable {disk : Disk} {library : Library} {fallback : Catalog} {request : CheckRequest}

/-- The comparison is made from the list of what there is to report, and so from what each locale
lacks. -/
theorem compareLocales_eq (sound : library.Sound)
    (falls : library.fallbackCatalog? = some fallback) (strict : Bool) :
    compareLocales library fallback.code strict = comparison library fallback strict := by
  have total : totalMissing (library.catalogs.map (coverageOf fallback)) =
      library.lackingTotal fallback := by
    rw [totalMissing, List.foldr_map]
    rfl
  rw [compareLocales, coverage_eq sound falls, total, List.flatMap_map]
  rfl

/-! ### The verdict -/

/-- What follows the comparison of the locales: that with the reference, if one is given. -/
def CheckRequest.referred (request : CheckRequest) (disk : Disk) (library : Library)
    (fallback : Catalog) : Result :=
  (request.reference.map (compareReference disk library fallback.code)).getD {}

/-- What a check of a library is to find for its verdict to be good. Both parts depend on what is
asked for: a check that is asked for neither approves of every library. -/
structure CheckRequest.Approves (request : CheckRequest) (disk : Disk) (library : Library)
    (fallback : Catalog) : Prop where
  /-- No locale lacks a message of the fallback, if that is asked for. -/
  covers : request.failOnMissing = true → ∀ own ∈ library.catalogs, own.Covers fallback
  /-- The reference, if one is given, lists messages that its locale has itself, or the fallback
  where it names no locale. -/
  refers : ∀ path, request.reference = some path → ∃ text reference, disk.file path = .text text ∧
    Reference.read? text = some reference ∧ ∀ key ∈ reference.keys, ∃ own,
      library.catalog? (reference.locale.getD fallback.code) = some own ∧
        own.messages.contains key = true

theorem Result.followedBy_nothing (result : Result) : result.followedBy {} = result := by
  cases result with
  | mk output complaints fault => cases fault <;> simp [followedBy]

theorem Result.fault_followedBy (first second : Result) :
    (first.followedBy second).fault = first.fault.or second.fault := by
  cases fault : first.fault <;> simp [followedBy, fault]

/-- A check compares the locales first and then looks at the reference. After a fault in the first,
the second is not reported. -/
theorem check_eq (sound : library.Sound) (falls : library.fallbackCatalog? = some fallback) :
    check disk library request =
      (comparison library fallback request.failOnMissing).followedBy
        (request.referred disk library fallback) := by
  have code : library.fallbackCode? = some fallback.code := congrArg (Option.map Catalog.code) falls
  simp only [check, code, compareLocales_eq sound falls]
  cases given : request.reference <;>
    simp [CheckRequest.referred, given, Result.followedBy_nothing]

/-- The comparison is a fault only if it is asked to be one. -/
theorem fault_comparison {strict : Bool} :
    (comparison library fallback strict).fault = none ↔
      (strict = true → ∀ own ∈ library.catalogs, own.Covers fallback) := by
  have fault : (comparison library fallback strict).fault =
      if 0 < library.lackingTotal fallback ∧ strict = true then some .missingKeys else none := rfl
  rw [fault, ite_eq_right_iff, ← Library.lackingTotal_eq_zero_iff]
  constructor
  · intro none strict
    by_contra some
    cases none ⟨Nat.pos_of_ne_zero some, strict⟩
  · intro zero both
    exact absurd (zero both.2) (Nat.ne_of_gt both.1)

/-- A reference is good when the locale it is compared with has all its messages. -/
theorem fault_compare {reference : Reference} {locale : Text} :
    (reference.compare library locale).fault = none ↔
      ∀ key ∈ reference.keys, library.localeHasKey (reference.locale.getD locale) key = true := by
  have missing : reference.missing library (reference.locale.getD locale) = [] ↔
      ∀ key ∈ reference.keys, library.localeHasKey (reference.locale.getD locale) key = true := by
    simp [Reference.missing, List.filter_eq_nil_iff]
  rw [← missing, Reference.compare]
  cases reference.missing library (reference.locale.getD locale) <;> simp

/-- A reference that cannot be read is no good either. -/
theorem fault_compareReference {locale path : Text} :
    (compareReference disk library locale path).fault = none ↔
      ∃ text reference, disk.file path = .text text ∧ Reference.read? text = some reference ∧
        ∀ key ∈ reference.keys,
          library.localeHasKey (reference.locale.getD locale) key = true := by
  rw [compareReference]
  cases file : disk.file path with
  | missing => simp [Result.failed]
  | notReadable => simp [Result.failed]
  | text text =>
      cases read : Reference.read? text with
      | none => simp [Result.failed, read]
      | some reference => simp [fault_compare, read]

theorem fault_referred :
    (request.referred disk library fallback).fault = none ↔
      ∀ path, request.reference = some path →
        (compareReference disk library fallback.code path).fault = none := by
  cases given : request.reference <;> simp [CheckRequest.referred, given]

/-- **A check is good** when it has nothing to object to. -/
theorem check_fault_eq_none_iff (sound : library.Sound)
    (falls : library.fallbackCatalog? = some fallback) :
    (check disk library request).fault = none ↔ request.Approves disk library fallback := by
  rw [check_eq sound falls, Result.fault_followedBy, Option.or_eq_none_iff, fault_comparison,
    fault_referred]
  simp only [fault_compareReference, Library.localeHasKey_iff]
  exact ⟨fun h => ⟨h.1, h.2⟩, fun h => ⟨h.covers, h.refers⟩⟩

end Check

/-! ### The run -/

/-- The configuration and all packs of a command line can be loaded, and make this library. There is
at most one such library. -/
def Invocation.Loads (disk : Disk) (invocation : Invocation) (library : Library) : Prop :=
  ∃ config base, loadConfig disk invocation.config = .ok (config, base) ∧
    loadLibrary disk (invocation.action.settings config) base = .ok library

theorem loadLibrary_eq_ok_iff {disk : Disk} {config : Config} {base : Text} {library : Library} :
    loadLibrary disk config base = .ok library ↔
      Library.ofConfig disk config base = .ok library := by
  rw [loadLibrary]
  cases Library.ofConfig disk config base <;> simp [Except.mapError]

theorem Invocation.Loads.reachable {disk : Disk} {invocation : Invocation} {library : Library}
    (loads : invocation.Loads disk library) : library.Reachable := by
  obtain ⟨config, base, -, loaded⟩ := loads
  exact .ofConfig disk _ base (loadLibrary_eq_ok_iff.1 loaded)

section Run

variable {disk : Disk} {config : Option Text} {library : Library}

theorem run_eq {arguments : List Text} {invocation : Invocation}
    (asked : Invocation.ofArguments arguments = .ok invocation) (wording : Wording) (disk : Disk) :
    run wording disk arguments = (invocation.run disk).outcome wording := by
  rw [run, asked]

theorem Invocation.run_check {request : CheckRequest}
    (loads : Invocation.Loads disk { config, action := .check request } library) :
    Invocation.run disk { config, action := .check request } = check disk library request := by
  obtain ⟨read, base, configured, loaded⟩ := loads
  simp only [run, configured, loaded]

theorem Invocation.run_render {request : RenderRequest}
    (loads : Invocation.Loads disk { config, action := .render request } library) :
    Invocation.run disk { config, action := .render request } = render library request := by
  obtain ⟨read, base, configured, loaded⟩ := loads
  simp only [run, configured, loaded]

/-- A command line whose configuration and packs cannot be loaded fails. -/
theorem Invocation.exists_failed {invocation : Invocation}
    (nothing : ∀ library, ¬invocation.Loads disk library) :
    ∃ fault, invocation.run disk = .failed fault := by
  rw [run]
  cases configured : loadConfig disk invocation.config with
  | error fault => exact ⟨fault, rfl⟩
  | ok settings =>
      obtain ⟨read, base⟩ := settings
      cases loaded : loadLibrary disk (invocation.action.settings read) base with
      | error fault => exact ⟨fault, by simp only [loaded]⟩
      | ok library => exact absurd ⟨read, base, configured, loaded⟩ (nothing library)

/-- A run without a fault has loaded a library. -/
theorem Invocation.loads_of_run {invocation : Invocation}
    (good : (invocation.run disk).fault = none) : ∃ library, invocation.Loads disk library := by
  by_contra nothing
  obtain ⟨fault, failed⟩ := Invocation.exists_failed (not_exists.1 nothing)
  rw [failed] at good
  cases good

/-- The status tells whether there is a fault, and not which. -/
theorem Result.status_outcome (wording : Wording) (result : Result) :
    (result.outcome wording).status = if result.fault = none then 0 else 1 := by
  rw [outcome]
  cases result.fault <;> rfl

theorem Result.status_eq_zero_iff {wording : Wording} {result : Result} :
    (result.outcome wording).status = 0 ↔ result.fault = none := by
  rw [status_outcome, ite_eq_left_iff]
  simp

/-- **A check that succeeds** has loaded a library that it has nothing to object to. A library
without a locale is a fault, so there is a fallback. -/
theorem exists_approved {request : CheckRequest}
    (good : (Invocation.run disk { config, action := .check request }).fault = none) :
    ∃ library, Invocation.Loads disk { config, action := .check request } library ∧
      ∃ fallback, library.fallbackCatalog? = some fallback ∧
        request.Approves disk library fallback := by
  obtain ⟨library, loads⟩ := Invocation.loads_of_run good
  rw [Invocation.run_check loads] at good
  cases falls : library.fallbackCatalog? with
  | none => simp [check, Library.fallbackCode?, falls, Result.failed] at good
  | some fallback =>
      exact ⟨library, loads, fallback, falls,
        (check_fault_eq_none_iff loads.reachable.sound falls).1 good⟩

end Run

/-- **What a check decides and reports.** A check ends with status 0 exactly when the configuration
and all packs can be loaded, there is a locale, and the check has nothing to object to: no locale
lacks a message of the fallback, if that is asked for, and the reference, if one is given, can be
read and lists messages that its locale has itself. Otherwise it ends with status 1.

Where there is a locale, the report is `comparison`, followed by what there is to say of the
reference. The total in it adds up what each of the locales lacks, and the lines about a locale list
the first ones of these and count the others. This holds of any disk and of every command line that
asks for a check, in whatever wording faults are reported. -/
theorem check_decides_exactly (wording : Wording) (disk : Disk) {arguments : List Text}
    {config : Option Text} {request : CheckRequest}
    (asked : Invocation.ofArguments arguments = .ok { config, action := .check request }) :
    ((run wording disk arguments).status = 0 ↔
      ∃ library, Invocation.Loads disk { config, action := .check request } library ∧
        library.catalogs ≠ [] ∧ ∃ fallback, library.fallbackCatalog? = some fallback ∧
          request.Approves disk library fallback) ∧
    ((run wording disk arguments).status ≠ 0 → (run wording disk arguments).status = 1) ∧
    ∀ library, Invocation.Loads disk { config, action := .check request } library →
      library.catalogs ≠ [] → ∃ fallback, library.fallbackCatalog? = some fallback ∧
        run wording disk arguments =
          ((comparison library fallback request.failOnMissing).followedBy
            (request.referred disk library fallback)).outcome wording ∧
        ∀ own ∈ library.catalogs,
          Reports fallback own (coverageOf fallback own).lines := by
  rw [run_eq asked]
  refine ⟨Result.status_eq_zero_iff.trans ⟨fun good => ?_, ?_⟩, fun bad => ?_,
    fun library loads locales => ?_⟩
  · obtain ⟨library, loads, fallback, falls, approves⟩ := exists_approved good
    exact ⟨library, loads, List.ne_nil_of_mem (Library.mem_of_fallbackCatalog? falls), fallback,
      falls, approves⟩
  · intro h
    obtain ⟨library, loads, -, fallback, falls, approves⟩ := h
    rw [Invocation.run_check loads]
    exact (check_fault_eq_none_iff loads.reachable.sound falls).2 approves
  · rw [Result.status_outcome, if_neg (mt Result.status_eq_zero_iff.2 bad)]
  · -- The fallback lacks none of its own messages, which its lines rely on.
    have sound := loads.reachable.sound
    obtain ⟨fallback, falls⟩ :=
      Option.ne_none_iff_exists'.1 (mt sound.fallbackCatalog?_eq_none_iff.1 locales)
    refine ⟨fallback, falls, ?_, fun own mem => reports_lines fun same => ?_⟩
    · rw [Invocation.run_check loads, check_eq sound falls]
    · rw [sound.eq_of_mem mem (Library.mem_of_fallbackCatalog? falls) same, Catalog.lacking_self]

/-- A configuration with two directories and a pack in each, of which the second lacks a message. -/
def partlyTranslatedDisk : Disk where
  directory path :=
    if path = "first".toList then .items [.entry ⟨"en.json".toList, true⟩]
    else if path = "second".toList then .items [.entry ⟨"de.json".toList, true⟩]
    else .missing
  file path :=
    if path = "config.json".toList then .text "[\"en\", [\"first\", \"second\"]]".toList
    else if path = "first/en.json".toList then
      .text "[\"en\", null, \x7b\"open\": \"Open\", \"title\": \"Inbox\"\x7d]".toList
    else if path = "second/de.json".toList then
      .text "[\"de\", \"Deutsch\", \x7b\"title\": \"Eingang\"\x7d]".toList
    else .missing

theorem check_decides_exactly_partly :
    let disk := partlyTranslatedDisk
    let wording : Wording := fun _ => []
    let config := some "config.json".toList
    let lenient := ["--config=config.json".toList, "check".toList]
    let strict := lenient ++ ["--fail-on-missing".toList]
    (∃ library, Invocation.Loads disk { config, action := .check {} } library ∧
      library.catalogs ≠ [] ∧ ∃ fallback, library.fallbackCatalog? = some fallback ∧
        CheckRequest.Approves {} disk library fallback ∧
        run wording disk lenient =
          ((comparison library fallback false).followedBy {}).outcome wording) ∧
    (¬∃ library,
      Invocation.Loads disk { config, action := .check { failOnMissing := true } } library ∧
      library.catalogs ≠ [] ∧ ∃ fallback, library.fallbackCatalog? = some fallback ∧
        CheckRequest.Approves { failOnMissing := true } disk library fallback) ∧
    (run wording disk strict).status = 1 := by
  intro disk wording config lenient strict
  have asked : Invocation.ofArguments lenient = .ok { config, action := .check {} } := rfl
  have asked' : Invocation.ofArguments strict =
      .ok { config, action := .check { failOnMissing := true } } := rfl
  obtain ⟨good, -, report⟩ := check_decides_exactly wording disk asked
  obtain ⟨good', bad, -⟩ := check_decides_exactly wording disk asked'
  have fails : (run wording disk strict).status ≠ 0 := by decide +kernel
  refine ⟨?_, mt good'.2 fails, bad fails⟩
  obtain ⟨library, loads, locales, fallback, falls, approves⟩ := good.1 (by decide +kernel)
  obtain ⟨other, falls', reported, -⟩ := report library loads locales
  rw [falls] at falls'
  cases falls'
  exact ⟨library, loads, locales, fallback, falls, approves, reported⟩

end Command
end LocaleText
