import LocaleText.Proofs.PackOrder
import LocaleText.Proofs.Verdict

/-!
# LocaleText.Proofs.GivenDirectory

**Where a given directory is looked for.** A directory on the command line takes the place of the
configured ones, and with that their place in the configuration: unless it is absolute, it is seen
from the directory of the configuration file, like those that it replaces
(`Command.Invocation.loads_iff_given`). Two command lines that differ in the configuration file
alone, with settings that agree, therefore end alike when the directory is absolute or both
configurations are in one directory, and whenever the two places hold the same packs; otherwise they
may not (`Command.configuration_moves_given_directory`).

Loading from two directories is compared pack by pack (`Library.toOption_addDirectory`). The faults
name the paths, so it is what is loaded that agrees, not the fault, and of a run the status and the
output, not the complaints.
-/

namespace LocaleText

/-! ### Directories with the same packs -/

/-- Two directories hold the same packs: there are packs of the same names, and those of one name
say the same. Directories that cannot be listed, or that have an item that cannot be looked at,
count as alike if both are so: nothing is loaded from either. -/
structure Disk.SamePacks (disk : Disk) (one other : Text) : Prop where
  /-- The packs have the same names. -/
  listings : (disk.directory one).SamePacks (disk.directory other)
  /-- Packs of one name say the same. -/
  contents : ∀ entries : List DirectoryEntry, disk.directory one = .items (entries.map .entry) →
    ∀ entry ∈ entries, Pack.isPack entry = true →
      disk.file (Path.join one entry.name) = disk.file (Path.join other entry.name)

section Packs

variable {disk : Disk} {one other : Text}

/-- A name that is listed is that of an entry that is a pack. -/
theorem Pack.exists_of_mem_names {entries : List DirectoryEntry} {name : Text}
    (mem : name ∈ Pack.names entries) :
    ∃ entry ∈ entries, Pack.isPack entry = true ∧ entry.name = name := by
  rw [names, List.mem_mergeSort, List.mem_map] at mem
  obtain ⟨entry, mem, rfl⟩ := mem
  exact ⟨entry, (List.mem_filter.1 mem).1, (List.mem_filter.1 mem).2, rfl⟩

namespace Library

/-- Files that say the same add the same, or fail both. -/
theorem toOption_addPack {one other : Text} (same : disk.file one = disk.file other)
    (library : Library) :
    (addPack disk library one).toOption = (addPack disk library other).toOption := by
  rw [addPack, addPack, same]
  cases disk.file other with
  | missing => rfl
  | notReadable => rfl
  | text text =>
      cases read : Pack.read? text with
      | none => simp only [read]; rfl
      | some pack => simp only [read]

/-- **Directories that hold the same packs** give the same library, if any. Packs are added in the
order of their names, so it does not matter in which order the two directories list them. -/
theorem toOption_addDirectory (same : disk.SamePacks one other) (library : Library) :
    (addDirectory disk library one).toOption = (addDirectory disk library other).toOption := by
  obtain ⟨listings, contents⟩ := same
  rw [addDirectory, addDirectory]
  generalize disk.directory one = here, disk.directory other = there at listings contents
  cases listings with
  | missing => rfl
  | notListable => rfl
  | entries same =>
      rw [Pack.paths_entries, Pack.paths_entries, Pack.names_congr same, Except.bind, Except.bind,
        List.foldlM_map, List.foldlM_map]
      refine toOption_foldlM_congr (fun library name mem => ?_) library
      rw [← Pack.names_congr same] at mem
      obtain ⟨entry, listed, pack, rfl⟩ := Pack.exists_of_mem_names mem
      exact toOption_addPack (contents _ rfl entry listed pack) library
  | obstructed obstructed obstructed' =>
      -- The faults name the directories, so they differ; nothing is loaded from either.
      obtain ⟨fault, fails⟩ := Pack.exists_paths_error one obstructed
      obtain ⟨fault', fails'⟩ := Pack.exists_paths_error other obstructed'
      rw [fails, fails']
      rfl

/-- A configuration with one directory gives the same library wherever the same packs are. Where the
configuration is matters only for where that directory is looked for. -/
theorem toOption_ofConfig {config : Config} {directory base base' : Text}
    (only : config.localeDirs = [directory])
    (same : disk.SamePacks (Path.join base directory) (Path.join base' directory)) :
    (ofConfig disk config base).toOption = (ofConfig disk config base').toOption := by
  rw [ofConfig, ofConfig, Config.directories, Config.directories, only, List.map_singleton,
    List.map_singleton, addDirectories, addDirectories, toOption_map, toOption_map]
  simp only [List.foldlM_cons, List.foldlM_nil, bind_pure, toOption_addDirectory same]

end Library

end Packs

namespace Command

/-! ### What a command line loads -/

/-- The directory that the command line gives for the packs. -/
def Action.directory? : Action → Option Text
  | check request => request.directory
  | render request => request.directory

/-- Two configurations differ at most in the directories that they name. The command line replaces
these, so nothing has to be asked of them. -/
structure Agree (one other : Config) : Prop where
  defaultLocale : one.defaultLocale = other.defaultLocale
  compact : one.compact = other.compact
  standardFormatters : one.standardFormatters = other.standardFormatters

/-- What two runs have in common that load the same from different places: the output, and whether
they fail. The complaints may name different paths. -/
structure Result.Alike (one other : Result) : Prop where
  output : one.output = other.output
  fault : one.fault = none ↔ other.fault = none

/-- Runs that are alike end with the same status and print the same, in whatever wording. -/
theorem Result.Alike.outcome {one other : Result} (alike : one.Alike other) (wording : Wording) :
    (one.outcome wording).status = (other.outcome wording).status ∧
      (one.outcome wording).output = (other.outcome wording).output := by
  have printed (result : Result) : (result.outcome wording).output = unlines result.output := by
    rw [Result.outcome]
    cases result.fault <;> rfl
  simp only [status_outcome, printed, alike.output, alike.fault, and_self]

section Given

variable {disk : Disk} {config config' : Option Text} {action : Action} {directory : Text}
  {read read' : Config} {base base' : Text}

/-- A configuration file is seen from the directory that it stands in, and without one paths are
seen from the current directory. Where the configuration says nothing about directories, this is all
that its place matters for. -/
theorem base_of_loadConfig (configured : loadConfig disk config = .ok (read, base)) :
    base = (config.bind Path.parent?).getD ['.'] := by
  cases config with
  | none => cases configured; rfl
  | some path =>
      rw [loadConfig] at configured
      cases loaded : Config.load disk path with
      | error fault => simp only [loaded] at configured; cases configured
      | ok found => simp only [loaded] at configured; cases configured; rfl

/-- A given directory is the only one, whatever directories are configured. -/
theorem Action.localeDirs_settings (given : action.directory? = some directory) (read : Config) :
    (action.settings read).localeDirs = [directory] := by
  cases action with
  | check request => simp only [settings, show request.directory = _ from given]; rfl
  | render request => simp only [settings, show request.directory = _ from given]; rfl

/-- Where a directory is given, the settings do not depend on the configured ones. A check may
overrule the default locale as well, but from the same configured one. -/
theorem Action.settings_congr (given : action.directory? = some directory)
    (agree : Agree read read') : action.settings read = action.settings read' := by
  obtain ⟨defaultLocale, compact, standardFormatters⟩ := agree
  cases action with
  | check request =>
      simp only [settings, show request.directory = _ from given, defaultLocale, compact,
        standardFormatters]
      rfl
  | render request =>
      simp only [settings, show request.directory = _ from given, defaultLocale, compact,
        standardFormatters]
      rfl

namespace Invocation

/-- What a command line loads is what its settings give, seen from where the configuration is. -/
theorem loads_iff (configured : loadConfig disk config = .ok (read, base)) {library : Library} :
    Loads disk { config, action } library ↔
      Library.ofConfig disk (action.settings read) base = .ok library := by
  constructor
  · intro loads
    obtain ⟨_, _, configured', loaded⟩ := loads
    rw [configured] at configured'
    cases configured'
    exact loadLibrary_eq_ok_iff.1 loaded
  · exact fun made => ⟨read, base, configured, loadLibrary_eq_ok_iff.2 made⟩

/-- **A given directory is seen from where the configuration stands**, like the configured ones. The
path that is opened is joined from the two, unless the directory is absolute (`Path.join`). -/
theorem loads_iff_given (configured : loadConfig disk config = .ok (read, base))
    (given : action.directory? = some directory) {library : Library} :
    Loads disk { config, action } library ↔
      (Library.new read.registry read.parseOptions).addDirectories disk [Path.join base directory]
        (action.settings read).defaultLocale = .ok library := by
  have registry : (action.settings read).registry = read.registry := by cases action <;> rfl
  have options : (action.settings read).parseOptions = read.parseOptions := by cases action <;> rfl
  rw [loads_iff configured, Library.ofConfig, registry, options, Config.directories,
    Action.localeDirs_settings given, List.map_singleton]

/-- Command lines that load the same do the same with it. If nothing can be loaded, both fail,
possibly with different complaints. -/
theorem alike_run (same : ∀ library, Loads disk { config, action } library ↔
      Loads disk { config := config', action } library) :
    (run disk { config, action }).Alike (run disk { config := config', action }) := by
  by_cases something : ∃ library, Loads disk { config, action } library
  · obtain ⟨library, loads⟩ := something
    have loads' := (same library).1 loads
    cases action with
    | check request => rw [run_check loads, run_check loads']; exact ⟨rfl, .rfl⟩
    | render request => rw [run_render loads, run_render loads']; exact ⟨rfl, .rfl⟩
  · have nothing := not_exists.1 something
    obtain ⟨fault, failed⟩ := exists_failed nothing
    obtain ⟨fault', failed'⟩ := exists_failed fun library => mt (same library).2 (nothing library)
    rw [failed, failed']
    exact ⟨rfl, by simp [Result.failed]⟩

/-- Command lines that give one directory load the same if its two places hold the same packs. -/
theorem loads_congr (configured : loadConfig disk config = .ok (read, base))
    (configured' : loadConfig disk config' = .ok (read', base'))
    (given : action.directory? = some directory) (agree : Agree read read')
    (same : disk.SamePacks (Path.join base directory) (Path.join base' directory))
    (library : Library) : Loads disk { config, action } library ↔
      Loads disk { config := config', action } library := by
  rw [loads_iff configured, loads_iff configured', ← Action.settings_congr given agree]
  have toOption (made : Except LoadError Library) :
      made = .ok library ↔ made.toOption = some library := by
    cases made <;> simp [Except.toOption]
  rw [toOption, toOption, Library.toOption_ofConfig (Action.localeDirs_settings given read) same]

/-- Command lines that give one directory do the same if it has one place. Here the complaints agree
as well, since they name the same paths. -/
theorem run_congr (configured : loadConfig disk config = .ok (read, base))
    (configured' : loadConfig disk config' = .ok (read', base'))
    (given : action.directory? = some directory) (agree : Agree read read')
    (place : Path.join base directory = Path.join base' directory) :
    run disk { config, action } = run disk { config := config', action } := by
  have directories : (action.settings read).directories base =
      (action.settings read).directories base' := by
    rw [Config.directories, Config.directories, Action.localeDirs_settings given,
      List.map_singleton, List.map_singleton, place]
  simp only [run, configured, configured', ← Action.settings_congr given agree, loadLibrary,
    Library.ofConfig, directories]

end Invocation

end Given

/-- **A given directory is seen from where the configuration stands.** Take two command lines that
give one directory and differ in the configuration file alone, with settings that agree but for the
directories. Each loads the packs of the given directory as it is seen from the directory of its
configuration file, or from the current one if there is no such file.

If the two places hold the same packs, then the same is loaded, and the status and the output are
the same. If the directory is absolute, or both are seen from one place, the runs do not differ at
all. Both configurations have to be readable; nothing is asked of the packs. -/
theorem given_directory_follows_configuration (wording : Wording) (disk : Disk)
    {arguments arguments' : List Text} {config config' : Option Text} {action : Action}
    {directory : Text} {read read' : Config} {base base' : Text}
    (asked : Invocation.ofArguments arguments = .ok { config, action })
    (asked' : Invocation.ofArguments arguments' = .ok { config := config', action })
    (given : action.directory? = some directory)
    (configured : loadConfig disk config = .ok (read, base))
    (configured' : loadConfig disk config' = .ok (read', base')) (agree : Agree read read') :
    (base = (config.bind Path.parent?).getD ['.'] ∧
      ∀ library, Invocation.Loads disk { config, action } library ↔
        (Library.new read.registry read.parseOptions).addDirectories disk
          [Path.join base directory] (action.settings read).defaultLocale = .ok library) ∧
    (disk.SamePacks (Path.join base directory) (Path.join base' directory) →
      (∀ library, Invocation.Loads disk { config, action } library ↔
        Invocation.Loads disk { config := config', action } library) ∧
      (run wording disk arguments).status = (run wording disk arguments').status ∧
      (run wording disk arguments).output = (run wording disk arguments').output) ∧
    (Path.isAbsolute directory = true ∨ base = base' →
      run wording disk arguments = run wording disk arguments') := by
  refine ⟨⟨base_of_loadConfig configured, fun library =>
    Invocation.loads_iff_given configured given⟩, fun same => ?_, fun fixed => ?_⟩
  · have loads := Invocation.loads_congr configured configured' given agree same
    rw [run_eq asked, run_eq asked']
    exact ⟨loads, (Invocation.alike_run loads).outcome wording⟩
  · -- An absolute path is opened as it is, and one base gives one path.
    have place : Path.join base directory = Path.join base' directory := by
      rcases fixed with absolute | rfl
      · rw [Path.join, Path.join, if_pos absolute, if_pos absolute]
      · rfl
    rw [run_eq asked, run_eq asked', Invocation.run_congr configured configured' given agree place]

/-- A directory with a pack, and configurations beside it and below. -/
def packBesideConfig : Disk where
  directory path :=
    if path = "langs".toList ∨ path = "./langs".toList then .items [.entry ⟨"en.json".toList, true⟩]
    else .missing
  file path :=
    if path = "config.json".toList ∨ path = "nested/config.json".toList then .text "[]".toList
    else if path = "langs/en.json".toList ∨ path = "./langs/en.json".toList then
      .text "[\"en\", null, \x7b\"title\": \"Inbox\"\x7d]".toList
    else .missing

/-- Without a configuration, and with one in the current directory, a given directory is the same,
although its path is not. -/
theorem given_directory_follows_configuration_beside :
    let disk := packBesideConfig
    let wording : Wording := fun _ => []
    let alone := ["check".toList, "langs".toList]
    let beside := alone ++ ["--config=config.json".toList]
    let action := Action.check { directory := some "langs".toList }
    loadConfig disk none = .ok ({}, ['.']) ∧
    loadConfig disk (some "config.json".toList) = .ok ({}, []) ∧
    (∀ library, Invocation.Loads disk { config := none, action } library ↔
      Invocation.Loads disk { config := some "config.json".toList, action } library) ∧
    (run wording disk alone).status = (run wording disk beside).status ∧
    (run wording disk alone).output = (run wording disk beside).output ∧
    (run wording disk beside).status = 0 := by
  intro disk wording alone beside action
  have asked : Invocation.ofArguments alone = .ok { config := none, action } := rfl
  have asked' : Invocation.ofArguments beside =
      .ok { config := some "config.json".toList, action } := rfl
  have configured : loadConfig disk none = .ok ({}, ['.']) := rfl
  have configured' : loadConfig disk (some "config.json".toList) = .ok ({}, []) := by
    decide +kernel
  obtain ⟨-, alike, -⟩ := given_directory_follows_configuration wording disk asked asked' rfl
    configured configured' ⟨rfl, rfl, rfl⟩
  have same : disk.SamePacks (Path.join ['.'] "langs".toList) (Path.join [] "langs".toList) := by
    let entries : List DirectoryEntry := [⟨"en.json".toList, true⟩]
    refine ⟨@Listing.SamePacks.entries entries entries (.refl _), fun listed same entry mem _ => ?_⟩
    have shown : entries.map DirectoryItem.entry = listed.map .entry := Listing.items.inj same
    have injective : Function.Injective DirectoryItem.entry := fun _ _ => DirectoryItem.entry.inj
    rw [← List.map_injective_iff.2 injective shown, List.mem_singleton] at mem
    rw [mem]
    rfl
  obtain ⟨loads, status, output⟩ := alike same
  exact ⟨configured, configured', loads, status, output, by decide +kernel⟩

/-- A configuration below the current directory takes a given directory with it: it is looked for
beside the configuration, where there is none, so that no locale is found. -/
theorem configuration_moves_given_directory :
    let disk := packBesideConfig
    let wording : Wording := fun _ => []
    let beside := ["check".toList, "langs".toList, "--config=config.json".toList]
    let below := ["check".toList, "langs".toList, "--config=nested/config.json".toList]
    let action := Action.check { directory := some "langs".toList }
    Invocation.ofArguments beside = .ok { config := some "config.json".toList, action } ∧
    Invocation.ofArguments below = .ok { config := some "nested/config.json".toList, action } ∧
    loadConfig disk (some "config.json".toList) = .ok ({}, []) ∧
    loadConfig disk (some "nested/config.json".toList) = .ok ({}, "nested".toList) ∧
    (run wording disk beside).status = 0 ∧
    (run wording disk beside).output =
      unlines ["Loaded 1 locale(s); fallback locale: en".toList,
        " - en [en]: 1 strings (0 plural) [fallback]".toList] ∧
    (run wording disk below).status = 1 ∧ (run wording disk below).output = [] := by
  refine ⟨rfl, rfl, ?_, ?_, ?_, ?_, ?_, ?_⟩ <;> decide +kernel

end Command
end LocaleText
