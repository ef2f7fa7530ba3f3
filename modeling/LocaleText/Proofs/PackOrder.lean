import LocaleText.Disk.FileTree
import LocaleText.Proofs.ByteOrder
import LocaleText.Proofs.Fallback
import Mathlib.Data.List.Perm.Basic

/-!
# LocaleText.Proofs.PackOrder

**Packs are loaded in a fixed order.** What is met in a directory, and in which order, is said by
`Disk.Shows`: nothing where it is missing, a fault where it cannot be gone through, and otherwise
the packs in it, in the order of the bytes of their names, which for the entries of one directory is
the order of their paths (`Path.precedes_join_iff`). Loading directories is one fold over all that
is met in them, one directory after the other (`Library.foldlM_addDirectory`).

So the library depends neither on the order in which a directory is listed nor on what stands beside
its packs (`Library.addDirectories_congr`). The fault does in one case: everything listed is
examined before anything is sorted, so that of several obstacles in a directory the one listed first
is reported (`Listing.SamePacks.of_perm`, `listing_order_decides_fault`).
-/

namespace LocaleText

/-! ### Paths of directory entries -/

namespace Text

theorem pieces_append (sep : Char) (left right : Text) :
    pieces sep (left ++ sep :: right) = pieces sep left ++ pieces sep right := by
  induction left with
  | nil => simp [pieces, cuts]
  | cons c cs ih =>
      simp only [pieces] at ih ⊢
      by_cases same : c = sep
      · simp [cuts, same, ih]
      · obtain ⟨first, others⟩ := List.cons.inj ih
        simp [cuts, same, first, others]

end Text

namespace Path

/-- Whether a directory can have an entry of that name. -/
def IsEntryName (name : Text) : Prop :=
  isVoidName name = false ∧ separator ∉ name

/-- Whether a path comes before another one: both have the same start, and the names behind it are
compared one after the other by their bytes. Doubled separators and names that lead nowhere do not
count. -/
def Precedes (a b : Text) : Prop :=
  anchor a = anchor b ∧ (names a).map Text.bytes < (names b).map Text.bytes

/-- The names on a path are those in front of a separator and those behind it. -/
theorem names_append (left right : Text) :
    names (left ++ separator :: right) = names left ++ names right := by
  rw [names, Text.pieces_append, List.filter_append]
  rfl

/-- Names that paths share do not decide which comes first. -/
theorem append_lt_append_iff {shared left right : List (List UInt8)} :
    shared ++ left < shared ++ right ↔ left < right := by
  induction shared with
  | nil => rfl
  | cons name shared ih =>
      rw [List.cons_append, List.cons_append, List.cons_lt_cons_iff, ih]
      exact ⟨fun less => (less.resolve_left (List.lt_irrefl name)).2, fun less => .inr ⟨rfl, less⟩⟩

section Entry

variable {name : Text}

theorem IsEntryName.names_eq (entry : IsEntryName name) : names name = [name] := by
  simp [names, Text.pieces, Text.cuts_of_not_mem entry.2, entry.1]

theorem IsEntryName.isAbsolute (entry : IsEntryName name) : isAbsolute name = false := by
  cases name with
  | nil => rfl
  | cons c cs =>
      have other : c ≠ separator := fun same => entry.2 (same ▸ List.mem_cons_self)
      simp [Path.isAbsolute, other]

/-- A name of an entry is no start of a path. -/
theorem IsEntryName.anchor_eq (entry : IsEntryName name) : anchor name = [] := by
  obtain ⟨full, plain⟩ := entry
  unfold anchor
  split
  · exact absurd List.mem_cons_self plain
  · simp [isVoidName] at full
  · exact absurd (List.mem_cons_of_mem _ List.mem_cons_self) plain
  · rfl

/-- Behind the same text, which is the path of the directory, stand a separator and the name. This
is not so where the directory has an empty path, for then the name is the whole path. -/
theorem exists_parent {directory : Text} (h : directory ≠ []) :
    ∃ parent, ∀ name, IsEntryName name → join directory name = parent ++ separator :: name := by
  -- A separator at the end of the path is the one before the name.
  cases last : directory.getLast? == some separator with
  | true =>
      obtain ⟨parent, rfl⟩ := List.getLast?_eq_some_iff.1 (beq_iff_eq.1 last)
      exact ⟨parent, fun name entry => by simp [join, entry.isAbsolute]⟩
  | false =>
      exact ⟨directory, fun name entry => by simp [join, entry.isAbsolute, last, h]⟩

/-- The start of a path does not depend on the name at its end. -/
theorem anchor_append (parent a b : Text) :
    anchor (parent ++ separator :: a) = anchor (parent ++ separator :: b) := by
  -- Two characters decide, of which the separator may be the second.
  cases parent with
  | nil => rfl
  | cons c rest =>
      cases rest with
      | nil =>
          rw [List.singleton_append, List.singleton_append]
          unfold anchor separator
          split <;> simp_all
      | cons d rest =>
          simp only [List.cons_append]
          unfold anchor
          split <;> simp_all

/-- **The entries of a directory** are in the order of their paths when they are in the order of the
bytes of their names. So it does not matter that it is paths that are sorted. -/
theorem precedes_join_iff (directory : Text) {a b : Text} (ha : IsEntryName a)
    (hb : IsEntryName b) :
    Precedes (join directory a) (join directory b) ↔ Text.bytes a < Text.bytes b := by
  have single {left right : List UInt8} : [left] < [right] ↔ left < right := by
    simp [List.cons_lt_cons_iff]
  by_cases h : directory = []
  · subst h
    simp [Precedes, join, ha.isAbsolute, hb.isAbsolute, ha.anchor_eq, hb.anchor_eq, ha.names_eq,
      hb.names_eq, single]
  · obtain ⟨parent, joined⟩ := exists_parent h
    rw [Precedes, joined a ha, joined b hb, anchor_append parent a b, names_append, names_append,
      ha.names_eq, hb.names_eq, List.map_append, List.map_append, append_lt_append_iff]
    exact (and_iff_right rfl).trans single

end Entry

end Path

/-- A path that leads on from a file is blocked. That is not the same as leading to nothing: what is
blocked is reported, while nothing is skipped. -/
theorem FileTree.follow_below_file {tree : FileTree} {links : Nat} {here : List Text}
    {name next : Text} {steps : List Text} {text : Option Text}
    (inside : tree.node? here = some .directory) (full : Path.isVoidName name = false)
    (down : name ≠ upwards) (fits : name.utf8Size ≤ Path.maxNameSize)
    (file : tree.node? (here ++ [name]) = some (.file text)) :
    tree.follow links here (name :: next :: steps) = .blocked := by
  rw [follow, if_neg (not_not.2 inside), if_neg (by simp [full]), if_neg down,
    if_neg fits.not_gt]
  simp only [file]
  rw [follow, if_pos (by simp [file])]

/-! ### What a listing meets -/

/-- Whether it is an entry that can be examined. Anything else is an obstacle, at which the
examination of a directory ends. -/
def DirectoryItem.isEntry : DirectoryItem → Bool
  | entry _ => true
  | _ => false

/-- The first obstacle in a listing. -/
def Listing.obstacle? : Listing → Option DirectoryItem
  | .items met => met.find? fun item => !item.isEntry
  | _ => none

/-- Two listings agree on what packs there are: they may list them in different orders, and other
things beside them. Where there are obstacles, nobody knows the packs, and the two listings agree in
having some, which need not be the same. -/
inductive Listing.SamePacks : Listing → Listing → Prop
  | missing : SamePacks .missing .missing
  | notListable : SamePacks .notListable .notListable
  | entries {entries others : List DirectoryEntry}
    (same : (entries.filter Pack.isPack).Perm (others.filter Pack.isPack)) :
    SamePacks (.items (entries.map .entry)) (.items (others.map .entry))
  | obstructed {items others : List DirectoryItem}
    (here : ∃ item ∈ items, item.isEntry = false) (there : ∃ item ∈ others, item.isEntry = false) :
    SamePacks (.items items) (.items others)

section Items

variable {directory : Text} {items others : List DirectoryItem}

/-- Where nothing is an obstacle, all are entries. -/
theorem DirectoryItem.exists_entries (free : ∀ item ∈ items, item.isEntry = true) :
    ∃ entries : List DirectoryEntry, items = entries.map .entry := by
  induction items with
  | nil => exact ⟨[], rfl⟩
  | cons item items ih =>
      obtain ⟨here, later⟩ := List.forall_mem_cons.1 free
      obtain ⟨entries, rfl⟩ := ih later
      cases item with
      | entry entry => exact ⟨entry :: entries, rfl⟩
      | unexaminable name => cases here
      | interruption => cases here

/-- An obstacle is the first one when there are but entries in front of it. -/
theorem Listing.obstacle?_eq_some_iff {obstacle : DirectoryItem} :
    (Listing.items items).obstacle? = some obstacle ↔
      obstacle.isEntry = false ∧ ∃ (entries : List DirectoryEntry) (back : List DirectoryItem),
        items = entries.map .entry ++ obstacle :: back := by
  rw [obstacle?, List.find?_eq_some_iff_append, Bool.not_eq_true']
  refine and_congr_right' ⟨fun h => ?_, fun h => ?_⟩
  · obtain ⟨front, back, rfl, free⟩ := h
    have onlyEntries : ∀ item ∈ front, item.isEntry = true :=
      fun item mem => by simpa using free item mem
    obtain ⟨entries, rfl⟩ := DirectoryItem.exists_entries onlyEntries
    exact ⟨entries, back, rfl⟩
  · obtain ⟨entries, back, rfl⟩ := h
    refine ⟨_, back, rfl, fun item mem => ?_⟩
    obtain ⟨entry, -, rfl⟩ := List.mem_map.1 mem
    rfl

theorem Listing.exists_obstacle? (obstructed : ∃ item ∈ items, item.isEntry = false) :
    ∃ obstacle, (Listing.items items).obstacle? = some obstacle := by
  obtain ⟨item, mem, obstacle⟩ := obstructed
  exact Option.isSome_iff_exists.1 (List.find?_isSome.2 ⟨item, mem, by simp [obstacle]⟩)

/-- **The order of a listing** decides at most which obstacle is met first, and it does not decide
that if there are no two different ones. -/
theorem Listing.SamePacks.of_perm (reordered : items.Perm others) :
    SamePacks (.items items) (.items others) ∧
      ((∀ one ∈ items, ∀ another ∈ items, one.isEntry = false → another.isEntry = false →
        one = another) → (Listing.items items).obstacle? = (Listing.items others).obstacle?) := by
  -- Either both have obstacles, or neither has one and both are lists of entries.
  by_cases obstructed : ∃ item ∈ items, item.isEntry = false
  · have obstructed' : ∃ item ∈ others, item.isEntry = false := by
      obtain ⟨item, mem, obstacle⟩ := obstructed
      exact ⟨item, reordered.mem_iff.1 mem, obstacle⟩
    refine ⟨.obstructed obstructed obstructed', fun single => ?_⟩
    obtain ⟨one, first⟩ := exists_obstacle? obstructed
    obtain ⟨another, first'⟩ := exists_obstacle? obstructed'
    rw [first, first']
    rw [obstacle?] at first first'
    exact congrArg some (single one (List.mem_of_find?_eq_some first) another
      (reordered.mem_iff.2 (List.mem_of_find?_eq_some first'))
      (by simpa using List.find?_some first) (by simpa using List.find?_some first'))
  · have free : ∀ item ∈ items, item.isEntry = true := by simpa using obstructed
    have free' : ∀ item ∈ others, item.isEntry = true :=
      fun item mem => free item (reordered.mem_iff.2 mem)
    have clear {items : List DirectoryItem} (free : ∀ item ∈ items, item.isEntry = true) :
        (Listing.items items).obstacle? = none := by
      simpa [obstacle?] using free
    refine ⟨?_, fun _ => (clear free).trans (clear free').symm⟩
    obtain ⟨entries, rfl⟩ := DirectoryItem.exists_entries free
    obtain ⟨others, rfl⟩ := DirectoryItem.exists_entries free'
    have injective : Function.Injective DirectoryItem.entry := fun _ _ => DirectoryItem.entry.inj
    exact .entries (((List.map_perm_map_iff injective).1 reordered).filter _)

/-- Where all can be examined, the packs are found and sorted. -/
theorem Pack.paths_entries (directory : Text) (entries : List DirectoryEntry) :
    paths directory (.items (entries.map .entry)) =
      .ok ((names entries).map (Path.join directory)) := by
  have examined : (entries.map .entry).mapM (examine directory) = .ok entries := by
    rw [List.mapM_map]
    exact (mapM_eq_ok fun _ _ => rfl).trans (congrArg _ (List.map_id' entries))
  rw [paths, examined]
  rfl

/-- The examination ends at the first obstacle, with what it says of that. What stands in front of
it has been examined without a fault, but is given up. -/
theorem Pack.paths_of_obstacle? {obstacle : DirectoryItem}
    (first : (Listing.items items).obstacle? = some obstacle) {fault : LoadError}
    (fails : examine directory obstacle = .error fault) :
    paths directory (.items items) = .error fault := by
  obtain ⟨-, entries, back, rfl⟩ := Listing.obstacle?_eq_some_iff.1 first
  rw [paths, map_eq_error_iff, mapM_eq_error_iff]
  refine ⟨_, obstacle, back, rfl, fun item mem => ?_, fails⟩
  obtain ⟨entry, -, rfl⟩ := List.mem_map.1 mem
  exact ⟨entry, rfl⟩

/-- An obstacle is the same fault in whatever listing it is met first. The fault depends on nothing
else, so that two listings that meet the same obstacle first fail alike. -/
theorem Pack.exists_fault (directory : Text) {obstacle : DirectoryItem}
    (bad : obstacle.isEntry = false) :
    ∃ fault, ∀ {items : List DirectoryItem}, (Listing.items items).obstacle? = some obstacle →
      paths directory (.items items) = .error fault := by
  cases obstacle with
  | entry entry => cases bad
  | unexaminable name => exact ⟨_, fun first => paths_of_obstacle? first rfl⟩
  | interruption => exact ⟨_, fun first => paths_of_obstacle? first rfl⟩

/-- Behind an obstacle no packs are found, and neither are those in front of it. -/
theorem Pack.exists_paths_error (directory : Text)
    (obstructed : ∃ item ∈ items, item.isEntry = false) :
    ∃ fault, paths directory (.items items) = .error fault := by
  obtain ⟨obstacle, first⟩ := Listing.exists_obstacle? obstructed
  obtain ⟨fault, fails⟩ := exists_fault directory (Listing.obstacle?_eq_some_iff.1 first).1
  exact ⟨fault, fails first⟩

end Items

/-! ### What is met in a directory -/

/-- What is met, in order, where the packs of a directory are looked for: the paths of the packs, or
the fault at which the search ends. -/
inductive Disk.Shows (disk : Disk) (directory : Text) : List (Except LoadError Text) → Prop where
  /-- Nothing is met where there is no directory. -/
  | missing (listing : disk.directory directory = .missing) : Shows disk directory []
  /-- What is no directory cannot be listed. -/
  | notListable (listing : disk.directory directory = .notListable) :
    Shows disk directory [.error (.unlistableDirectory directory)]
  /-- The first entry that cannot be examined ends the search, before there is any pack and whether
  or not it would be one. -/
  | unexaminable {entries : List DirectoryEntry} {name : Text} {back : List DirectoryItem}
    (listing : disk.directory directory =
      .items (entries.map .entry ++ .unexaminable name :: back)) :
    Shows disk directory [.error (.unreadableFile (Path.join directory name))]
  /-- So does a listing that breaks off. -/
  | interrupted {entries : List DirectoryEntry} {back : List DirectoryItem}
    (listing : disk.directory directory = .items (entries.map .entry ++ .interruption :: back)) :
    Shows disk directory [.error (.unlistableDirectory directory)]
  /-- The packs are met in the order of their names. -/
  | packs {entries : List DirectoryEntry} {names : List Text}
    (listing : disk.directory directory = .items (entries.map .entry))
    (all : names.Perm ((entries.filter Pack.isPack).map DirectoryEntry.name))
    (sorted : names.Pairwise fun a b => ¬Text.bytes b < Text.bytes a) :
    Shows disk directory (names.map fun name => .ok (Path.join directory name))

theorem Pack.sorted_names (entries : List DirectoryEntry) :
    (Pack.names entries).Pairwise fun a b => ¬Text.bytes b < Text.bytes a := by
  have trans {a b c : Text} (first : ¬b < a) (second : ¬c < b) : ¬c < a := by
    intro less
    by_cases same : a = b
    · exact second (same ▸ less)
    · exact second (List.lt_trans less (Entries.lt_of_not_lt_of_ne first (Ne.symm same)))
  have total (a b : Text) : ¬b < a ∨ ¬a < b := by
    by_cases less : a < b
    · exact .inl (List.lt_asymm less)
    · exact .inr less
  have sorted : (Pack.names entries).Pairwise fun a b => !decide (b < a) := by
    refine List.pairwise_mergeSort (fun a b c first second => ?_) (fun a b => ?_) _
    · simp only [Bool.not_eq_true', decide_eq_false_iff_not] at first second ⊢
      exact trans first second
    · simpa using total a b
  refine sorted.imp fun {a b} ordered => ?_
  rw [Text.bytes_lt_bytes_iff]
  simpa using ordered

/-- There is one order of names. Bytes tell names apart, so names that are sorted both ways are
equal. -/
theorem Pack.eq_names {entries : List DirectoryEntry} {names : List Text}
    (all : names.Perm ((entries.filter Pack.isPack).map DirectoryEntry.name))
    (sorted : names.Pairwise fun a b => ¬Text.bytes b < Text.bytes a) :
    names = Pack.names entries := by
  have all' : names.Perm (Pack.names entries) := all.trans (List.mergeSort_perm _ _).symm
  refine all'.eq_of_pairwise (fun a b _ _ notGreater notLess => ?_) sorted
    (Pack.sorted_names entries)
  rw [Text.bytes_lt_bytes_iff] at notGreater notLess
  exact by_contra fun other => notGreater (Entries.lt_of_not_lt_of_ne notLess other)

/-- The names of the packs do not depend on the order of the entries, or on entries that are no
packs. -/
theorem Pack.names_congr {entries others : List DirectoryEntry}
    (same : (entries.filter Pack.isPack).Perm (others.filter Pack.isPack)) :
    Pack.names entries = Pack.names others :=
  Pack.eq_names ((List.mergeSort_perm _ _).trans (same.map DirectoryEntry.name))
    (Pack.sorted_names entries)

/-- **Listings that agree on the packs** lead to the same paths, if any. Where there are none, both
fail, and they fail alike if they meet the same obstacle first. -/
theorem Pack.paths_congr (directory : Text) {here there : Listing} (same : here.SamePacks there) :
    (paths directory here).toOption = (paths directory there).toOption ∧
      (here.obstacle? = there.obstacle? → paths directory here = paths directory there) := by
  cases same with
  | missing => exact ⟨rfl, fun _ => rfl⟩
  | notListable => exact ⟨rfl, fun _ => rfl⟩
  | entries same =>
      rw [paths_entries, paths_entries, names_congr same]
      exact ⟨rfl, fun _ => rfl⟩
  | obstructed obstructed obstructed' =>
      obtain ⟨fault', fails'⟩ := exists_paths_error directory obstructed'
      obtain ⟨obstacle, first⟩ := Listing.exists_obstacle? obstructed
      obtain ⟨fault, fails⟩ := exists_fault directory (Listing.obstacle?_eq_some_iff.1 first).1
      refine ⟨?_, fun same => (fails first).trans (fails (same ▸ first)).symm⟩
      rw [fails first, fails']
      rfl

/-- In every directory something is met, be it nothing but a fault. -/
theorem Disk.exists_shows (disk : Disk) (directory : Text) : ∃ met, disk.Shows directory met := by
  cases listing : disk.directory directory with
  | missing => exact ⟨_, .missing listing⟩
  | notListable => exact ⟨_, .notListable listing⟩
  | items items =>
      by_cases obstructed : ∃ item ∈ items, item.isEntry = false
      · obtain ⟨obstacle, first⟩ := Listing.exists_obstacle? obstructed
        obtain ⟨bad, entries, back, rfl⟩ := Listing.obstacle?_eq_some_iff.1 first
        cases obstacle with
        | entry entry => cases bad
        | unexaminable name => exact ⟨_, .unexaminable listing⟩
        | interruption => exact ⟨_, .interrupted listing⟩
      · obtain ⟨entries, rfl⟩ := DirectoryItem.exists_entries (by simpa using obstructed)
        exact ⟨_, .packs listing (List.mergeSort_perm _ _) (Pack.sorted_names entries)⟩

namespace Library

/-! ### Loading what is met -/

/-- Adds the locale of a pack that is met, unless a fault is met. -/
def addMet (disk : Disk) (library : Library) (met : Except LoadError Text) :
    Except LoadError Library :=
  met.bind (addPack disk library)

variable {disk other : Disk} {library : Library}

/-- Loading a directory is going through what is met in it. -/
theorem addDirectory_eq {directory : Text} {met : List (Except LoadError Text)}
    (shows : disk.Shows directory met) (library : Library) :
    addDirectory disk library directory = met.foldlM (addMet disk) library := by
  rw [addDirectory]
  cases shows with
  | missing listing => rw [listing]; rfl
  | notListable listing => rw [listing]; rfl
  | unexaminable listing =>
      rw [listing, Pack.paths_of_obstacle? (Listing.obstacle?_eq_some_iff.2 ⟨rfl, _, _, rfl⟩) rfl]
      rfl
  | interrupted listing =>
      rw [listing, Pack.paths_of_obstacle? (Listing.obstacle?_eq_some_iff.2 ⟨rfl, _, _, rfl⟩) rfl]
      rfl
  | packs listing all sorted =>
      rw [listing, Pack.paths_entries, Pack.eq_names all sorted, List.foldlM_map]
      exact List.foldlM_map

/-- **Loading directories** is going through all that is met in them, one directory after the
other. -/
theorem foldlM_addDirectory {directories : List Text} {met : List (List (Except LoadError Text))}
    (shows : List.Forall₂ disk.Shows directories met) (library : Library) :
    directories.foldlM (addDirectory disk) library = met.flatten.foldlM (addMet disk) library := by
  induction shows generalizing library with
  | nil => rfl
  | cons first _ ih =>
      rw [List.foldlM_cons, List.flatten_cons, List.foldlM_append, addDirectory_eq first]
      exact bind_congr ih

theorem exists_forall₂_shows (disk : Disk) (directories : List Text) :
    ∃ met, List.Forall₂ disk.Shows directories met := by
  induction directories with
  | nil => exact ⟨[], .nil⟩
  | cons directory directories ih =>
      obtain ⟨met, others⟩ := ih
      obtain ⟨first, shows⟩ := disk.exists_shows directory
      exact ⟨first :: met, .cons shows others⟩

section Relisted

variable (files : ∀ path, other.file path = disk.file path)
include files

/-- A directory gives the same library, if any, for all listings that agree on the packs. -/
theorem addDirectory_congr {directory : Text}
    (same : (disk.directory directory).SamePacks (other.directory directory)) (library : Library) :
    (addDirectory other library directory).toOption =
        (addDirectory disk library directory).toOption ∧
      ((disk.directory directory).obstacle? = (other.directory directory).obstacle? →
        addDirectory other library directory = addDirectory disk library directory) := by
  have packs : addPack other = addPack disk := by
    funext library path
    rw [addPack, addPack, files]
  obtain ⟨alike, equal⟩ := Pack.paths_congr directory same
  rw [addDirectory, addDirectory, packs, toOption_bind, toOption_bind, alike]
  exact ⟨rfl, fun first => by rw [equal first]⟩

/-- **Directories that hold the same packs** give the same library, if any, and the same fault if
the obstacles that are met first are the same. -/
theorem addDirectories_congr {directories : List Text} (same : ∀ directory ∈ directories,
      (disk.directory directory).SamePacks (other.directory directory)) (defaultLocale : Text) :
    (library.addDirectories other directories defaultLocale).toOption =
        (library.addDirectories disk directories defaultLocale).toOption ∧
      ((∀ directory ∈ directories,
        (disk.directory directory).obstacle? = (other.directory directory).obstacle?) →
        library.addDirectories other directories defaultLocale =
          library.addDirectories disk directories defaultLocale) := by
  rw [addDirectories, addDirectories]
  constructor
  · rw [toOption_map, toOption_map, toOption_foldlM_congr fun library directory mem =>
      (addDirectory_congr files (same directory mem) library).1]
  · intro first
    rw [foldlM_congr fun library directory mem =>
      (addDirectory_congr files (same directory mem) library).2 (first directory mem)]

end Relisted

/-- Directories that are missing do not count, wherever they stand among the others. -/
theorem addDirectories_filter (directories : List Text) (defaultLocale : Text) :
    library.addDirectories disk
        (directories.filter fun directory => decide (disk.directory directory ≠ .missing))
        defaultLocale =
      library.addDirectories disk directories defaultLocale := by
  have filled (library : Library) :
      (directories.filter fun directory => decide (disk.directory directory ≠ .missing)).foldlM
        (addDirectory disk) library = directories.foldlM (addDirectory disk) library := by
    induction directories generalizing library with
    | nil => rfl
    | cons directory directories ih =>
        by_cases missing : disk.directory directory = .missing
        · rw [List.filter_cons_of_neg (by simp [missing]), List.foldlM_cons, addDirectory, missing]
          exact ih library
        · rw [List.filter_cons_of_pos (by simp [missing]), List.foldlM_cons, List.foldlM_cons]
          exact bind_congr ih
  rw [addDirectories, addDirectories, filled]

/-! ### The default locale -/

/-- The library whose fallback is the default locale, if it is loaded, and else the first locale.
The fallback is active. -/
def chooseDefault (library : Library) (code : Text) : Library :=
  let fallback := (library.position? code).or (library.catalogs.head?.map fun _ => 0)
  { library with fallback := fallback, active := fallback }

/-- Whether the first locale is the fallback. -/
def FallsOnFirst (library : Library) : Prop :=
  library.fallback = library.catalogs.head?.map fun _ => 0

/-- Adding a locale keeps the first one first, and makes it the fallback if there was none. -/
theorem FallsOnFirst.push (first : library.FallsOnFirst) (catalog : Catalog) :
    (library.push catalog).FallsOnFirst := by
  rw [FallsOnFirst] at first
  cases catalogs : library.catalogs <;> simp [FallsOnFirst, Library.push, first, catalogs]

/-- While directories are loaded, the fallback is the first locale. The default locale is chosen
afterwards, so until then nothing else can be. -/
theorem fallsOnFirst_of_foldlM {registry : Registry} {options : ParseOptions}
    {met : List (Except LoadError Text)} {full : Library}
    (h : met.foldlM (addMet disk) (new registry options) = .ok full) : full.FallsOnFirst := by
  have begins : (new registry options).FallsOnFirst := rfl
  refine foldlM_preserves (fun {library item next} first added => ?_) begins h
  cases item with
  | error fault => cases added
  | ok path =>
      refine addPack_preserves FallsOnFirst (fun first added => ?_) first added
      obtain ⟨catalog, -, rfl⟩ := add_eq_ok_iff.1 added
      exact first.push catalog

theorem fallbackCatalog?_chooseDefault (library : Library) (code : Text) :
    (library.chooseDefault code).fallbackCatalog? =
      (library.catalog? code).or library.catalogs.head? := by
  rw [fallbackCatalog?, chooseDefault]
  cases position : library.position? code with
  | none =>
      rw [catalog?_eq_none_iff.2 (position?_eq_none_iff.1 position)]
      cases library.catalogs <;> simp
  | some index =>
      obtain ⟨catalog, here, -⟩ := exists_of_position? position
      rw [catalog?_eq_of_position? position, here]
      simp [here]

end Library

/-- **Packs are loaded in a fixed order.** What is met in the directories, one after the other, is
gone through in that order: each pack is read and its locale added to a library that is empty at
first, up to the first fault, and in the end the default locale is chosen. A library made from files
or from a configuration is made like this.

Neither the order of the listings nor what they list beside the packs changes the library, or
whether there is one. It does not change the fault either, unless a directory has several obstacles:
everything listed is examined before any pack is read, and the first thing that cannot be examined
is reported, pack or no pack (`listing_order_decides_fault`). Directories that are missing do not
count. The order of the packs in a directory is that of their names by bytes, which is the order of
their paths. -/
theorem packs_load_in_order (disk : Disk) (directories : List Text) (defaultLocale : Text)
    (registry : Registry) (options : ParseOptions) :
    (∃ met, List.Forall₂ disk.Shows directories met) ∧
    (∀ met, List.Forall₂ disk.Shows directories met →
      (Library.new registry options).addDirectories disk directories defaultLocale =
        (met.flatten.foldlM (Library.addMet disk) (Library.new registry options)).map
          fun full => full.chooseDefault defaultLocale) ∧
    (∀ other : Disk, (∀ path, other.file path = disk.file path) →
      (∀ directory ∈ directories,
        (disk.directory directory).SamePacks (other.directory directory)) →
      ((Library.new registry options).addDirectories other directories defaultLocale).toOption =
          ((Library.new registry options).addDirectories disk directories defaultLocale).toOption ∧
        ((∀ directory ∈ directories,
          (disk.directory directory).obstacle? = (other.directory directory).obstacle?) →
          (Library.new registry options).addDirectories other directories defaultLocale =
            (Library.new registry options).addDirectories disk directories defaultLocale)) ∧
    (∀ items others : List DirectoryItem, items.Perm others →
      Listing.SamePacks (.items items) (.items others) ∧
        ((∀ one ∈ items, ∀ another ∈ items, one.isEntry = false → another.isEntry = false →
          one = another) →
          (Listing.items items).obstacle? = (Listing.items others).obstacle?)) ∧
    (Library.new registry options).addDirectories disk
        (directories.filter fun directory => decide (disk.directory directory ≠ .missing))
        defaultLocale =
      (Library.new registry options).addDirectories disk directories defaultLocale ∧
    (∀ directory a b, Path.IsEntryName a → Path.IsEntryName b →
      (Path.Precedes (Path.join directory a) (Path.join directory b) ↔
        Text.bytes a < Text.bytes b)) ∧
    (∀ library : Library, (library.chooseDefault defaultLocale).fallbackCatalog? =
        (library.catalog? defaultLocale).or library.catalogs.head? ∧
      (library.chooseDefault defaultLocale).activeCatalog? =
        (library.chooseDefault defaultLocale).fallbackCatalog?) ∧
    Library.load disk directories defaultLocale registry =
      (Library.new registry {}).addDirectories disk directories defaultLocale ∧
    ∀ config base, Library.ofConfig disk config base =
      (Library.new config.registry config.parseOptions).addDirectories disk
        (config.directories base) config.defaultLocale := by
  refine ⟨Library.exists_forall₂_shows disk directories, fun met shows => ?_,
    fun other files same => Library.addDirectories_congr files same defaultLocale,
    fun items others reordered => Listing.SamePacks.of_perm reordered,
    Library.addDirectories_filter directories defaultLocale,
    fun directory a b => Path.precedes_join_iff directory,
    fun library => ⟨library.fallbackCatalog?_chooseDefault defaultLocale, rfl⟩, rfl,
    fun config base => rfl⟩
  rw [Library.addDirectories, Library.foldlM_addDirectory shows]
  -- What has been met was added to an empty library, so that the first locale is the fallback until
  -- the default locale is chosen.
  cases filled : met.flatten.foldlM (Library.addMet disk) (Library.new registry options) with
  | error fault => rfl
  | ok full =>
      show Except.ok (full.setDefault defaultLocale) = .ok (full.chooseDefault defaultLocale)
      rw [Library.setDefault, Library.chooseDefault, Library.fallsOnFirst_of_foldlM filled]

/-- What there is in a directory with two packs. -/
def Disk.mixedItems : List DirectoryItem :=
  [.entry ⟨"fr.json".toList, true⟩, .entry ⟨"notes.txt".toList, true⟩,
   .entry ⟨"old.json".toList, false⟩, .entry ⟨"de.json".toList, true⟩]

/-- A directory in which `items` are met, with two packs if they are, and one more pack elsewhere.
Anything else is missing. -/
def Disk.twoDirectories (items : List DirectoryItem) : Disk where
  directory path :=
    if path = "locales".toList then .items items
    else if path = "more".toList then .items [.entry ⟨"en.json".toList, true⟩]
    else .missing
  file path :=
    if path = "locales/de.json".toList then .text "[\"de\"]".toList
    else if path = "locales/fr.json".toList then .text "[\"fr\", \"Français\"]".toList
    else if path = "more/en.json".toList then .text "[\"en\"]".toList
    else .missing

/-- Two directories and one that is missing, of which one is listed in the other order: the packs
are met by directory and name, and the default locale is active. -/
theorem packs_load_in_order_mixed :
    let disk := Disk.twoDirectories Disk.mixedItems
    let directories := ["more".toList, "none".toList, "locales".toList]
    let met := [[.ok "more/en.json".toList], [],
      [.ok "locales/de.json".toList, .ok "locales/fr.json".toList]]
    let loaded := (Library.new ∅ {}).addDirectories disk directories "fr".toList
    List.Forall₂ disk.Shows directories met ∧
    loaded = (met.flatten.foldlM (Library.addMet disk) (Library.new ∅ {})).map
      (fun full => full.chooseDefault "fr".toList) ∧
    loaded.toOption.map (fun library => (library.codes, library.activeCode?)) =
      some (["en".toList, "de".toList, "fr".toList], some "fr".toList) ∧
    (Library.new ∅ {}).addDirectories (Disk.twoDirectories Disk.mixedItems.reverse) directories
      "fr".toList = loaded ∧
    Path.Precedes "locales/de.json".toList "locales/fr.json".toList := by
  intro disk directories met loaded
  obtain ⟨-, folds, congr, reorder, -, paths, -⟩ :=
    packs_load_in_order disk directories "fr".toList ∅ {}
  have shows : List.Forall₂ disk.Shows directories met := by
    have first : disk.Shows "more".toList [.ok "more/en.json".toList] :=
      @Disk.Shows.packs disk "more".toList [⟨"en.json".toList, true⟩] ["en.json".toList] rfl
        (by decide) (by decide)
    have last : disk.Shows "locales".toList
        [.ok "locales/de.json".toList, .ok "locales/fr.json".toList] :=
      @Disk.Shows.packs disk "locales".toList
        [⟨"fr.json".toList, true⟩, ⟨"notes.txt".toList, true⟩, ⟨"old.json".toList, false⟩,
         ⟨"de.json".toList, true⟩]
        ["de.json".toList, "fr.json".toList] rfl (by decide) (by decide)
    exact .cons first (.cons (.missing rfl) (.cons last .nil))
  refine ⟨shows, folds met shows, ?_, ?_, ?_⟩
  · rw [show loaded = _ from folds met shows]
    decide +kernel
  · obtain ⟨reversed, -⟩ := reorder _ _ (List.reverse_perm Disk.mixedItems).symm
    have elsewhere := @Listing.SamePacks.entries [⟨"en.json".toList, true⟩] _ (.refl _)
    refine (congr (Disk.twoDirectories Disk.mixedItems.reverse) (fun _ => rfl) ?_).2 ?_
    · exact List.forall_mem_cons.2 ⟨elsewhere,
        List.forall_mem_cons.2 ⟨.missing, List.forall_mem_singleton.2 reversed⟩⟩
    · decide
  · exact (paths "locales".toList "de.json".toList "fr.json".toList ⟨rfl, by decide⟩
      ⟨rfl, by decide⟩).2 (by decide)

/-- Of two entries that cannot be examined, the one listed first is reported, so that the order of
the listing shows. One that is no pack is an obstacle like any other, although loading succeeds
without it. A path below a file leads nowhere and is not skipped: it cannot be listed. -/
theorem listing_order_decides_fault :
    let load := fun (disk : Disk) (directory : Text) => Library.load disk [directory] [] ∅
    let unexaminable : List DirectoryItem :=
      [.unexaminable "a.json".toList, .unexaminable "b.json".toList]
    let packs : List DirectoryItem := [.entry ⟨"de.json".toList, true⟩]
    let notes : List DirectoryItem := [.unexaminable "notes.txt".toList]
    load (Disk.twoDirectories unexaminable) "locales".toList =
      .error (.unreadableFile "locales/a.json".toList) ∧
    load (Disk.twoDirectories unexaminable.reverse) "locales".toList =
      .error (.unreadableFile "locales/b.json".toList) ∧
    (load (Disk.twoDirectories packs) "locales".toList).isOk = true ∧
    load (Disk.twoDirectories (packs ++ notes)) "locales".toList =
      .error (.unreadableFile "locales/notes.txt".toList) ∧
    load (FileTree.empty.putFile "notes.txt".toList (some [])).disk "notes.txt/packs".toList =
      .error (.unlistableDirectory "notes.txt/packs".toList) := by
  refine ⟨rfl, rfl, by decide +kernel, rfl, ?_⟩
  have blocked : (FileTree.empty.putFile "notes.txt".toList (some [])).resolve
      "notes.txt/packs".toList = .blocked :=
    FileTree.follow_below_file rfl rfl (by decide) (by decide) rfl
  have listing : (FileTree.empty.putFile "notes.txt".toList (some [])).disk.directory
      "notes.txt/packs".toList = .notListable := by
    rw [FileTree.disk]
    simp only [blocked]
  simp only [Library.load, Library.addDirectories, List.foldlM_cons, Library.addDirectory, listing]
  rfl

end LocaleText
