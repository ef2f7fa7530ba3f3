import LocaleText.Text

/-!
# Tables sorted by name

A table is a list of named entries in strictly increasing order of their names, the order being
that of the characters' code points. It is written as an association list, because a value of the
JSON data model holds tables of values; `Table` packs such a list with the proof that it is sorted.
The view is `find?`: `find?_insert` says what an insertion changes, and `Table.sorted` makes the
entries' order a function of their names.
-/

namespace LocaleText

/-- A list of named entries. -/
abbrev Entries (α : Type) := List (Text × α)

namespace Entries

variable {α : Type}

/-- The first entry called `name`. -/
def find? (name : Text) : Entries α → Option α
  | [] => none
  | (key, value) :: rest => if key = name then some value else find? name rest

/-- Puts `value` under `name`, in place of an entry of that name or in front of the first greater
one. -/
def insert (name : Text) (value : α) : Entries α → Entries α
  | [] => [(name, value)]
  | (key, old) :: rest =>
    if name < key then (name, value) :: (key, old) :: rest
    else if name = key then (name, value) :: rest
    else (key, old) :: insert name value rest

/-- The names in strictly increasing order. -/
def Sorted (entries : Entries α) : Prop :=
  entries.Pairwise fun a b => a.1 < b.1

/-- Two names that are neither ordered nor equal one way are ordered the other way. -/
theorem lt_of_not_lt_of_ne {a b : Text} (h : ¬a < b) (ne : ¬a = b) : b < a := by
  by_cases less : b < a
  · exact less
  · exact absurd (List.le_antisymm (List.not_lt.1 less) (List.not_lt.1 h)) ne

theorem mem_insert {name : Text} {value : α} {entries : Entries α} {entry : Text × α}
    (h : entry ∈ insert name value entries) : entry = (name, value) ∨ entry ∈ entries := by
  induction entries with
  | nil => simpa [insert] using h
  | cons head rest ih =>
    obtain ⟨key, old⟩ := head
    simp only [insert] at h
    grind

theorem sorted_insert {name : Text} {value : α} {entries : Entries α} (h : Sorted entries) :
    Sorted (insert name value entries) := by
  induction entries with
  | nil => simp [insert, Sorted]
  | cons head rest ih =>
    obtain ⟨key, old⟩ := head
    obtain ⟨before, later⟩ := List.pairwise_cons.1 h
    simp only [insert]
    split
    · next less =>
      refine List.pairwise_cons.2 ⟨fun entry mem => ?_, h⟩
      rcases List.mem_cons.1 mem with rfl | mem
      · exact less
      · exact List.lt_trans less (before entry mem)
    · next notLess =>
      split
      · next same => subst same; exact List.pairwise_cons.2 ⟨before, later⟩
      · next other =>
        refine List.pairwise_cons.2 ⟨fun entry mem => ?_, ih later⟩
        rcases mem_insert mem with rfl | mem
        · exact lt_of_not_lt_of_ne notLess other
        · exact before entry mem

@[simp] theorem find?_insert (name key : Text) (value : α) (entries : Entries α) :
    find? key (insert name value entries) =
      if name = key then some value else find? key entries := by
  induction entries with
  | nil => simp [insert, find?]
  | cons head rest ih =>
    obtain ⟨k, old⟩ := head
    simp only [insert, find?]
    grind [find?]

/-- A name has an entry exactly when it stands among the names. -/
theorem isSome_find?_iff {name : Text} {entries : Entries α} :
    (find? name entries).isSome ↔ name ∈ entries.map Prod.fst := by
  induction entries with
  | nil => simp [find?]
  | cons head rest ih =>
    obtain ⟨key, value⟩ := head
    simp only [find?, List.map_cons, List.mem_cons]
    split
    · next same => simp [same]
    · next other => rw [ih, or_iff_right (Ne.symm other)]

theorem mem_of_find? {name : Text} {value : α} {entries : Entries α}
    (h : find? name entries = some value) : (name, value) ∈ entries := by
  induction entries with
  | nil => cases h
  | cons head rest ih =>
    obtain ⟨key, old⟩ := head
    simp only [find?] at h
    split at h
    · next same => cases h; exact same ▸ List.mem_cons_self
    · exact List.mem_cons_of_mem _ (ih h)

/-- In sorted entries, what stands under a name is what is found there. -/
theorem mem_iff_find? {name : Text} {value : α} {entries : Entries α} (sorted : Sorted entries) :
    (name, value) ∈ entries ↔ find? name entries = some value := by
  refine ⟨fun mem => ?_, mem_of_find?⟩
  induction entries with
  | nil => cases mem
  | cons head rest ih =>
    obtain ⟨key, first⟩ := head
    obtain ⟨before, later⟩ := List.pairwise_cons.1 sorted
    rcases List.mem_cons.1 mem with same | behind
    · cases same
      simp [find?]
    · have other : key ≠ name := by
        rintro rfl
        exact List.lt_irrefl _ (before (key, value) behind)
      simp [find?, other, ih later behind]

/-- The entries read from left to right, a later one in place of an earlier one of its name. -/
def ofList (entries : List (Text × α)) : Entries α :=
  entries.foldl (fun table (name, value) => insert name value table) []

/-- A name greater than all others stands last. -/
theorem insert_of_lt {name : Text} {value : α} {entries : Entries α}
    (h : ∀ entry ∈ entries, entry.1 < name) :
    insert name value entries = entries ++ [(name, value)] := by
  induction entries with
  | nil => rfl
  | cons head rest ih =>
    obtain ⟨key, old⟩ := head
    obtain ⟨less, later⟩ := List.forall_mem_cons.1 h
    have before : ¬name < key := fun greater => List.lt_irrefl _ (List.lt_trans less greater)
    have other : ¬name = key := by
      rintro rfl
      exact before less
    simp [insert, before, other, ih later]

/-- Sorted entries are not rearranged. -/
theorem ofList_of_sorted {entries : Entries α} (h : Sorted entries) : ofList entries = entries := by
  suffices ∀ table : Entries α, Sorted (table ++ entries) →
      entries.foldl (fun table (name, value) => insert name value table) table =
        table ++ entries from
    this [] h
  clear h
  induction entries with
  | nil => simp
  | cons head rest ih =>
    intro table sorted
    obtain ⟨name, value⟩ := head
    have before : ∀ entry ∈ table, entry.1 < name := fun entry mem =>
      (List.pairwise_append.1 sorted).2.2 entry mem _ List.mem_cons_self
    have first : insert name value table = table ++ [(name, value)] := insert_of_lt before
    simpa [first] using ih (table ++ [(name, value)]) (by simpa using sorted)

end Entries

/-- Entries in strictly increasing order of their names. -/
structure Table (α : Type) where
  /-- The entries, by name. -/
  entries : Entries α
  /-- No name stands twice, and the names are in order. -/
  sorted : entries.Sorted := by exact List.Pairwise.nil

namespace Table

variable {α : Type}

instance : EmptyCollection (Table α) := ⟨{ entries := [] }⟩

/-- The value called `name`. -/
def find? (table : Table α) (name : Text) : Option α :=
  table.entries.find? name

/-- Whether a value is called `name`. -/
def contains (table : Table α) (name : Text) : Bool :=
  (table.find? name).isSome

/-- `table` with `value` under `name`. -/
def insert (table : Table α) (name : Text) (value : α) : Table α :=
  { entries := table.entries.insert name value, sorted := Entries.sorted_insert table.sorted }

/-- `table` with every entry of `other`, in place of its own of the same name. -/
def extend (table other : Table α) : Table α :=
  other.entries.foldl (fun table (name, value) => table.insert name value) table

/-- The names in increasing order. -/
def names (table : Table α) : List Text :=
  table.entries.map Prod.fst

/-- The values in the order of their names. -/
def values (table : Table α) : List α :=
  table.entries.map Prod.snd

/-- The number of entries. -/
def size (table : Table α) : Nat :=
  table.entries.length

/-- Whether there is no entry. -/
def isEmpty (table : Table α) : Bool :=
  table.entries.isEmpty

@[simp] theorem find?_empty (name : Text) : (∅ : Table α).find? name = none := rfl

@[simp] theorem find?_insert (table : Table α) (name key : Text) (value : α) :
    (table.insert name value).find? key = if name = key then some value else table.find? key :=
  Entries.find?_insert name key value table.entries

theorem contains_iff_mem_names {table : Table α} {name : Text} :
    table.contains name = true ↔ name ∈ table.names :=
  Entries.isSome_find?_iff

/-- No name stands twice. -/
theorem nodup_names (table : Table α) : table.names.Nodup := by
  refine List.pairwise_map.2 (table.sorted.imp fun less same => ?_)
  rw [same] at less
  exact List.lt_irrefl _ less

@[simp] theorem contains_insert (table : Table α) (name key : Text) (value : α) :
    (table.insert name value).contains key = (name == key || table.contains key) := by
  by_cases h : name = key <;> simp [contains, h]

/-- Entries that are entered one after the other end up in the table as in a list. -/
theorem entries_foldl_insert (table : Table α) (entries : Entries α) :
    (entries.foldl (fun table (name, value) => table.insert name value) table).entries =
      entries.foldl (fun table (name, value) => Entries.insert name value table)
        table.entries := by
  induction entries generalizing table with
  | nil => rfl
  | cons entry rest ih => exact ih (table.insert entry.1 entry.2)

@[simp] theorem empty_extend (table : Table α) : (∅ : Table α).extend table = table := by
  have same : ((∅ : Table α).extend table).entries = table.entries :=
    (entries_foldl_insert ∅ table.entries).trans (Entries.ofList_of_sorted table.sorted)
  generalize (∅ : Table α).extend table = again at same ⊢
  cases again
  cases table
  cases same
  rfl

end Table
end LocaleText
