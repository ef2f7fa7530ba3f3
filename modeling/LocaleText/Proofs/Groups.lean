import LocaleText.Proofs.ByteOrder
import LocaleText.Proofs.Flattening
import Mathlib.Data.List.Sort

/-!
# LocaleText.Proofs.Groups

**A flat tree is walked like the nested groups it was loaded from.** The messages in a group are
found by looking at all paths, not by following names. Where no name is empty or holds the
separator, both give the same: the path of a message in a group is the path of the group and the
name of the message (`Messages.dotted_concat`), and it can be cut in this way only once
(`Messages.isBelow_iff`). So the group of a message is determined by its path, and what stands in a
group is what its members of the nested groups are (`Messages.mem_children_iff`).
-/

namespace LocaleText

/-! ### Names that can be told from paths -/

namespace Json

mutual

/-- No name in nested groups is empty or holds the separator of paths. -/
def WellNamed : Json → Prop
  | .object fields => WellNamedFields fields
  | _ => True

/-- No name in the fields of a group is empty or holds the separator of paths. -/
def WellNamedFields : List (Text × Json) → Prop
  | [] => True
  | (name, value) :: fields =>
    name ≠ [] ∧ Messages.separator ∉ name ∧ WellNamed value ∧ WellNamedFields fields

end

/-- A member of well-named groups has a name that can be told from a path, and is well named itself.
-/
theorem wellNamed_of_mem {fields : List (Text × Json)} (named : WellNamedFields fields)
    {name : Text} {value : Json} (mem : (name, value) ∈ fields) :
    name ≠ [] ∧ Messages.separator ∉ name ∧ value.WellNamed := by
  induction fields with
  | nil => cases mem
  | cons field fields ih =>
      obtain ⟨ne, free, inner, others⟩ := named
      rcases List.mem_cons.1 mem with rfl | mem
      · exact ⟨ne, free, inner⟩
      · exact ih others mem

/-- Whatever some names lead to is as well named and ordered as the whole, and the names are among
those of the groups. -/
theorem wellNamed_of_at? {value inner : Json} {names : List Text} (named : value.WellNamed)
    (ordered : value.Ordered) (leads : value.at? names = some inner) :
    (∀ name ∈ names, name ≠ [] ∧ Messages.separator ∉ name) ∧ inner.WellNamed ∧ inner.Ordered := by
  induction names generalizing value with
  | nil =>
      cases value <;> cases leads <;> exact ⟨by simp, named, ordered⟩
  | cons name names ih =>
      cases value with
      | object fields =>
          obtain ⟨next, found, leads⟩ := Option.bind_eq_some_iff.1 leads
          have mem := Entries.mem_of_find? found
          obtain ⟨ne, free, named⟩ := wellNamed_of_mem named mem
          obtain ⟨others, rest⟩ := ih named (ordered_of_mem ordered.2 mem) leads
          exact ⟨List.forall_mem_cons.2 ⟨⟨ne, free⟩, others⟩, rest⟩
      | _ => cases leads

/-- The texts directly in a group, under their names. Groups in it and ends of other kinds are left
out. -/
def textsIn (fields : Entries Json) : List (Text × Text) :=
  fields.filterMap fun (name, value) =>
    match value with
    | .string text => some (name, text)
    | _ => none

theorem mem_textsIn_iff {fields : Entries Json} {name text : Text} :
    (name, text) ∈ textsIn fields ↔ (name, .string text) ∈ fields := by
  simp only [textsIn, List.mem_filterMap, Prod.exists]
  constructor
  · rintro ⟨other, value, mem, h⟩
    cases value <;> simp_all
  · intro mem
    exact ⟨name, .string text, mem, rfl⟩

/-- The texts in a group are listed in the order of their names. -/
theorem textsIn_sorted {fields : Entries Json} (sorted : fields.Sorted) :
    (textsIn fields).Pairwise fun a b => a.1 < b.1 := by
  refine List.Pairwise.filterMap _ ?_ sorted
  rintro ⟨name, value⟩ ⟨name', value'⟩ less
  cases value <;> cases value' <;> simp [less]

end Json

namespace Messages

/-! ### Paths of groups and of the messages in them -/

/-- Only the root has the empty path, if no name is empty. -/
theorem dotted_ne_nil {names : List Text} (named : ∀ name ∈ names, name ≠ []) (ne : names ≠ []) :
    dotted names ≠ [] := by
  cases names with
  | nil => exact absurd rfl ne
  | cons name names =>
      have first := named name (by simp)
      cases names with
      | nil => simpa using first
      | cons next names => simp [dotted_cons_cons]

/-- The path of what stands in a group is that of the group, the separator and a name. The root is
apart: there the name is the path. -/
theorem dotted_concat {names : List Text} (ne : names ≠ []) (name : Text) :
    dotted (names ++ [name]) = dotted names ++ separator :: name := by
  induction names with
  | nil => exact absurd rfl ne
  | cons first names ih =>
      cases names with
      | nil => simp [dotted_cons_cons]
      | cons next names =>
          have rest := ih (by simp)
          simp only [List.cons_append] at rest
          simp [dotted_cons_cons, rest]

/-- What is left behind a leading text, if there is one. -/
theorem dropLeading?_eq_some_iff {head text rest : Text} :
    Text.dropLeading? head text = some rest ↔ text = head ++ rest := by
  unfold Text.dropLeading?
  constructor
  · intro h
    split at h
    · next leading =>
        obtain ⟨tail, rfl⟩ := List.isPrefixOf_iff_prefix.1 leading
        simpa using h
    · cases h
  · rintro rfl
    simp

/-- A text can be cut at its last separator in one way only. -/
theorem eq_of_last_cut {sep : Char} {left left' last last' : Text} (free : sep ∉ last)
    (free' : sep ∉ last') (same : left ++ sep :: last = left' ++ sep :: last') : left = left' := by
  rcases List.append_eq_append_iff.1 same with ⟨gap, rfl, h⟩ | ⟨gap, rfl, h⟩
  · cases gap with
    | nil => simp
    | cons c gap => simp [(List.cons.inj h).2] at free
  · cases gap with
    | nil => simp
    | cons c gap => simp [(List.cons.inj h).2] at free'

/-- Whether the message at a path stands directly in the group at another one. This is what the
listing of a group asks of every message: that its path continues that of the group by one name,
that is, by something without a separator. -/
def IsBelow (group path : Text) : Prop :=
  ∃ rest, pathBelow? group path = some rest ∧ separator ∉ rest

/-- What remains of a path below that of a group. Below the root it is the whole path. -/
theorem pathBelow?_eq_some_iff {group path rest : Text} :
    pathBelow? group path = some rest ↔
      path = if group = [] then rest else group ++ separator :: rest := by
  by_cases root : group = []
  · subst root
    simp [pathBelow?]
  · simp only [pathBelow?, List.isEmpty_iff, root, if_false, Option.bind_eq_some_iff,
      dropLeading?_eq_some_iff]
    constructor
    · rintro ⟨middle, rfl, rfl⟩
      rfl
    · rintro rfl
      exact ⟨_, rfl, rfl⟩

/-- **The group of a message** is determined by its path. That the last name is free of the
separator makes the cut unique; that the other names are not empty sets the root apart from a group
whose path would be empty, too. -/
theorem isBelow_iff {group : Text} {names : List Text} {name : Text}
    (named : ∀ name ∈ names, name ≠ []) (free : separator ∉ name) :
    IsBelow group (dotted (names ++ [name])) ↔ group = dotted names := by
  simp only [IsBelow, pathBelow?_eq_some_iff]
  -- At the root the path is the name, and no group's path can be in front of it.
  by_cases top : names = []
  · subst top
    constructor
    · rintro ⟨rest, same, -⟩
      by_contra other
      rw [if_neg (by simpa using other)] at same
      simp only [List.nil_append, dotted_singleton] at same
      simp [same] at free
    · rintro rfl
      exact ⟨name, by simp, free⟩
  · rw [dotted_concat top]
    have ne := dotted_ne_nil named top
    constructor
    · rintro ⟨rest, same, free'⟩
      by_cases root : group = []
      · rw [if_pos root] at same
        simp [← same] at free'
      · -- Neither name holds the separator, so both cuts are at its last occurrence.
        rw [if_neg root] at same
        exact (eq_of_last_cut free free' same).symm
    · rintro rfl
      exact ⟨name, by rw [if_neg ne], free⟩

/-- The messages listed for a group are those whose paths are below it. -/
theorem mem_children {messages : Messages} {group : Text} {message : Message} :
    message ∈ messages.children group ↔
      message ∈ messages.toList ∧ IsBelow group message.key := by
  rw [children, List.mem_filter, IsBelow]
  refine and_congr_right fun _ => ?_
  cases pathBelow? group message.key <;> simp

/-! ### Both trees -/

section Loaded

variable {strings : Entries Json} {messages : Messages}

/-- A message is listed when its text is the one found at its path. -/
theorem mem_toList_iff_find? {message : Message} :
    message ∈ messages.toList ↔ messages.templates.find? message.key = some message.template := by
  rw [Table.find?, ← Entries.mem_iff_find? messages.templates.sorted, toList, List.mem_map]
  constructor
  · rintro ⟨entry, mem, rfl⟩
    exact mem
  · intro mem
    exact ⟨_, mem, rfl⟩

/-- Well-named groups have no nameless group at the root, so all their paths are dotted. -/
theorem not_nameless (named : (Json.object strings).WellNamed) :
    ∀ fields, ([], Json.object fields) ∉ strings :=
  fun _ nameless => (Json.wellNamed_of_mem named nameless).1 rfl

/-- Well-named groups are loaded with nothing lost: where no name holds the separator, no two paths
coincide. -/
theorem complete_of_wellNamed (templates : messages.templates = entered ∅ (flat strings))
    (ordered : (Json.object strings).Ordered) (named : (Json.object strings).WellNamed) :
    Complete strings messages := by
  refine (complete_iff templates (not_nameless named)).2 (nodup_dotted ordered ?_)
  intro leaf mem name inside
  have leads := (Json.mem_leaves_iff ordered).1 mem
  exact ((Json.wellNamed_of_at? named ordered leads).1 name inside).2

/-- The messages are the texts that names lead to. From here on the table can be forgotten, and
messages are looked for in the groups. -/
theorem mem_toList_iff (templates : messages.templates = entered ∅ (flat strings))
    (ordered : (Json.object strings).Ordered) (named : (Json.object strings).WellNamed)
    {message : Message} :
    message ∈ messages.toList ↔ ∃ names, message.key = dotted names ∧
      (Json.object strings).at? names = some (.string message.template) := by
  rw [mem_toList_iff_find?]
  constructor
  · intro found
    have stored := Entries.mem_of_find? found
    rw [templates] at stored
    rcases mem_entered stored with loaded | none
    · rw [flat_eq_dotted (not_nameless named)] at loaded
      obtain ⟨⟨names, text⟩, leaf, same⟩ := List.mem_map.1 loaded
      obtain ⟨key, rfl⟩ := Prod.mk.inj same
      exact ⟨names, key.symm, (Json.mem_leaves_iff ordered).1 leaf⟩
    · cases none
  · rintro ⟨names, key, leads⟩
    have found := (complete_of_wellNamed templates ordered named).found
      ((Json.mem_leaves_iff ordered).2 leads)
    obtain ⟨text, here, same⟩ := Option.map_eq_some_iff.1 found
    rw [key, here, (Message.mk.inj same).2]

/-- **What stands in a group** is found there, and nothing else. The group is given by its path
alone, and the names that lead to it are found from the message: they are all its names but the
last. -/
theorem mem_children_iff (templates : messages.templates = entered ∅ (flat strings))
    (ordered : (Json.object strings).Ordered) (named : (Json.object strings).WellNamed)
    {group : Text} {message : Message} :
    message ∈ messages.children group ↔ ∃ names fields name,
      (Json.object strings).at? names = some (.object fields) ∧
      (name, message.template) ∈ Json.textsIn fields ∧ group = dotted names ∧
      message.key = dotted (names ++ [name]) := by
  rw [mem_children, mem_toList_iff templates ordered named]
  constructor
  · -- The message is a text that some names lead to. All but the last of them lead to its group.
    rintro ⟨⟨path, key, leads⟩, below⟩
    rcases List.eq_nil_or_concat' path with rfl | ⟨names, name, rfl⟩
    · cases leads
    · obtain ⟨inPath, -⟩ := Json.wellNamed_of_at? named ordered leads
      rw [Json.at?_append] at leads
      obtain ⟨inner, here, leads⟩ := Option.bind_eq_some_iff.1 leads
      cases inner with
      | object fields =>
          obtain ⟨value, found, same⟩ := Option.bind_eq_some_iff.1 leads
          rw [Json.at?_nil] at same
          cases same
          have group := (isBelow_iff (fun other mem => (inPath other (by simp [mem])).1)
            (inPath name (by simp)).2).1 (key ▸ below)
          exact ⟨names, fields, name, here,
            Json.mem_textsIn_iff.2 (Entries.mem_of_find? found), group, key⟩
      | _ => cases leads
  · rintro ⟨names, fields, name, leads, mem, rfl, key⟩
    obtain ⟨inPath, named, ordered⟩ := Json.wellNamed_of_at? named ordered leads
    have member := Json.mem_textsIn_iff.1 mem
    refine ⟨⟨names ++ [name], key, ?_⟩, ?_⟩
    · simp [Json.at?_append, leads, (Entries.mem_iff_find? ordered.1).1 member]
    · rw [key, isBelow_iff (fun other mem => (inPath other mem).1)
        (Json.wellNamed_of_mem named member).2.1]

/-- Every message stands in one group, that of all its names but the last. A path of at least one
name is needed for that, and the root itself is no message. -/
theorem exists_group (templates : messages.templates = entered ∅ (flat strings))
    (ordered : (Json.object strings).Ordered) (named : (Json.object strings).WellNamed)
    {message : Message} (mem : message ∈ messages.toList) :
    ∃ names, ∀ group, message ∈ messages.children group ↔ group = dotted names := by
  obtain ⟨path, key, leads⟩ := (mem_toList_iff templates ordered named).1 mem
  rcases List.eq_nil_or_concat' path with rfl | ⟨names, name, rfl⟩
  · cases leads
  · obtain ⟨inPath, -⟩ := Json.wellNamed_of_at? named ordered leads
    refine ⟨names, fun group => ?_⟩
    rw [mem_children, key, isBelow_iff (fun other mem => (inPath other (by simp [mem])).1)
      (inPath name (by simp)).2]
    exact and_iff_right mem

/-- Messages are listed in the order of their paths. -/
theorem keys_sorted (messages : Messages) :
    messages.toList.Pairwise fun a b => a.key < b.key :=
  List.pairwise_map.2 messages.templates.sorted

/-- In one group, messages are in the order of their names. -/
theorem dotted_concat_lt {names : List Text} {a b : Text} (less : a < b) :
    dotted (names ++ [a]) < dotted (names ++ [b]) := by
  by_cases top : names = []
  · simpa [top] using less
  · rw [dotted_concat top, dotted_concat top]
    exact List.append_left_lt (List.cons_lt_cons_iff.2 (.inr ⟨rfl, less⟩))

/-- Names that lead to something are determined by their path, and with them what they lead to. So
the path of a group is no message, and no two groups have one path. -/
theorem eq_of_dotted_eq (ordered : (Json.object strings).Ordered)
    (named : (Json.object strings).WellNamed) {names names' : List Text} {value value' : Json}
    (leads : (Json.object strings).at? names = some value)
    (leads' : (Json.object strings).at? names' = some value')
    (same : dotted names = dotted names') : names = names' ∧ value = value' := by
  obtain ⟨inPath, -⟩ := Json.wellNamed_of_at? named ordered leads
  obtain ⟨inPath', -⟩ := Json.wellNamed_of_at? named ordered leads'
  obtain rfl : names = names' := by
    by_cases top : names = []
    · by_contra other
      refine dotted_ne_nil (fun name mem => (inPath' name mem).1) (Ne.symm (top ▸ other)) ?_
      rw [← same, top, dotted_nil]
    · have below : names' ≠ [] := by
        rintro rfl
        exact dotted_ne_nil (fun name mem => (inPath name mem).1) top same
      exact dotted_injective top below (fun name mem => (inPath name mem).2)
        (fun name mem => (inPath' name mem).2) same
  rw [leads] at leads'
  exact ⟨rfl, Option.some.inj leads'⟩

/-- **A group is listed** as its texts are, in the order of their names. -/
theorem children_eq (templates : messages.templates = entered ∅ (flat strings))
    (ordered : (Json.object strings).Ordered) (named : (Json.object strings).WellNamed)
    {names : List Text} {fields : Entries Json}
    (leads : (Json.object strings).at? names = some (.object fields)) :
    messages.children (dotted names) = (Json.textsIn fields).map fun (name, text) =>
      { key := dotted (names ++ [name]), template := text } := by
  obtain ⟨-, -, sorted, -⟩ := Json.wellNamed_of_at? named ordered leads
  -- Both lists are sorted by path, so that only their members have to be compared.
  have irrefl : Std.Irrefl fun a b : Message => a.key < b.key := ⟨fun _ => List.lt_irrefl _⟩
  have antisymm : Std.Antisymm fun a b : Message => a.key < b.key :=
    ⟨fun _ _ less greater => absurd (List.lt_trans less greater) (List.lt_irrefl _)⟩
  refine List.Pairwise.eq_of_mem_iff (r := fun a b : Message => a.key < b.key)
    ((keys_sorted messages).filter _) ?_ fun message => ?_
  · exact List.pairwise_map.2 ((Json.textsIn_sorted sorted).imp dotted_concat_lt)
  · rw [mem_children_iff templates ordered named, List.mem_map]
    constructor
    · rintro ⟨names', fields', name, leads', mem, same, key⟩
      obtain ⟨rfl, group⟩ := eq_of_dotted_eq ordered named leads leads' same
      obtain rfl := Json.object.inj group
      exact ⟨(name, message.template), mem, by simp [← key]⟩
    · rintro ⟨⟨name, text⟩, mem, rfl⟩
      exact ⟨names, fields, name, leads, mem, rfl, rfl⟩

/-- A group is no message: what its path leads to is a group. -/
theorem find?_group (templates : messages.templates = entered ∅ (flat strings))
    (ordered : (Json.object strings).Ordered) (named : (Json.object strings).WellNamed)
    {names : List Text} {fields : Entries Json}
    (leads : (Json.object strings).at? names = some (.object fields)) :
    messages.find? (dotted names) = none := by
  rw [Option.eq_none_iff_forall_ne_some]
  intro message found
  obtain ⟨template, -, rfl⟩ := Option.map_eq_some_iff.1 found
  obtain ⟨names', same, leads'⟩ :=
    (mem_toList_iff templates ordered named).1 (mem_toList_of_find? found)
  cases (eq_of_dotted_eq ordered named leads leads' same).2

end Loaded
end Messages

/-- **Groups can be walked.** Let messages be loaded from nested groups in which no name is empty or
holds the separator. For the path of a group, its texts are listed, each once, with its path and in
the order of the bytes of the names, and there is no message at that path. For any other path
nothing is listed. All paths are listed in the order of their bytes, and every message stands in
exactly one group, so a walk through the groups meets each message once.

That the groups are ordered says that they are what a file is read to; they can still be nested in
any way, be empty, and hold values that are no texts. -/
theorem groups_are_walked {translator : Translator} {strings : Entries Json} {messages : Messages}
    (ordered : (Json.object strings).Ordered) (named : (Json.object strings).WellNamed)
    (loaded : Messages.ofStrings translator strings = .ok messages) :
    (∀ names fields, (Json.object strings).at? names = some (.object fields) →
      messages.children (Messages.dotted names) =
        ((Json.textsIn fields).map fun (name, text) =>
          { key := Messages.dotted (names ++ [name]), template := text }) ∧
      ((Json.textsIn fields).Pairwise fun a b => Text.bytes a.1 < Text.bytes b.1) ∧
      messages.find? (Messages.dotted names) = none) ∧
    (∀ path, (∀ names fields, (Json.object strings).at? names = some (.object fields) →
      Messages.dotted names ≠ path) → messages.children path = []) ∧
    (messages.keys.Pairwise fun a b => Text.bytes a < Text.bytes b) ∧
    ∀ message ∈ messages.toList, ∃! path, message ∈ messages.children path := by
  have templates := Messages.templates_of_ofStrings loaded
  refine ⟨fun names fields leads => ⟨?_, ?_, ?_⟩, fun path elsewhere => ?_, ?_,
    fun message mem => ?_⟩
  · exact Messages.children_eq templates ordered named leads
  · obtain ⟨-, -, sorted, -⟩ := Json.wellNamed_of_at? named ordered leads
    exact (Json.textsIn_sorted sorted).imp Text.bytes_lt_bytes
  · exact Messages.find?_group templates ordered named leads
  · rw [List.eq_nil_iff_forall_not_mem]
    intro message mem
    obtain ⟨names, fields, -, leads, -, same, -⟩ :=
      (Messages.mem_children_iff templates ordered named).1 mem
    exact elsewhere names fields leads same.symm
  · exact messages.templates.names_increasing
  · obtain ⟨names, only⟩ := Messages.exists_group templates ordered named mem
    exact ⟨Messages.dotted names, (only _).2 rfl, fun group => (only group).1⟩

/-- A message, a group and another message whose names begin alike. -/
def Json.alike : Entries Json :=
  [("men".toList, .string "Men".toList),
   ("menu".toList, .object
    [("open".toList, .string "Open".toList),
     ("recent".toList, .object [("clear".toList, .string "Clear".toList)]),
     ("save".toList, .string "Save".toList)]),
   ("menu-bar".toList, .string "Bar".toList)]

theorem groups_are_walked_alike :
    (Json.object Json.alike).Ordered ∧ (Json.object Json.alike).WellNamed ∧
    ∃ messages, Messages.ofStrings (.withSelector [] (fun _ => .other) ∅ {}) Json.alike =
        .ok messages ∧
      messages.children "menu".toList =
        [{ key := "menu.open".toList, template := "Open".toList },
         { key := "menu.save".toList, template := "Save".toList }] ∧
      messages.find? "menu".toList = none ∧
      messages.children [] =
        [{ key := "men".toList, template := "Men".toList },
         { key := "menu-bar".toList, template := "Bar".toList }] := by
  have ordered : (Json.object Json.alike).Ordered := by
    simp only [Json.alike, Json.Ordered, Json.OrderedFields, Entries.Sorted]
    decide
  have named : (Json.object Json.alike).WellNamed := by
    simp only [Json.alike, Json.WellNamed, Json.WellNamedFields]
    decide
  obtain ⟨messages, loaded⟩ : ∃ messages,
      Messages.ofStrings (.withSelector [] (fun _ => .other) ∅ {}) Json.alike = .ok messages :=
    ⟨_, rfl⟩
  obtain ⟨walked, -⟩ := groups_are_walked ordered named loaded
  obtain ⟨menu, -, group⟩ := walked ["menu".toList] _ rfl
  obtain ⟨root, -⟩ := walked [] _ rfl
  exact ⟨ordered, named, messages, loaded, menu, group, root⟩

end LocaleText
