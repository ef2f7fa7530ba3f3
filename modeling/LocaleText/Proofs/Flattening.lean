import LocaleText.Proofs.Loading

/-!
# LocaleText.Proofs.Flattening

**Which texts a flat tree keeps.** Nested groups are loaded as texts at dotted paths, and a path
keeps the last of its texts: `Messages.find?_entered` and `Messages.size_entered` say what is found
and how much there is. So nothing is lost exactly when no two texts have the same path
(`Messages.complete_iff`), as is the case when no name holds the separator
(`Messages.nodup_dotted`).

A group of empty name at the root is taken for the root itself, and its texts get the paths of
texts at the root. This is the only place where a path is not the dotted one
(`Messages.flat_eq_dotted`).
-/

namespace LocaleText

/-! ### Values and the names that lead to them -/

namespace Json

/-- What some names lead to, each in the group that the names before it lead to. No names lead to
the value itself, and nothing can be reached in what is no group. -/
def at? : Json → List Text → Option Json
  | value, [] => some value
  | .object fields, name :: names => (Entries.find? name fields).bind fun value => value.at? names
  | _, _ :: _ => none

@[simp] theorem at?_nil (value : Json) : value.at? [] = some value := by
  cases value <;> rfl

@[simp] theorem at?_object_cons (fields : Entries Json) (name : Text) (names : List Text) :
    (object fields).at? (name :: names) =
      (Entries.find? name fields).bind fun value => value.at? names := rfl

/-- A path can be followed in two parts. -/
theorem at?_append (value : Json) (front back : List Text) :
    value.at? (front ++ back) = (value.at? front).bind fun inner => inner.at? back := by
  induction front generalizing value with
  | nil => simp
  | cons name names ih =>
      cases value with
      | object fields => simp [ih, Option.bind_assoc]
      | _ => rfl

/-- The members of ordered groups are ordered themselves. -/
theorem ordered_of_mem {fields : List (Text × Json)} (ordered : OrderedFields fields)
    {name : Text} {value : Json} (mem : (name, value) ∈ fields) : value.Ordered := by
  induction fields with
  | nil => cases mem
  | cons field fields ih =>
      obtain ⟨first, others⟩ := ordered
      rcases List.mem_cons.1 mem with rfl | mem
      · exact first
      · exact ih others mem

/-! ### The ends of nested groups -/

mutual

/-- What stands at the ends of a value, of any kind, each with the names that lead to it. -/
def ends : Json → List (List Text × Json)
  | .object fields => endsOf fields
  | value => [([], value)]

/-- What stands at the ends of the fields of a group. -/
def endsOf : List (Text × Json) → List (List Text × Json)
  | [] => []
  | (name, value) :: fields =>
    value.ends.map (fun (names, inner) => (name :: names, inner)) ++ endsOf fields

end

/-- An end of a group is an end of one of its members, with the name of the member in front. -/
theorem mem_endsOf_iff {fields : List (Text × Json)} {names : List Text} {inner : Json} :
    (names, inner) ∈ endsOf fields ↔
      ∃ name value rest, (name, value) ∈ fields ∧ names = name :: rest ∧
        (rest, inner) ∈ value.ends := by
  induction fields with
  | nil => simp [endsOf]
  | cons field fields ih =>
      obtain ⟨name, value⟩ := field
      simp only [endsOf, List.mem_append, List.mem_map, ih, List.mem_cons]
      grind

/-- The ends are what names lead to, groups apart. Order is needed for the names in a group to be
distinct: otherwise following a name leads to the first of its values, while all of them are listed.
-/
theorem mem_ends_iff {value : Json} (ordered : value.Ordered) {names : List Text} {inner : Json} :
    (names, inner) ∈ value.ends ↔
      value.at? names = some inner ∧ ∀ fields, inner ≠ .object fields := by
  induction names generalizing value with
  | nil =>
      cases value with
      | object fields => simp [ends, mem_endsOf_iff]; rintro rfl; simp
      | _ => simp [ends]; grind
  | cons name names ih =>
      cases value with
      | object fields =>
          obtain ⟨sorted, others⟩ := ordered
          simp only [ends, mem_endsOf_iff, List.cons.injEq, at?_object_cons,
            Option.bind_eq_some_iff, Entries.mem_iff_find? sorted]
          constructor
          · rintro ⟨_, value, _, found, ⟨rfl, rfl⟩, mem⟩
            have ordered := ordered_of_mem others (Entries.mem_of_find? found)
            obtain ⟨leads, leaf⟩ := (ih ordered).1 mem
            exact ⟨⟨value, found, leads⟩, leaf⟩
          · rintro ⟨⟨value, found, leads⟩, leaf⟩
            have ordered := ordered_of_mem others (Entries.mem_of_find? found)
            exact ⟨name, value, names, found, ⟨rfl, rfl⟩, (ih ordered).2 ⟨leads, leaf⟩⟩
      | _ => simp [ends, at?]

mutual

/-- The ends are listed in the order of the names that lead to them. So no two have the same names.
-/
theorem ends_sorted : {value : Json} → value.Ordered →
    value.ends.Pairwise fun a b => a.1 < b.1
  | .object _, ordered => endsOf_sorted ordered.1 ordered.2
  | .string _, _ | .null, _ | .bool _, _ | .number _, _ | .array _, _ => by simp [ends]

theorem endsOf_sorted : {fields : List (Text × Json)} → Entries.Sorted fields →
    OrderedFields fields → (endsOf fields).Pairwise fun a b => a.1 < b.1
  | [], _, _ => by simp [endsOf]
  | (name, value) :: fields, sorted, ordered => by
      obtain ⟨before, later⟩ := List.pairwise_cons.1 sorted
      rw [endsOf, List.pairwise_append, List.pairwise_map]
      refine ⟨(ends_sorted ordered.1).imp fun less => List.cons_lt_cons_iff.2 (.inr ⟨rfl, less⟩),
        endsOf_sorted later ordered.2, ?_⟩
      -- The names of the first field are smaller than those of all others.
      intro front here back there
      obtain ⟨_, -, rfl⟩ := List.mem_map.1 here
      obtain ⟨other, inner, rest, mem, same, -⟩ := mem_endsOf_iff.1 there
      rw [same]
      exact List.cons_lt_cons_iff.2 (.inl (before (other, inner) mem))

end

/-- An end that is a text. Numbers, truth values and the other ends are no messages. -/
def leaf? : List Text × Json → Option (List Text × Text)
  | (names, string text) => some (names, text)
  | _ => none

theorem leaf?_eq_some_iff {part : List Text × Json} {names : List Text} {text : Text} :
    leaf? part = some (names, text) ↔ part = (names, string text) := by
  obtain ⟨names', inner⟩ := part
  cases inner <;> simp [leaf?]

theorem leaf?_cons (name : Text) (part : List Text × Json) :
    leaf? (name :: part.1, part.2) = (leaf? part).map fun leaf => (name :: leaf.1, leaf.2) := by
  obtain ⟨names, inner⟩ := part
  cases inner <;> rfl

mutual

/-- The texts are the ends that are texts. -/
theorem leaves_eq : (value : Json) → value.leaves = value.ends.filterMap leaf?
  | .object fields => leavesOf_eq fields
  | .string _ | .null | .bool _ | .number _ | .array _ => rfl

theorem leavesOf_eq : (fields : List (Text × Json)) →
    leavesOf fields = (endsOf fields).filterMap leaf?
  | [] => rfl
  | (name, value) :: fields => by
      rw [leavesOf, endsOf, List.filterMap_append, leaves_eq value, leavesOf_eq fields,
        List.filterMap_map, List.map_filterMap]
      congr 2
      funext part
      exact (leaf?_cons name part).symm

end

theorem mem_leavesOf_iff {fields : List (Text × Json)} {names : List Text} {text : Text} :
    (names, text) ∈ leavesOf fields ↔ (names, string text) ∈ endsOf fields := by
  simp only [leavesOf_eq, List.mem_filterMap, leaf?_eq_some_iff, exists_eq_right]

/-- The texts listed are those that some names lead to. With this, what is loaded can be described
without walking through the groups. -/
theorem mem_leaves_iff {value : Json} (ordered : value.Ordered) {names : List Text} {text : Text} :
    (names, text) ∈ value.leaves ↔ value.at? names = some (.string text) := by
  simp [leaves_eq, List.mem_filterMap, leaf?_eq_some_iff, mem_ends_iff ordered]

theorem exists_head_of_mem_leavesOf {fields : List (Text × Json)} {names : List Text}
    (mem : names ∈ (leavesOf fields).map Prod.fst) :
    ∃ name rest, names = name :: rest := by
  obtain ⟨⟨_, text⟩, leaf, rfl⟩ := List.mem_map.1 mem
  obtain ⟨name, value, rest, -, same, -⟩ := mem_endsOf_iff.1 (mem_leavesOf_iff.1 leaf)
  exact ⟨name, rest, same⟩

/-- In ordered groups the same names do not lead to two texts. What can coincide is the paths made
of them. -/
theorem nodup_leavesOf {fields : List (Text × Json)} (sorted : Entries.Sorted fields)
    (ordered : OrderedFields fields) : ((leavesOf fields).map Prod.fst).Nodup := by
  have increasing : (leavesOf fields).Pairwise fun a b => a.1 < b.1 := by
    rw [leavesOf_eq]
    refine (endsOf_sorted sorted ordered).filterMap leaf? ?_
    intro part part' less leaf isLeaf leaf' isLeaf'
    rw [leaf?_eq_some_iff] at isLeaf isLeaf'
    subst isLeaf isLeaf'
    exact less
  refine List.pairwise_map.2 (increasing.imp fun less same => ?_)
  exact List.lt_irrefl _ (same ▸ less)

end Json

namespace Messages

/-! ### Dotted paths -/

/-- Names joined by the separator of paths. -/
def dotted (names : List Text) : Text :=
  List.intercalate [separator] names

@[simp] theorem dotted_nil : dotted [] = [] := rfl

@[simp] theorem dotted_singleton (name : Text) : dotted [name] = name := by
  simp [dotted]

/-- Names are joined one by one, from the front. Loading joins them the other way round, the path of
the group being there when a name is added. -/
theorem dotted_cons_cons (first second : Text) (names : List Text) :
    dotted (first :: second :: names) = first ++ separator :: dotted (second :: names) := by
  simp [dotted, List.intercalate_cons_cons]

/-- Below a group that has a path, the path of a text is dotted. The separator is left out only
behind an empty path. -/
theorem pathOf_of_ne_nil {parent : Text} (h : parent ≠ []) (names : List Text) :
    pathOf parent names = dotted (parent :: names) := by
  induction names generalizing parent with
  | nil => simp [pathOf]
  | cons name names ih =>
      have step : pathOf parent (name :: names) = pathOf (parent ++ separator :: name) names := by
        simp [pathOf, childPath, h]
      rw [step, ih (by simp), dotted_cons_cons]
      cases names with
      | nil => simp
      | cons next names => simp [dotted_cons_cons]

/-- Only a nameless group at the root makes a path that is not dotted: its path is empty, as if it
were the root. A nameless text at the root does not, since nothing is added to its name. -/
theorem pathOf_eq_dotted {names : List Text} (h : names.head? = some [] → names.length = 1) :
    pathOf [] names = dotted names := by
  cases names with
  | nil => rfl
  | cons name names =>
      by_cases nameless : name = []
      · subst nameless
        obtain rfl : names = [] := by simpa using h
        rfl
      · exact pathOf_of_ne_nil nameless names

/-- Names without the separator are the pieces of their path. -/
theorem pieces_dotted {names : List Text} (ne : names ≠ [])
    (free : ∀ name ∈ names, separator ∉ name) : Text.pieces separator (dotted names) = names := by
  induction names with
  | nil => exact absurd rfl ne
  | cons name names ih =>
      obtain ⟨first, others⟩ := List.forall_mem_cons.1 free
      cases names with
      | nil => simp [Text.pieces, Text.cuts_of_not_mem first]
      | cons next names =>
          have rest := ih (by simp) others
          rw [dotted_cons_cons, Text.pieces, Text.cuts_append first]
          simpa [Text.pieces] using rest

/-- Names without the separator can be read off their path. No names and one empty name have the
same path, hence the condition that there be some. -/
theorem dotted_injective {names names' : List Text} (ne : names ≠ []) (ne' : names' ≠ [])
    (free : ∀ name ∈ names, separator ∉ name) (free' : ∀ name ∈ names', separator ∉ name)
    (same : dotted names = dotted names') : names = names' := by
  rw [← pieces_dotted ne free, same, pieces_dotted ne' free']

/-! ### What is entered -/

theorem entered_cons (templates : Table Text) (key text : Text) (entries : List (Text × Text)) :
    entered templates ((key, text) :: entries) = entered (templates.insert key text) entries := rfl

/-- A path keeps the last of its texts, or else what was there before. It is the reversed list in
which the last one is found first. -/
theorem find?_entered (templates : Table Text) (entries : List (Text × Text)) (key : Text) :
    (entered templates entries).find? key =
      (entries.reverse.lookup key).or (templates.find? key) := by
  induction entries generalizing templates with
  | nil => rfl
  | cons entry entries ih =>
      obtain ⟨first, text⟩ := entry
      rw [entered_cons, ih, List.reverse_cons, List.lookup_append, Table.find?_insert]
      by_cases same : first = key
      · simp [same]
      · have other : (key == first) = false := by simpa using Ne.symm same
        simp [same, List.lookup_cons, other]

/-- The paths that hold something are those that are entered and those that held something before.
-/
theorem contains_entered {templates : Table Text} {entries : List (Text × Text)} {key : Text} :
    (entered templates entries).contains key = true ↔
      key ∈ entries.map Prod.fst ∨ templates.contains key = true := by
  induction entries generalizing templates with
  | nil => simp [entered]
  | cons entry entries ih =>
      obtain ⟨first, text⟩ := entry
      rw [entered_cons, ih]
      simp [eq_comm (a := first), or_assoc, or_left_comm]

/-- There are as many messages as paths: entering a text at a path that has one replaces it. -/
theorem size_entered (entries : List (Text × Text)) :
    (entered ∅ entries).size = (entries.map Prod.fst).dedup.length := by
  have same : (entered ∅ entries).names.Perm (entries.map Prod.fst).dedup := by
    refine (List.perm_ext_iff_of_nodup (Table.nodup_names _) (List.nodup_dedup _)).2 fun key => ?_
    have none : (∅ : Table Text).contains key = false := rfl
    rw [List.mem_dedup, ← Table.contains_iff_mem_names, contains_entered]
    simp [none]
  rw [← same.length_eq, Table.names, List.length_map]
  rfl

/-- Once all texts could be read, the table is what entering them makes of it. What the translator
has cached on the way does not matter. -/
theorem templates_of_enter {translator : Translator} {templates : Table Text}
    {entries : List (Text × Text)} {messages : Messages}
    (h : enter translator templates entries = .ok messages) :
    messages.templates = entered templates entries := by
  induction entries generalizing translator templates with
  | nil =>
      cases h
      rfl
  | cons entry entries ih =>
      obtain ⟨key, text⟩ := entry
      rw [enter] at h
      split at h
      · cases h
      · exact ih h

/-! ### Nested groups -/

/-- The texts in nested groups, each at its path, in the order in which they are entered. -/
def flat (strings : Entries Json) : List (Text × Text) :=
  (Json.leavesOf strings).map fun (names, text) => (pathOf [] names, text)

theorem templates_of_ofStrings {translator : Translator} {strings : Entries Json}
    {messages : Messages} (h : ofStrings translator strings = .ok messages) :
    messages.templates = entered ∅ (flat strings) :=
  templates_of_enter (ofFlat_of_ofStrings h)

/-- Every text is the message at its dotted path, and there are no more messages than texts. The
first field alone would allow for a text at the wrong path. -/
structure Complete (strings : Entries Json) (messages : Messages) : Prop where
  counted : messages.size = (Json.leavesOf strings).length
  found : ∀ {names text}, (names, text) ∈ Json.leavesOf strings →
    messages.find? (dotted names) = some { key := dotted names, template := text }

/-- Without a nameless group at the root, texts are at their dotted paths. A group deeper down may
be nameless: its path is not empty. -/
theorem flat_eq_dotted {strings : Entries Json} (named : ∀ fields, ([], .object fields) ∉ strings) :
    flat strings = (Json.leavesOf strings).map fun (names, text) => (dotted names, text) := by
  refine List.map_congr_left fun leaf mem => ?_
  obtain ⟨names, text⟩ := leaf
  have single : names.head? = some [] → names.length = 1 := by
    intro nameless
    obtain ⟨name, value, rest, here, rfl, below⟩ :=
      Json.mem_endsOf_iff.1 (Json.mem_leavesOf_iff.1 mem)
    obtain rfl : name = [] := by simpa using nameless
    cases value with
    | object fields => exact absurd here (named fields)
    | _ => simp_all [Json.ends]
  simp [pathOf_eq_dotted single]

/-- Where no path is listed twice, each is found with its text. -/
theorem lookup_of_nodup {entries : List (Text × Text)} (nodup : (entries.map Prod.fst).Nodup)
    {key text : Text} (mem : (key, text) ∈ entries) : entries.lookup key = some text := by
  induction entries with
  | nil => cases mem
  | cons entry entries ih =>
      obtain ⟨first, other⟩ := entry
      obtain ⟨fresh, later⟩ := List.nodup_cons.1 nodup
      rcases List.mem_cons.1 mem with same | behind
      · cases same
        simp
      · have apart : key ≠ first := by
          rintro rfl
          exact fresh (List.mem_map.2 ⟨(key, text), behind, rfl⟩)
        rw [List.lookup_cons, beq_false_of_ne apart]
        exact ih later behind

/-- **Nothing is lost** exactly when no two texts have the same path. For one direction messages are
counted: as many paths as texts means that no path is there twice. For the other, a path that is
there once has kept its text. -/
theorem complete_iff {strings : Entries Json} {messages : Messages}
    (templates : messages.templates = entered ∅ (flat strings))
    (named : ∀ fields, ([], .object fields) ∉ strings) :
    Complete strings messages ↔
      ((Json.leavesOf strings).map fun leaf => dotted leaf.1).Nodup := by
  have paths : (flat strings).map Prod.fst =
      (Json.leavesOf strings).map fun leaf => dotted leaf.1 := by
    simp [flat_eq_dotted named, Function.comp_def]
  have size : messages.size = ((flat strings).map Prod.fst).dedup.length := by
    rw [Messages.size, templates, size_entered]
  rw [← paths]
  constructor
  · -- As many paths as texts: then taking out those that come twice takes out none.
    intro complete
    rw [← List.dedup_eq_self]
    refine (List.dedup_sublist _).eq_of_length ?_
    rw [← size, complete.counted]
    simp [flat]
  · intro distinct
    refine ⟨?_, fun mem => ?_⟩
    · rw [size, distinct.dedup]
      simp [flat]
    · have here := List.mem_map_of_mem (f := fun (names, text) => (dotted names, text)) mem
      rw [← flat_eq_dotted named, ← List.mem_reverse] at here
      have reversed : ((flat strings).reverse.map Prod.fst).Nodup := by
        rwa [List.map_reverse, List.nodup_reverse]
      simp [find?, templates, find?_entered, lookup_of_nodup reversed here]

/-- Texts whose names are free of the separator have different paths, because names differ and can
be read off their path. -/
theorem nodup_dotted {strings : Entries Json} (ordered : (Json.object strings).Ordered)
    (free : ∀ leaf ∈ Json.leavesOf strings, ∀ name ∈ leaf.1, separator ∉ name) :
    ((Json.leavesOf strings).map fun leaf => dotted leaf.1).Nodup := by
  have split : ((Json.leavesOf strings).map fun leaf => dotted leaf.1) =
      ((Json.leavesOf strings).map Prod.fst).map dotted := by
    simp [Function.comp_def]
  rw [split]
  refine List.Nodup.map_on ?_ (Json.nodup_leavesOf ordered.1 ordered.2)
  intro names mem names' mem' same
  obtain ⟨leaf, here, rfl⟩ := List.mem_map.1 mem
  obtain ⟨leaf', here', rfl⟩ := List.mem_map.1 mem'
  obtain ⟨_, _, first⟩ := Json.exists_head_of_mem_leavesOf mem
  obtain ⟨_, _, first'⟩ := Json.exists_head_of_mem_leavesOf mem'
  exact dotted_injective (by simp [first]) (by simp [first']) (free leaf here) (free leaf' here')
    same

end Messages

/-- **Messages are kept by their paths.** When nested groups can be loaded at all, of the texts of
one path the last is kept, and there are as many messages as paths; this holds of every tree.

Without a nameless group at the root, nothing is lost exactly when all dotted paths are different.
They are when no name holds the separator, where the groups have to be ordered, as they are whenever
they come from a file. Names may be empty otherwise. -/
theorem messages_kept_by_path {translator : Translator} {strings : Entries Json}
    {messages : Messages} (loaded : Messages.ofStrings translator strings = .ok messages) :
    (∀ key, messages.find? key =
      ((Messages.flat strings).reverse.lookup key).map fun template => { key, template }) ∧
    messages.size = ((Messages.flat strings).map Prod.fst).dedup.length ∧
    ((∀ fields, ([], .object fields) ∉ strings) →
      (Messages.Complete strings messages ↔
        ((Json.leavesOf strings).map fun leaf => Messages.dotted leaf.1).Nodup) ∧
      ((Json.object strings).Ordered →
        (∀ leaf ∈ Json.leavesOf strings, ∀ name ∈ leaf.1, Messages.separator ∉ name) →
          Messages.Complete strings messages)) := by
  have templates := Messages.templates_of_ofStrings loaded
  refine ⟨fun key => ?_, ?_, fun named => ?_⟩
  · simp [Messages.find?, templates, Messages.find?_entered]
  · rw [Messages.size, templates, Messages.size_entered]
  · have complete := Messages.complete_iff templates named
    exact ⟨complete, fun ordered free => complete.2 (Messages.nodup_dotted ordered free)⟩

/-- Two groups, one in the other, with an empty name in the inner one. -/
def Json.menu : Entries Json :=
  [("menu".toList, .object
    [("open".toList, .string "Open".toList),
     ("recent".toList, .object [([], .string "Recent".toList)])]),
   ("title".toList, .string "{n} mails".toList)]

theorem messages_kept_by_path_menu :
    ∃ messages, Messages.ofStrings (.withSelector [] (fun _ => .other) ∅ {}) Json.menu =
        .ok messages ∧ messages.size = 3 ∧
      messages.find? "menu.recent.".toList =
        some { key := "menu.recent.".toList, template := "Recent".toList } ∧
      Messages.Complete Json.menu messages := by
  obtain ⟨messages, loaded⟩ : ∃ messages,
      Messages.ofStrings (.withSelector [] (fun _ => .other) ∅ {}) Json.menu = .ok messages :=
    ⟨_, rfl⟩
  obtain ⟨found, size, complete⟩ := messages_kept_by_path loaded
  refine ⟨messages, loaded, ?_, ?_, (complete ?_).2 ⟨?_, ?_⟩ ?_⟩
  · rw [size]
    decide
  · rw [found]
    decide
  · intro fields
    simp [Json.menu]
  · simp only [Json.menu, Entries.Sorted]
    decide
  · simp only [Json.menu, Json.OrderedFields, Json.Ordered, Entries.Sorted]
    decide
  · decide

/-- A text in a nameless group, and one beside it. -/
def Json.nameless : Entries Json :=
  [([], .object [("a".toList, .string "x".toList)]), ("a".toList, .string "y".toList)]

/-- A text in a group, and one beside it whose name is a path. -/
def Json.dottedName : Entries Json :=
  [("a".toList, .object [("b".toList, .string "x".toList)]), ("a.b".toList, .string "y".toList)]

/-- **A message can be lost** without a fault: a nameless group at the root is taken for the root,
and a name with the separator for a path. In both trees two texts end up at one path; in the first,
moreover, the path that is due, with the separator in front, holds nothing. -/
theorem texts_of_one_path_collapse :
    ((Json.object Json.nameless).Ordered ∧
      ∃ messages, Messages.ofStrings (.withSelector [] (fun _ => .other) ∅ {}) Json.nameless =
          .ok messages ∧ (Json.leavesOf Json.nameless).length = 2 ∧ messages.size = 1 ∧
        messages.find? ".a".toList = none ∧ ¬Messages.Complete Json.nameless messages) ∧
    (Json.object Json.dottedName).Ordered ∧
      ∃ messages, Messages.ofStrings (.withSelector [] (fun _ => .other) ∅ {}) Json.dottedName =
          .ok messages ∧ (Json.leavesOf Json.dottedName).length = 2 ∧ messages.size = 1 ∧
        ¬Messages.Complete Json.dottedName messages := by
  refine ⟨⟨⟨?_, ?_⟩, _, rfl, rfl, rfl, rfl, ?_⟩, ⟨?_, ?_⟩, _, rfl, rfl, rfl, ?_⟩
  · simp [Json.nameless, Entries.Sorted]
  · simp [Json.nameless, Json.OrderedFields, Json.Ordered, Entries.Sorted]
  · intro complete
    exact absurd complete.counted (by decide)
  · simp [Json.dottedName, Entries.Sorted]
  · simp [Json.dottedName, Json.OrderedFields, Json.Ordered, Entries.Sorted]
  · intro complete
    exact absurd complete.counted (by decide)

end LocaleText
