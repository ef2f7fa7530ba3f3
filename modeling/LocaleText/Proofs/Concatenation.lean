import LocaleText.Proofs.Influence
import LocaleText.Proofs.Keys
import LocaleText.Proofs.Rendering

/-!
# LocaleText.Proofs.Concatenation

**Texts one after the other render one after the other**, as long as no key is inherited across the
seam. Whatever is cut, read or shown of the whole is that of the front and then that of the back,
except that literals which meet at the seam become one: `Joins` says so, and each stage of reading
preserves it, from the cut (`Segment.WellCut.exists_joins`) to the tidied parts. Filling in keys is
the only stage that looks across. What it sees of the front does not matter to a back that writes
all its keys, and what it sees of the back does not matter to a front that writes all its own or
offers one (`Part.joins_inheritKeys`). Any other front takes its key from behind the seam: alone,
`{}` reads the argument `0`, and in front of `{name}` it reads `name`.

A literal shows as its text, so one literal shows what two would have shown, and the law follows
part by part (`concatenated_texts_render_in_turn`).
-/

namespace LocaleText

/-! ### Joining at a seam -/

/-- The list `whole` is `left` and then `right`, but literals that would meet are one. -/
inductive Joins {α : Type} (literal : Text → α) : (left right whole : List α) → Prop
  /-- Nothing is merged. -/
  | apart (left right : List α) : Joins literal left right (left ++ right)
  /-- The last literal of the left list and the first of the right one are merged. -/
  | merged (before : List α) (front back : Text) (after : List α) :
      Joins literal (before ++ [literal front]) (literal back :: after)
        (before ++ literal (front ++ back) :: after)

namespace Joins

variable {α β ε : Type} {literal : Text → α} {literal' : Text → β} {left right whole : List α}

/-- What is gathered from the whole, when literals give up their text piece by piece. Writing,
showing and asking are all of this form. -/
theorem flatMap {f : α → List β} (h : Joins literal left right whole)
    (pieces : ∀ front back, f (literal (front ++ back)) = f (literal front) ++ f (literal back)) :
    whole.flatMap f = left.flatMap f ++ right.flatMap f := by
  cases h with
  | apart => exact List.flatMap_append
  | merged before front back after =>
      simp only [List.flatMap_append, List.flatMap_cons, List.flatMap_nil, List.append_nil, pieces,
        List.append_assoc]

/-- What is found first in the whole, when nothing is found in literals: it does not matter then
whether two of them are one. -/
theorem findSome? {f : α → Option β} (h : Joins literal left right whole)
    (skipped : ∀ text, f (literal text) = none) :
    whole.findSome? f = (left.findSome? f).or (right.findSome? f) := by
  cases h with
  | apart => exact List.findSome?_append
  | merged before front back after =>
      rw [List.findSome?_append, List.findSome?_append, List.findSome?_singleton, skipped,
        Option.or_none, List.findSome?_cons, List.findSome?_cons, skipped, skipped]

/-- Lists that are joined stay so when literals are mapped to literals of the same text. -/
theorem map {f : α → β} (h : Joins literal left right whole)
    (kept : ∀ text, f (literal text) = literal' text) :
    Joins literal' (left.map f) (right.map f) (whole.map f) := by
  cases h with
  | apart =>
      rw [List.map_append]
      exact apart _ _
  | merged before front back after =>
      simp only [List.map_append, List.map_cons, List.map_nil, kept]
      exact merged _ _ _ _

/-- Where both lists can be read, so can the whole. Reading must not fail for a literal and must
keep its text, because the whole holds one literal where the sides hold two. -/
theorem mapM {f : α → Except ε β} {results results' : List β} (h : Joins literal left right whole)
    (reads : ∀ text, f (literal text) = .ok (literal' text)) (readLeft : left.mapM f = .ok results)
    (readRight : right.mapM f = .ok results') :
    ∃ all, whole.mapM f = .ok all ∧ Joins literal' results results' all := by
  cases h with
  | apart =>
      refine ⟨results ++ results', ?_, apart _ _⟩
      rw [List.mapM_append, readLeft, readRight]
      rfl
  | merged before front back after =>
      obtain ⟨first, last, none, rfl, readBefore, given, nothing⟩ :=
        exists_of_mapM_append_cons readLeft
      rw [← List.nil_append (literal back :: after)] at readRight
      obtain ⟨none', next, rest, rfl, nothing', given', readAfter⟩ :=
        exists_of_mapM_append_cons readRight
      rw [reads] at given given'
      cases given
      cases given'
      cases nothing
      cases nothing'
      refine ⟨first ++ literal' (front ++ back) :: rest, ?_, merged _ _ _ _⟩
      rw [mapM_append_cons, readBefore, reads, readAfter]
      rfl

end Joins

/-! ### Cutting -/

namespace Segment

/-- Segments that are joined are written as their texts one after the other. -/
theorem writeAll_of_joins {left right whole : List Segment} (h : Joins literal left right whole) :
    writeAll whole = writeAll left ++ writeAll right :=
  h.flatMap fun _ _ => rfl

/-- A literal in place of two that meet keeps apart what they kept apart. It is still free of
braces, and its neighbours are those of the two. -/
theorem wellCut_merged {before after : List Segment} {front back : Text}
    (hl : WellCut (before ++ [literal front])) (hr : WellCut (literal back :: after)) :
    WellCut (before ++ literal (front ++ back) :: after) := by
  obtain ⟨⟨_, freeBack⟩, opened, hAfter⟩ := wellCut_literal_cons.1 hr
  obtain ⟨properBefore, properFront⟩ := List.forall_mem_append.1 hl.proper
  obtain ⟨notEmpty, freeFront⟩ := properFront (literal front) List.mem_cons_self
  have merged : WellCut (literal (front ++ back) :: after) :=
    wellCut_literal_cons.2 ⟨⟨List.append_ne_nil_of_left_ne_nil notEmpty back,
      freeFront.append freeBack⟩, opened, hAfter⟩
  obtain ⟨apartBefore, -, meets⟩ := List.isChain_append.1 hl.apart
  refine ⟨List.forall_mem_append.2 ⟨properBefore, merged.proper⟩,
    List.isChain_append.2 ⟨apartBefore, merged.apart, fun last here next mem => ?_⟩⟩
  cases mem
  exact meets last here (literal front) rfl

/-- **Two cuts make one** when literals are merged at the seam. A list is well cut when no two
literals are neighbours, so that the seam is the only place where this can fail, and it fails there
exactly when two literals meet. -/
theorem WellCut.exists_joins {left right : List Segment} (hl : WellCut left) (hr : WellCut right) :
    ∃ whole, Joins literal left right whole ∧ WellCut whole := by
  by_cases meet : ∀ last ∈ left.getLast?, ∀ next ∈ right.head?, Apart last next
  · refine ⟨left ++ right, .apart left right, ?_, ?_⟩
    · exact List.forall_mem_append.2 ⟨hl.proper, hr.proper⟩
    · exact List.isChain_append.2 ⟨hl.apart, hr.apart, meet⟩
  · simp only [Apart, not_forall, not_not] at meet
    obtain ⟨last, here, next, mem, bothLiteral⟩ := meet
    obtain ⟨before, rfl⟩ := List.getLast?_eq_some_iff.1 here
    obtain ⟨after, rfl⟩ := List.head?_eq_some_iff.1 mem
    cases last with
    | expression body => cases bothLiteral.1
    | literal front =>
        cases next with
        | expression body => cases bothLiteral.2
        | literal back => exact ⟨_, .merged before front back after, wellCut_merged hl hr⟩

end Segment

/-! ### Filling in keys -/

namespace Part

variable {left right whole : List Part}

/-- Keys are filled in along the whole as along its two sides, the right one being entered with the
closest key that the left one offers. -/
theorem joins_inheritFrom (h : Joins literal left right whole) (first : Text)
    (last : Option Text) :
    Joins literal (inheritFrom first last left)
      (inheritFrom first ((left.reverse.findSome? offeredKey?).or last) right)
      (inheritFrom first last whole) := by
  cases h with
  | apart =>
      rw [inheritFrom_append]
      exact .apart _ _
  | merged before front back after =>
      have closest : (before ++ [literal front]).reverse.findSome? offeredKey? =
          before.reverse.findSome? offeredKey? := by
        rw [List.reverse_append, List.reverse_singleton, List.singleton_append,
          List.findSome?_cons]
        rfl
      rw [inheritFrom_append, inheritFrom_append, closest]
      exact .merged _ _ _ _

/-- **No key crosses the seam** from either side. The back takes none from the front, because it
writes all its own. The front would take one from the back only for an expression with no key in
front of it, and only if it offered none itself; it takes none if it writes all its keys or offers
one. -/
theorem joins_inheritKeys (h : Joins literal left right whole)
    (keyedRight : ∀ part ∈ right, part.key? ≠ some [])
    (keyedLeft : (∀ part ∈ left, part.key? ≠ some []) ∨
      ∃ part ∈ left, ∃ key, part.offeredKey? = some key) :
    Joins literal (inheritKeys left) (inheritKeys right) (inheritKeys whole) := by
  have filled := joins_inheritFrom h (standIn whole) none
  rw [inheritFrom_of_keyed keyedRight] at filled
  rw [inheritKeys_eq right, inheritFrom_of_keyed keyedRight, inheritKeys_eq left,
    inheritKeys_eq whole]
  rcases keyedLeft with keyed | ⟨part, mem, key, offered⟩
  · rw [inheritFrom_of_keyed keyed] at filled ⊢
    exact filled
  · -- The first key offered is one of the left side.
    have same : standIn whole = standIn left := by
      have found : ∃ key, left.findSome? offeredKey? = some key := by
        rw [← Option.isSome_iff_exists, List.findSome?_isSome_iff]
        exact ⟨part, mem, by rw [offered]; rfl⟩
      obtain ⟨key, found⟩ := found
      rw [standIn, standIn, h.findSome? fun _ => rfl, found]
      rfl
    rw [same] at filled ⊢
    exact filled

/-- Tidying looks at one part at a time and leaves literals alone. -/
theorem joins_tidy (h : Joins literal left right whole) (options : ParseOptions) :
    Joins literal (left.map (tidy options)) (right.map (tidy options))
      (whole.map (tidy options)) := by
  refine h.map fun text => ?_
  rw [tidy]
  split <;> rfl

end Part

/-! ### Reading the whole -/

namespace Segment

/-- The segment writes a key, if it is an expression. -/
def Keyed (segment : Segment) : Prop :=
  segment.isLiteral = false → ∃ key, segment.Writes key ∧ key ≠ []

/-- A segment is keyed when its part is read with a key, or as literal text. The left side is about
the text, and is what the main statement assumes; the right side is what the lemmas about parts use.
-/
theorem keyed_iff {segment : Segment} {part : Part} (proper : segment.Proper)
    (read : Part.ofSegment segment = .ok part) : segment.Keyed ↔ part.key? ≠ some [] := by
  constructor
  · intro keyed keyless
    have expression : segment.isLiteral = false := by
      rw [← Part.isLiteral_ofSegment read]
      cases part with
      | literal text => cases keyless
      | placeholder p => rfl
      | plural block => rfl
    obtain ⟨key, writes, written⟩ := keyed expression
    rw [Part.writes_iff proper read, keyless] at writes
    exact written (Option.some.inj writes).symm
  · intro keyed expression
    obtain ⟨key, writes⟩ := exists_writes proper expression
    refine ⟨key, writes, fun keyless => keyed ?_⟩
    rw [← keyless]
    exact (Part.writes_iff proper read).1 writes

/-- Segments are keyed when their parts are read with keys, or as literal text. -/
theorem forall_keyed_iff {segments : List Segment} {parts : List Part}
    (proper : ∀ segment ∈ segments, segment.Proper)
    (read : segments.mapM Part.ofSegment = .ok parts) :
    (∀ segment ∈ segments, segment.Keyed) ↔ ∀ part ∈ parts, part.key? ≠ some [] := by
  constructor
  · intro keyed part mem
    obtain ⟨segment, here, given⟩ := exists_of_mem_mapM read mem
    exact (keyed_iff (proper segment here) given).1 (keyed segment here)
  · intro keyed segment mem
    obtain ⟨part, here, given⟩ := exists_mem_of_mapM read mem
    exact (keyed_iff (proper segment mem) given).2 (keyed part here)

end Segment

namespace Template

/-- A text that reads is cut and read segment by segment, with any options. Options matter only for
tidying, so a text that reads with some reads with all. -/
theorem exists_readParts {text : Text} {cut : List Segment} (split : Segment.split text = .ok cut)
    (reads : ∃ options template, parse options text = .ok template) :
    ∃ parts, cut.mapM Part.ofSegment = .ok parts ∧ ∀ options,
      parse options text = .ok { parts := (Part.inheritKeys parts).map (Part.tidy options) } := by
  obtain ⟨options, template, read⟩ := reads
  obtain ⟨segments, parts, same, given, -⟩ := exists_of_parse read
  rw [split, Except.ok.injEq] at same
  subst same
  refine ⟨parts, given, fun options => ?_⟩
  rw [parse_eq, readParts_of_split_ok split, given]
  rfl

section Texts

variable {front back : Text} {cutFront cutBack : List Segment}
  (readsFront : ∃ options template, parse options front = .ok template)
  (readsBack : ∃ options template, parse options back = .ok template)
  (splitFront : Segment.split front = .ok cutFront) (splitBack : Segment.split back = .ok cutBack)
  (keyedBack : ∀ segment ∈ cutBack, segment.Keyed)
  (keyedFront : (∀ segment ∈ cutFront, segment.Keyed) ∨
    ∃ segment ∈ cutFront, ∃ key, segment.Offers key)
  (options : ParseOptions)

include readsFront readsBack splitFront splitBack keyedBack keyedFront

/-- Texts one after the other are read as their templates joined. Each stage of reading keeps what
is joined together: the cut, the reading of the segments, the filling in of keys and the tidying. -/
theorem parse_append :
    ∃ first second whole : Template, parse options front = .ok first ∧
      parse options back = .ok second ∧ parse options (front ++ back) = .ok whole ∧
      Joins Part.literal first.parts second.parts whole.parts := by
  obtain ⟨left, readLeft, parseFront⟩ := exists_readParts splitFront readsFront
  obtain ⟨right, readRight, parseBack⟩ := exists_readParts splitBack readsBack
  obtain ⟨rfl, wellCutFront⟩ := Segment.split_eq_ok_iff.1 splitFront
  obtain ⟨rfl, wellCutBack⟩ := Segment.split_eq_ok_iff.1 splitBack
  obtain ⟨cut, joined, wellCut⟩ := wellCutFront.exists_joins wellCutBack
  have reads (text : Text) : Part.ofSegment (.literal text) = .ok (.literal text) := rfl
  obtain ⟨all, readAll, joinedParts⟩ := joined.mapM reads readLeft readRight
  have keyedRight := (Segment.forall_keyed_iff wellCutBack.proper readRight).1 keyedBack
  have keyedLeft : (∀ part ∈ left, part.key? ≠ some []) ∨
      ∃ part ∈ left, ∃ key, part.offeredKey? = some key := by
    rcases keyedFront with keyed | ⟨segment, mem, key, offers⟩
    · exact Or.inl ((Segment.forall_keyed_iff wellCutFront.proper readLeft).1 keyed)
    · obtain ⟨part, here, given⟩ := exists_mem_of_mapM readLeft mem
      have proper := wellCutFront.proper segment mem
      exact Or.inr ⟨part, here, key, (Part.offers_iff proper given).1 offers⟩
  -- The cut is joined, so is what is read from it, and so is all that follows.
  have tidied := Part.joins_tidy (Part.joins_inheritKeys joinedParts keyedRight keyedLeft) options
  refine ⟨_, _, ⟨(Part.inheritKeys all).map (Part.tidy options)⟩, parseFront options,
    parseBack options, ?_, tidied⟩
  rw [← Segment.writeAll_of_joins joined, parse_eq,
    readParts_of_split_ok (Segment.split_writeAll wellCut), readAll]
  rfl

/-- **Concatenation.** Let both texts be without fault, and let the back write all its keys, and the
front all its own or one that its other expressions can take. Then the whole can be read, with any
options; in every setting it shows what the front shows and then what the back shows, and the plural
rules are asked about the numbers of the front and then about those of the back.

What is assumed of the keys is said of the segments into which the texts are cut, not of the parts
that are read from them, so it can be checked on the text. -/
theorem concatenated_texts_render_in_turn :
    ∃ first second whole, parse options front = .ok first ∧ parse options back = .ok second ∧
      parse options (front ++ back) = .ok whole ∧ ∀ setting : Setting,
        setting.render whole = setting.render first ++ setting.render second ∧
        setting.consulted whole = setting.consulted first ++ setting.consulted second := by
  obtain ⟨first, second, whole, readFirst, readSecond, readWhole, joined⟩ :=
    parse_append readsFront readsBack splitFront splitBack keyedBack keyedFront options
  refine ⟨first, second, whole, readFirst, readSecond, readWhole, fun setting => ⟨?_, ?_⟩⟩
  · simp only [Setting.render, render_eq]
    exact joined.flatMap fun _ _ => rfl
  · simp only [Setting.consulted, consulted_eq]
    exact joined.flatMap fun _ _ => rfl

end Texts

/-- A text whose first expression takes the key of the last, and that ends in a literal. -/
def greeting : Text := "{}{n:{a|b}}{name}!".toList

/-- A text that starts with a literal and writes all its keys. -/
def question : Text := "? {m:{c|d}} {who}".toList

/-- Two names, and two numbers that are missing. -/
def guests : Setting where
  arguments := [.object [("name".toList, .string "Ann".toList),
    ("who".toList, .string "Bob".toList)]]
  registry := ∅
  select _ := .other

theorem concatenated_texts_render_in_turn_greeting :
    ∃ cutFront cutBack, Segment.split greeting = .ok cutFront ∧
      Segment.split question = .ok cutBack ∧ (∀ segment ∈ cutBack, segment.Keyed) ∧
      (∃ segment ∈ cutFront, ∃ key, segment.Offers key) ∧
      ∃ first second whole, parse {} greeting = .ok first ∧ parse {} question = .ok second ∧
        parse {} (greeting ++ question) = .ok whole ∧ guests.render first = "AnnbAnn!".toList ∧
        guests.render second = "? d Bob".toList ∧
        guests.render whole = "AnnbAnn!? d Bob".toList ∧
        guests.consulted whole = guests.consulted first ++ guests.consulted second := by
  have splitFront : Segment.split greeting = .ok [.expression [], .expression "n:{a|b}".toList,
      .expression "name".toList, .literal "!".toList] := rfl
  have splitBack : Segment.split question = .ok [.literal "? ".toList,
      .expression "m:{c|d}".toList, .literal " ".toList, .expression "who".toList] := rfl
  have keyedBack : ∀ segment ∈ [Segment.literal "? ".toList, .expression "m:{c|d}".toList,
      .literal " ".toList, .expression "who".toList], segment.Keyed :=
    (Segment.forall_keyed_iff (by decide) rfl).2 (by decide)
  have offers : (Segment.expression "name".toList).Offers "name".toList :=
    (Part.offers_iff (by decide) rfl).2 rfl
  have offered : ∃ segment ∈ [Segment.expression [], .expression "n:{a|b}".toList,
      .expression "name".toList, .literal "!".toList], ∃ key, segment.Offers key :=
    ⟨_, by decide, _, offers⟩
  refine ⟨_, _, splitFront, splitBack, keyedBack, offered, ?_⟩
  obtain ⟨first, second, whole, readFirst, readSecond, readWhole, alike⟩ :=
    concatenated_texts_render_in_turn ⟨{}, _, rfl⟩ ⟨{}, _, rfl⟩ splitFront splitBack keyedBack
      (Or.inr offered) {}
  obtain ⟨shows, asks⟩ := alike guests
  have showsFirst : guests.render first = "AnnbAnn!".toList := by
    cases readFirst
    rfl
  have showsSecond : guests.render second = "? d Bob".toList := by
    cases readSecond
    rfl
  refine ⟨first, second, whole, readFirst, readSecond, readWhole, showsFirst, showsSecond, ?_,
    asks⟩
  rw [shows, showsFirst, showsSecond]
  rfl

end Template

end LocaleText
