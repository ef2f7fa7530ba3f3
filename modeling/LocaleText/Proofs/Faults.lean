import LocaleText.Proofs.Alternatives
import LocaleText.Proofs.Segments
import LocaleText.Template.Parse

/-!
# LocaleText.Proofs.Faults

**Which fault a text has.** `Fault text fault` says it of the text alone: the first brace that
closes nothing; if there is none, the leftmost brace that is never closed; if there is none either,
the leftmost plural block that lists no alternative or more than six. `parse_reports_fault` is the
main statement: reading a template reports exactly that fault, and succeeds when there is none.

Cutting settles the two faults of braces (`Segment.cut_cases`), whatever the expressions are; only
a text with a cut has its expressions read, from left to right (`mapM_eq_error_iff`).
-/

namespace LocaleText

/-! ### The faults of a text -/

/-- Behind an opening brace, the text closes it: some balanced text and then a closing brace. -/
def Partnered (back : Text) : Prop :=
  ∃ inner after, back = inner ++ '}' :: after ∧ Balanced inner

/-- The expression is a plural block that writes `count` alternatives: none, or too many. How many
it writes is read off the list itself (`Alternatives.Counts`), without splitting it. -/
def Miscounted (body : Text) (count : Nat) : Prop :=
  ∃ key list, PluralBlock.source? body = some (key, list) ∧ Alternatives.Counts list count ∧
    (count = 0 ∨ PluralForms.maxCount < count)

/-- The fault of a text, if it has one. The cases come in the order in which they count, each of the
later two being for texts to which no earlier one applies: a covered text closes nothing too much,
and a text with a cut has all its braces closed. Positions are counted in bytes. -/
inductive Fault (text : Text) : TemplateError → Prop
  /-- The first brace that closes more than has been opened. -/
  | overclosed {front back : Text} : text = front ++ '}' :: back → Covered 0 front →
      (front ++ ['}']).count '{' < (front ++ ['}']).count '}' →
      Fault text (.unexpectedClosingBrace (Text.utf8Size front))
  /-- Else the leftmost opening brace that nothing closes. -/
  | unclosed {front back : Text} : Covered 0 text → text = front ++ '{' :: back →
      ¬Partnered back →
      (∀ earlier rest, text = earlier ++ '{' :: rest → earlier.length < front.length →
        Partnered rest) →
      Fault text (.unclosedBrace (Text.utf8Size front))
  /-- Else the leftmost plural block with a wrong number of alternatives. -/
  | miscounted {before after : List Segment} {body : Text} {count : Nat} :
      Segment.WellCut (before ++ .expression body :: after) →
      text = Segment.writeAll (before ++ .expression body :: after) →
      (∀ earlier other, .expression earlier ∈ before → ¬Miscounted earlier other) →
      Miscounted body count → Fault text (.pluralArity body count)

/-! ### Braces -/

/-- A prefix that closes nothing too much, before a brace that does, is balanced. So the first brace
that closes too much is the one at which the cut stops. -/
theorem balanced_of_overclosed {front : Text} (covered : Covered 0 front)
    (exceeds : (front ++ ['}']).count '{' < (front ++ ['}']).count '}') : Balanced front := by
  have whole := covered front (List.prefix_refl front)
  rw [List.count_append, List.count_append, List.count_singleton_self,
    List.count_singleton, if_neg (by decide)] at exceeds
  exact nesting?_eq_some_iff.2 ⟨covered, by omega⟩

/-- What leaves no brace of its own unopened does not close the brace before it. Here `level` braces
of it stay open, possibly none. -/
theorem not_partnered_of_nesting? {back : Text} {level : Nat} (h : nesting? 0 back = some level) :
    ¬Partnered back := by
  intro h
  obtain ⟨inner, after, rfl, balanced⟩ := h
  rw [balanced.nesting?_append, nesting?_close_zero] at h
  cases h

/-- An opening brace in a balanced text is closed in it, so it is closed whatever follows. -/
theorem partnered_of_balanced {earlier middle : Text} (h : Balanced (earlier ++ '{' :: middle))
    (back : Text) : Partnered (middle ++ back) := by
  rw [Balanced, nesting?_append, Option.bind_eq_some_iff] at h
  obtain ⟨depth, -, h⟩ := h
  rw [nesting?_open] at h
  obtain ⟨inner, rest, rfl, balanced, -⟩ := exists_partner h (Nat.zero_le depth)
  exact ⟨inner, rest ++ back, by simp, balanced⟩

/-- Of two ways of cutting a text at a character, the one further to the left has the other one's
cut behind it. -/
theorem exists_between {text front earlier back rest : Text} {c d : Char}
    (here : text = front ++ c :: back) (there : text = earlier ++ d :: rest)
    (before : earlier.length < front.length) :
    ∃ middle, front = earlier ++ d :: middle ∧ rest = middle ++ c :: back := by
  rw [here] at there
  rcases List.append_eq_append_iff.1 there with ⟨gap, same, -⟩ | ⟨gap, same, behind⟩
  · rw [same, List.length_append] at before
    omega
  · cases gap with
    | nil =>
        rw [List.append_nil] at same
        rw [same] at before
        exact absurd before (Nat.lt_irrefl _)
    | cons first middle =>
        rw [List.cons_append, List.cons.injEq] at behind
        obtain ⟨rfl, rfl⟩ := behind
        exact ⟨middle, same, rfl⟩

/-- The leftmost open brace of the nesting is the leftmost brace that nothing closes: those before
it stand in a balanced text. -/
theorem fault_unclosed {front back : Text} {level : Nat} (balanced : Balanced front)
    (h : nesting? 0 back = some level) :
    Fault (front ++ '{' :: back) (.unclosedBrace (Text.utf8Size front)) := by
  have leads : nesting? 0 (front ++ '{' :: back) = some (level + 1) := by
    rw [balanced.nesting?_append, nesting?_open]
    exact nesting?_add 1 h
  refine Fault.unclosed (nesting?_eq_some_iff.1 leads).1 rfl (not_partnered_of_nesting? h) ?_
  intro earlier rest same before
  obtain ⟨middle, rfl, rfl⟩ := exists_between rfl same before
  exact partnered_of_balanced balanced _

/-- A text whose leftmost unclosed brace stands behind `front` leads from there to an open brace.
This is what the cut looks for; the description in terms of partners does not mention any nesting.
-/
theorem unclosed_position {text front back : Text} (covered : Covered 0 text)
    (here : text = front ++ '{' :: back) (open_ : ¬Partnered back)
    (leftmost : ∀ earlier rest, text = earlier ++ '{' :: rest → earlier.length < front.length →
      Partnered rest) :
    Balanced front ∧ ∃ level, nesting? 0 back = some level := by
  have total : nesting? 0 text = some (text.count '{' - text.count '}') := by
    have whole := covered text (List.prefix_refl text)
    exact nesting?_eq_some_iff.2 ⟨covered, by omega⟩
  cases depth : text.count '{' - text.count '}' with
  | zero =>
      rw [depth, here] at total
      exact absurd (by simpa using partnered_of_balanced total []) open_
  | succ level =>
      rw [depth] at total
      -- The leftmost open brace of the nesting can stand neither before `front` ends nor behind.
      obtain ⟨left, right, there, balanced, hRight⟩ := exists_leftmost_open total
      rcases Nat.lt_trichotomy left.length front.length with before | same | behind
      · exact absurd (leftmost left right there before) (not_partnered_of_nesting? hRight)
      · have both := List.append_inj (there.symm.trans here) same
        obtain ⟨rfl, both⟩ := both
        injection both with _ both
        subst both
        exact ⟨balanced, level, hRight⟩
      · obtain ⟨middle, rfl, rfl⟩ := exists_between there here behind
        exact absurd (partnered_of_balanced balanced _) open_

/-! ### Expressions -/

/-- A key in front of an opening brace, in a text that closes nothing too much, holds no brace: it
could only close what it has opened. -/
theorem braceFree_of_nesting? {key : Text} {level : Nat} (h : nesting? 0 key = some level)
    (noneOpen : '{' ∉ key) : BraceFree key := by
  obtain ⟨covered, -⟩ := nesting?_eq_some_iff.1 h
  have noneClose := covered key (List.prefix_refl key)
  rw [List.count_eq_zero_of_not_mem noneOpen] at noneClose
  exact ⟨noneOpen, List.count_eq_zero.1 (Nat.le_zero.1 noneClose)⟩

/-- The list of alternatives of a plural block is balanced, so its alternatives can be counted by
their bars. The braces around a list are those that `unbrace?` takes off, and what it leaves is
balanced; what is left to show is that taking off a key changes nothing. -/
theorem PluralBlock.balanced_of_source? {body key list : Text}
    (h : PluralBlock.source? body = some (key, list)) : Balanced list := by
  unfold PluralBlock.source? at h
  cases wrapped : unbrace? (Text.trim body) with
  | some inner =>
      have balanced := (unbrace?_eq_some_iff.1 wrapped).2
      rw [wrapped] at h
      cases cut : Text.cut? ':' inner with
      | none =>
          simp only [cut, Option.some.injEq, Prod.mk.injEq] at h
          rw [← h.2]
          exact balanced
      | some parts =>
          obtain ⟨head, rest⟩ := parts
          obtain ⟨rfl, -⟩ := Text.cut?_eq_some_iff.1 cut
          simp only [cut] at h
          split at h
          · cases h
            exact balanced
          · next noEnd =>
            cases h
            -- The key closes nothing, because it opens nothing and `inner` is balanced.
            have noneOpen : '{' ∉ key := by
              intro mem
              exact noEnd (List.any_eq_true.2 ⟨'{', mem, by decide⟩)
            rw [Balanced, nesting?_append, Option.bind_eq_some_iff] at balanced
            obtain ⟨level, hKey, balanced⟩ := balanced
            rw [(braceFree_of_nesting? hKey noneOpen).nesting?, Option.some.injEq] at hKey
            rwa [nesting?_other (by decide) (by decide), ← hKey] at balanced
  | none =>
      rw [wrapped] at h
      cases cut : Text.cut? ':' body with
      | none => simp only [cut] at h; cases h
      | some parts =>
          obtain ⟨head, rest⟩ := parts
          simp only [cut] at h
          split at h
          · cases h
          · rw [Option.map_eq_some_iff] at h
            obtain ⟨inner, unwrapped, same⟩ := h
            cases same
            exact (unbrace?_eq_some_iff.1 unwrapped).2

/-- An expression fails to read exactly when it is a plural block with a wrong number of
alternatives. The count that is reported is the number of alternatives, which are counted again as
they are split. -/
theorem Part.ofExpression_eq_error_iff {body : Text} {fault : TemplateError} :
    Part.ofExpression body = .error fault ↔
      ∃ count, Miscounted body count ∧ fault = .pluralArity body count := by
  rw [Part.ofExpression_eq]
  unfold Miscounted
  -- A placeholder has neither a count nor a fault; a block has both or none.
  cases source : PluralBlock.source? body with
  | none =>
      constructor
      · nofun
      · intro h
        obtain ⟨count, ⟨key, list, same, -, -⟩, -⟩ := h
        cases same
  | some parts =>
      obtain ⟨key, list⟩ := parts
      have counts : ∀ {count : Nat}, Alternatives.Counts list count ↔
          count = (Alternatives.read list).length :=
        Alternatives.counts_iff (PluralBlock.balanced_of_source? source)
      have known : (PluralForms.ofAlternatives (Alternatives.read list)).isSome ↔ _ :=
        PluralForms.ofAlternatives_isSome_iff
      cases forms : PluralForms.ofAlternatives (Alternatives.read list) with
      | some found =>
          rw [forms] at known
          obtain ⟨least, most⟩ := known.1 rfl
          simp only [forms]
          constructor
          · nofun
          · intro h
            obtain ⟨count, ⟨_, _, same, counted, wrong⟩, -⟩ := h
            cases same
            rw [counts.1 counted] at wrong
            omega
      | none =>
          rw [forms] at known
          simp only [forms, Except.error.injEq]
          constructor
          · intro same
            subst same
            refine ⟨_, ⟨key, list, rfl, counts.2 rfl, ?_⟩, rfl⟩
            by_contra right
            rw [not_or, Nat.not_lt] at right
            exact absurd (known.2 ⟨Nat.pos_of_ne_zero right.1, right.2⟩) nofun
          · intro h
            obtain ⟨count, ⟨_, _, same, counted, -⟩, rfl⟩ := h
            cases same
            rw [counts.1 counted]

/-- An expression is read as a placeholder, or as the block whose source it is. All that is said
about parts that have been read goes back to these two cases. -/
theorem Part.ofExpression_cases {body : Text} {part : Part}
    (h : Part.ofExpression body = .ok part) :
    (PluralBlock.source? body = none ∧ part = .placeholder (Placeholder.read body)) ∨
    ∃ head list forms, PluralBlock.source? body = some (head, list) ∧
      PluralForms.ofAlternatives (Alternatives.read list) = some forms ∧
      part = .plural { key := Text.trim head, forms := forms } := by
  rw [Part.ofExpression_eq] at h
  cases source : PluralBlock.source? body with
  | none =>
      rw [source] at h
      cases h
      exact Or.inl ⟨rfl, rfl⟩
  | some found =>
      obtain ⟨head, list⟩ := found
      rw [source] at h
      cases slots : PluralForms.ofAlternatives (Alternatives.read list) with
      | none => simp only [slots] at h; cases h
      | some forms =>
          simp only [slots] at h
          cases h
          exact Or.inr ⟨head, list, forms, rfl, slots, rfl⟩

/-- A segment reads when it is literal text or no miscounted block. Placeholders read whatever they
say. -/
theorem Part.ofSegment_isOk {segment : Segment}
    (right : ∀ body count, segment = .expression body → ¬Miscounted body count) :
    ∃ part, Part.ofSegment segment = .ok part := by
  cases segment with
  | literal text => exact ⟨.literal text, rfl⟩
  | expression body =>
      cases read : Part.ofExpression body with
      | ok part => exact ⟨part, read⟩
      | error fault =>
          obtain ⟨count, wrong, -⟩ := Part.ofExpression_eq_error_iff.1 read
          exact absurd wrong (right body count rfl)

namespace Template

/-! ### Reading -/

/-- The fault of a text comes from its segments and expressions alone. Keys are filled in and parts
tidied only when everything has been read, and neither fails. -/
theorem parse_eq_error_iff_readParts {options : ParseOptions} {text : Text}
    {fault : TemplateError} :
    parse options text = .error fault ↔ readParts text = .error fault := by
  rw [parse_eq]
  cases readParts text with
  | error other => exact ⟨fun h => by cases h; rfl, fun h => by cases h; rfl⟩
  | ok parts => exact ⟨nofun, nofun⟩

/-- A text that cannot be cut is not read any further. -/
theorem readParts_of_split_error {text : Text} {fault : TemplateError}
    (h : Segment.split text = .error fault) : readParts text = .error fault := by
  rw [readParts_eq, h]
  rfl

/-- A text with a cut is read segment by segment. -/
theorem readParts_of_split_ok {text : Text} {segments : List Segment}
    (h : Segment.split text = .ok segments) :
    readParts text = segments.mapM Part.ofSegment := by
  rw [readParts_eq, h]
  rfl

/-- A template is read segment by segment, before keys are filled in. The three stages are taken
apart here once, for all lemmas about a text that reads. -/
theorem exists_of_parse {options : ParseOptions} {text : Text} {template : Template}
    (h : parse options text = .ok template) :
    ∃ segments parts, Segment.split text = .ok segments ∧
      segments.mapM Part.ofSegment = .ok parts ∧
      template.parts = (Part.inheritKeys parts).map (Part.tidy options) := by
  cases cut : Segment.split text with
  | error fault =>
      rw [parse_eq, readParts_of_split_error cut] at h
      cases h
  | ok segments =>
      rw [parse_eq, readParts_of_split_ok cut] at h
      cases read : segments.mapM Part.ofSegment with
      | error fault =>
          rw [read] at h
          cases h
      | ok parts =>
          rw [read] at h
          cases h
          exact ⟨segments, parts, rfl, read, rfl⟩

/-- A text that does not read has the fault that is reported. The three cases of a cut are the three
cases of a fault, since segments are read only where there is a cut. -/
theorem fault_of_readParts {text : Text} {fault : TemplateError}
    (h : readParts text = .error fault) : Fault text fault := by
  rcases Segment.cut_cases text with ⟨segments, wellCut, written, cut⟩ |
    ⟨front, back, rfl, balanced, cut⟩ | ⟨front, back, level, rfl, balanced, hBack, cut⟩
  · rw [readParts_of_split_ok cut] at h
    obtain ⟨before, segment, after, rfl, succeeds, fails⟩ := mapM_eq_error_iff.1 h
    cases segment with
    | literal text => cases fails
    | expression body =>
        obtain ⟨count, wrong, rfl⟩ := Part.ofExpression_eq_error_iff.1 fails
        refine Fault.miscounted wellCut written.symm (fun earlier other mem bad => ?_) wrong
        -- A miscounted block further to the left would have been reported.
        obtain ⟨part, reads⟩ := succeeds (.expression earlier) mem
        have stops := Part.ofExpression_eq_error_iff.2 ⟨other, bad, rfl⟩
        rw [Part.ofSegment_expression, stops] at reads
        cases reads
  · rw [readParts_of_split_error cut] at h
    cases h
    obtain ⟨covered, same⟩ := nesting?_eq_some_iff.1 balanced
    refine Fault.overclosed rfl covered ?_
    rw [List.count_append, List.count_append, List.count_singleton_self,
      List.count_singleton, if_neg (by decide)]
    omega
  · rw [readParts_of_split_error cut] at h
    cases h
    exact fault_unclosed balanced hBack

/-- The fault of a text is reported. Here, too, each case is that of the cut; for a miscounted block
the text is given with its cut, which is the one that is found (`Segment.split_writeAll`). -/
theorem readParts_of_fault {text : Text} {fault : TemplateError} (h : Fault text fault) :
    readParts text = .error fault := by
  cases h with
  | @overclosed front back here covered exceeds =>
      rw [here]
      exact readParts_of_split_error
        (Segment.split_of_overclosed (balanced_of_overclosed covered exceeds) back)
  | @unclosed front back covered here open_ leftmost =>
      obtain ⟨balanced, level, hBack⟩ := unclosed_position covered here open_ leftmost
      rw [here]
      exact readParts_of_split_error (Segment.split_of_unclosed balanced hBack)
  | @miscounted before after body count wellCut written right wrong =>
      rw [written, readParts_of_split_ok (Segment.split_writeAll wellCut)]
      refine mapM_eq_error_iff.2 ⟨before, .expression body, after, rfl, ?_, ?_⟩
      · intro segment mem
        refine Part.ofSegment_isOk ?_
        rintro earlier other rfl
        exact right earlier other mem
      · exact Part.ofExpression_eq_error_iff.2 ⟨count, wrong, rfl⟩

/-- Both directions together: the fault that is reported is the one that the text has. -/
theorem parse_eq_error_iff {options : ParseOptions} {text : Text} {fault : TemplateError} :
    parse options text = .error fault ↔ Fault text fault :=
  parse_eq_error_iff_readParts.trans ⟨fault_of_readParts, readParts_of_fault⟩

/-- **The fault that is reported.** Reading a template fails with exactly the fault of its text and
succeeds when it has none, whatever the options. In particular a text has at most one fault, and
options only change how a text is read, not whether it is.

The last two parts are said of faults of braces and of blocks: one of the braces outranks one of a
plural block wherever the two stand, and a block that is reported to have no alternative is one
whose list is blank. -/
theorem parse_reports_fault (options : ParseOptions) (text : Text) :
    (∀ fault, parse options text = .error fault ↔ Fault text fault) ∧
    ((∃ template, parse options text = .ok template) ↔ ∀ fault, ¬Fault text fault) ∧
    (¬Balanced text → ∃ offset, parse options text = .error (.unexpectedClosingBrace offset) ∨
      parse options text = .error (.unclosedBrace offset)) ∧
    (∀ body count, parse options text = .error (.pluralArity body count) →
      ∃ key list, PluralBlock.source? body = some (key, list) ∧
        (count = 0 ↔ Text.isBlankText list = true)) := by
  refine ⟨fun fault => parse_eq_error_iff, ?_, fun unbalanced => ?_, fun body count h => ?_⟩
  · cases h : parse options text with
    | ok template =>
        refine ⟨fun _ fault bad => ?_, fun _ => ⟨template, rfl⟩⟩
        rw [parse_eq_error_iff.2 bad] at h
        cases h
    | error fault => exact ⟨nofun, fun none => absurd (parse_eq_error_iff.1 h) (none fault)⟩
  · rcases Segment.cut_cases text with ⟨segments, wellCut, rfl, -⟩ |
      ⟨front, back, rfl, balanced, cut⟩ | ⟨front, back, level, rfl, balanced, hBack, cut⟩
    · exact absurd wellCut.balanced_writeAll unbalanced
    · exact ⟨_, Or.inl (parse_eq_error_iff_readParts.2 (readParts_of_split_error cut))⟩
    · exact ⟨_, Or.inr (parse_eq_error_iff_readParts.2 (readParts_of_split_error cut))⟩
  · cases parse_eq_error_iff.1 h with
    | miscounted _ _ _ wrong =>
        obtain ⟨key, list, source, counts, -⟩ := wrong
        exact ⟨key, list, source, counts.eq_zero_iff⟩

end Template

end LocaleText
