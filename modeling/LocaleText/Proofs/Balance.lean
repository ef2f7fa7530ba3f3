import LocaleText.Formatter.Switch
import LocaleText.Proofs.Faults

/-!
# LocaleText.Proofs.Balance

**Only balanced texts are split.** The splitter gives up counting where a brace closes that is not
open, and the reader of labelled texts takes a first stretch without a label for a text; nothing
shows whether either is ever relied on. Both are left to an effect by the readers, so that they can
be noted: `Splitter.noting` splits like the splitter in use and notes what it is given (`Call`).

`Notes` ties such a run to the result that the library gives, whatever has been noted before, and is
kept by one step after another (`Notes.bind`); so what holds of the splitter alone (`notes_split`)
holds of a whole reading. There is one lemma for each reader, in the order in which they call each
other.

That a text is balanced goes from the cut of the template to the bodies of its expressions, and from
there to their lists of alternatives; in a switch table it goes from the text to its inside.
-/

namespace LocaleText

/-! ### Counting that does not give up -/

/-- The stretches of a text between the occurrences of `sep` outside braces, unless a brace closes
that is not open. -/
def checkedCuts? (sep : Char) : (depth : Nat) → Text → Option (Text × List Text)
  | _, [] => some ([], [])
  | depth, c :: cs =>
    if c = '{' then
      (checkedCuts? sep (depth + 1) cs).map fun cuts => (c :: cuts.1, cuts.2)
    else if c = '}' then
      match depth with
      | 0 => none
      | outer + 1 => (checkedCuts? sep outer cs).map fun cuts => (c :: cuts.1, cuts.2)
    else
      (checkedCuts? sep depth cs).map fun cuts =>
        if c = sep ∧ depth = 0 then ([], cuts.1 :: cuts.2) else (c :: cuts.1, cuts.2)

/-- The stretches of a text between the occurrences of `sep` outside braces, unless a brace closes
that is not open. -/
def checkedSplit? (sep : Char) (text : Text) : Option (List Text) :=
  (checkedCuts? sep 0 text).map fun cuts => cuts.1 :: cuts.2

/-- **The splitter gives up counting** exactly where a brace closes that is not open. -/
theorem checkedCuts?_eq (sep : Char) (depth : Nat) (text : Text) :
    checkedCuts? sep depth text = (nesting? depth text).map fun _ => topCuts sep depth text := by
  induction text generalizing depth with
  | nil => rfl
  | cons c cs ih =>
      rcases brace_cases c with rfl | rfl | ⟨notOpen, notClose⟩
      · simp [checkedCuts?, ih, topCuts_open, Function.comp_def]
      · cases depth with
        | zero => simp [checkedCuts?]
        | succ outer => simp [checkedCuts?, ih, topCuts_close, Function.comp_def]
      · rw [nesting?_other notOpen notClose]
        simp [checkedCuts?, ih, topCuts, notOpen, notClose, Function.comp_def]

theorem checkedSplit?_of_balanced (sep : Char) {text : Text} (balanced : Balanced text) :
    checkedSplit? sep text = some (splitTop sep text) := by
  rw [checkedSplit?, checkedCuts?_eq, balanced]
  rfl

/-! ### A splitter that notes what it is given -/

/-- What a reader leaves to another rule than the nesting of braces. -/
inductive Call where
  /-- A text is split at the separators outside braces. -/
  | split (sep : Char) (text : Text)
  /-- A list of labelled texts is taken up whose first stretch has no label. -/
  | unlabelled (fragment : Text)
  deriving DecidableEq, Repr

/-- The text has no stray brace, and the separator is no brace, so that the text falls into pieces.
Nothing is left to a first stretch without a label. -/
def Call.IsSound : Call → Prop
  | split sep text => sep ≠ '{' ∧ sep ≠ '}' ∧ Balanced text
  | unlabelled _ => False

/-- Splits like `Splitter.plain` and notes what it is given, the last call first. -/
def Splitter.noting : Splitter (StateM (List Call)) where
  split sep text := do
    modify (.split sep text :: ·)
    pure (plain.split sep text)
  unlabelled fragment := do
    modify (.unlabelled fragment :: ·)
    pure (plain.unlabelled fragment)

/-! ### Runs that give what the library gives -/

/-- Whatever has been noted before, the run gives `result` and adds sound calls only. -/
def Notes {α : Type} (run : StateM (List Call) α) (result : α) : Prop :=
  ∀ notes, ∃ calls, run.run notes = (result, calls ++ notes) ∧ ∀ call ∈ calls, call.IsSound

section Runs

variable {α β ε : Type}

/-- A run that notes nothing. -/
theorem notes_pure (result : α) : Notes (pure result) result :=
  fun _ => ⟨[], rfl, fun _ mem => absurd mem List.not_mem_nil⟩

/-- **One run after the other.** The second is entered with the notes of the first, which is why
`Notes` is about a run whatever has been noted before. -/
theorem Notes.bind {first : StateM (List Call) α} {next : α → StateM (List Call) β} {a : α} {b : β}
    (h : Notes first a) (h' : Notes (next a) b) : Notes (first >>= next) b := by
  intro notes
  obtain ⟨calls, here, sound⟩ := h notes
  obtain ⟨more, there, sound'⟩ := h' (calls ++ notes)
  refine ⟨more ++ calls, ?_, fun call mem => ?_⟩
  · rw [StateT.run_bind, here, List.append_assoc]
    exact there
  · exact (List.mem_append.1 mem).elim (sound' call) (sound call)

/-- A run that cannot fail, and one that can after it. -/
theorem Notes.liftThen {first : StateM (List Call) α} {next : α → ExceptT ε (StateM (List Call)) β}
    {a : α} {b : Except ε β} (h : Notes first a) (h' : Notes (next a).run b) :
    Notes (ExceptT.lift first >>= next).run b := by
  rw [ExceptT.run_bind_lift]
  exact h.bind h'

/-- One run after the other, unless the first one fails: then nothing more is noted. -/
theorem Notes.andThen {first : ExceptT ε (StateM (List Call)) α}
    {next : α → ExceptT ε (StateM (List Call)) β} {a : Except ε α} {b : α → Except ε β}
    (h : Notes first.run a) (h' : ∀ value, a = .ok value → Notes (next value).run (b value)) :
    Notes (first >>= next).run (a.bind b) := by
  rw [ExceptT.run_bind]
  refine h.bind ?_
  cases a with
  | error fault => exact notes_pure _
  | ok value => exact h' value rfl

/-- A run from no notes ends with the sound calls alone. -/
theorem Notes.run_nil {run : StateM (List Call) α} {result : α} (h : Notes run result) :
    ∃ calls, run.run [] = (result, calls) ∧ ∀ call ∈ calls, call.IsSound := by
  obtain ⟨calls, ran, sound⟩ := h []
  exact ⟨calls, by rw [ran, List.append_nil], sound⟩

/-- The splitter notes its call, which is sound on a balanced text. -/
theorem notes_split {sep : Char} {text : Text} (notOpen : sep ≠ '{') (notClose : sep ≠ '}')
    (balanced : Balanced text) : Notes (Splitter.noting.split sep text) (splitTop sep text) :=
  fun _ => ⟨[.split sep text], rfl, fun _ mem =>
    List.mem_singleton.1 mem ▸ ⟨notOpen, notClose, balanced⟩⟩

end Runs

/-! ### Each reader -/

/-- Where the first stretch opens with a label, the texts of the list start with it, and nothing is
noted. -/
theorem Alternatives.notes_labelledM {first : Text} (label : hasLabel first = true)
    (others : List Text) :
    Notes (labelledM .noting (first :: others)) (labelled (first :: others)) := by
  rw [labelledM, labelled_cons]
  cases cut : Text.cut? ':' first with
  | none => rw [hasLabel, cut] at label; cases label
  | some parts => exact notes_pure _

theorem Alternatives.notes_readM {list : Text} (balanced : Balanced list) :
    Notes (readM .noting list) (read list) := by
  have commas : Notes (Splitter.noting.split ',' list) (splitTop ',' list) :=
    notes_split (by decide) (by decide) balanced
  have bars : Notes (Splitter.noting.split '|' list) (splitTop '|' list) :=
    notes_split (by decide) (by decide) balanced
  rw [read_eq, readM]
  split
  · exact notes_pure []
  · refine commas.bind ?_
    -- The list is split at its bars unless it has several stretches and the first has a label.
    cases splitTop ',' list with
    | nil => exact bars
    | cons first rest =>
        cases rest with
        | nil => exact bars
        | cons second others =>
            cases label : hasLabel first with
            | true => simpa only [label, if_true] using notes_labelledM label _
            | false => simpa only [label, Bool.false_eq_true, if_false] using bars

theorem Placeholder.notes_readM {body : Text} (balanced : Balanced body) :
    Notes (readM .noting body) (read body) :=
  (notes_split (by decide) (by decide) balanced).bind (notes_pure _)

/-- The body of an expression is balanced, and so is the list of a block. -/
theorem Part.notes_ofExpressionM {body : Text} (balanced : Balanced body) :
    Notes (ofExpressionM .noting body).run (ofExpression body) := by
  rw [ofExpression_eq, ofExpressionM]
  cases source : PluralBlock.source? body with
  | none => exact (Placeholder.notes_readM balanced).liftThen (notes_pure _)
  | some found =>
      obtain ⟨key, list⟩ := found
      refine (Alternatives.notes_readM (PluralBlock.balanced_of_source? source)).liftThen ?_
      simp only
      cases PluralForms.ofAlternatives (Alternatives.read list) with
      | none => exact notes_pure _
      | some forms => exact notes_pure _

theorem Part.notes_ofSegmentM {segment : Segment} (proper : segment.Proper) :
    Notes (ofSegmentM .noting segment).run (ofSegment segment) := by
  cases segment with
  | literal text => exact notes_pure _
  | expression body => exact notes_ofExpressionM proper

/-- **A run along the segments** notes what each of them notes, up to the first fault. -/
theorem Part.notes_mapM {segments : List Segment} (proper : ∀ segment ∈ segments, segment.Proper) :
    Notes (segments.mapM (ofSegmentM .noting)).run (segments.mapM ofSegment) := by
  induction segments with
  | nil => exact notes_pure _
  | cons segment segments ih =>
      obtain ⟨here, later⟩ := List.forall_mem_cons.1 proper
      rw [List.mapM_cons, List.mapM_cons]
      exact (notes_ofSegmentM here).andThen fun part _ =>
        (ih later).andThen fun parts _ => notes_pure _

namespace Template

/-- The segments of a template have balanced bodies; where it has none, nothing is split. -/
theorem notes_readPartsM (text : Text) : Notes (readPartsM .noting text).run (readParts text) := by
  rw [readParts_eq, readPartsM]
  cases cut : Segment.split text with
  | error fault => exact notes_pure _
  | ok segments => exact Part.notes_mapM (Segment.split_eq_ok_iff.1 cut).2.proper

theorem notes_parseM (options : ParseOptions) (text : Text) :
    Notes (parseM .noting options text).run (parse options text) := by
  rw [parse_eq, parseM]
  exact (notes_readPartsM text).andThen fun parts _ => notes_pure _

end Template

/-- What is split of a switch table is its inside. -/
theorem Switch.notes_parseM (text : Text) : Notes (parseM .noting text) (parse? text) := by
  rw [parse?_eq, parseM]
  cases wrapped : unbrace? (Text.trim text) with
  | none => exact notes_pure none
  | some list =>
      have balanced := (unbrace?_eq_some_iff.1 wrapped).2
      exact (notes_split (by decide) (by decide) balanced).bind (notes_pure _)

/-- **Splitting respects nesting** wherever it is used. A balanced text falls into exactly one list
of pieces at its separators outside braces, and that list is what splitting returns, the count of
open braces never being lowered below zero. Every text that is split when a template or a switch
table is read is balanced, whatever text is to be read, and no list of labelled texts is taken up
whose first stretch has no label. -/
theorem splitting_respects_nesting :
    (∀ {sep : Char} {text : Text}, sep ≠ '{' → sep ≠ '}' → Balanced text →
      PiecesOf sep text (splitTop sep text) ∧
      (∀ pieces, PiecesOf sep text pieces → pieces = splitTop sep text) ∧
      checkedSplit? sep text = some (splitTop sep text)) ∧
    (∀ options text, ∃ calls,
      (Template.parseM .noting options text).run.run [] = (Template.parse options text, calls) ∧
      ∀ call ∈ calls, call.IsSound) ∧
    ∀ text, ∃ calls, (Switch.parseM .noting text).run [] = (Switch.parse? text, calls) ∧
      ∀ call ∈ calls, call.IsSound := by
  refine ⟨fun notOpen notClose balanced => ?_,
    fun options text => (Template.notes_parseM options text).run_nil,
    fun text => (Switch.notes_parseM text).run_nil⟩
  have only := @splitTop_eq_iff _ notOpen notClose _ balanced
  exact ⟨only.1 rfl, fun pieces falls => (only.2 falls).symm, checkedSplit?_of_balanced _ balanced⟩

/-- What is split in a template with a plural block and a placeholder, the last text first. -/
example : ((Template.parseM .noting {} "{n:{a:x,b:{y|z}}} {who|{m:Mr}}".toList).run.run []).2 =
    [.split '|' "who|{m:Mr}".toList, .split ',' "a:x,b:{y|z}".toList] := by decide +kernel

end LocaleText
