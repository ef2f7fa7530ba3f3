import LocaleText.Proofs.Selection
import Mathlib.Data.List.SplitBy

/-!
# LocaleText.Proofs.Substitution

**Values are put in once.** An alternative is cut into its longest stretches of one character
(`Text.runs`), and each stretch is replaced on its own (`fillRun`): one of `k` question marks by
`k / 2` copies of the value, with the last mark behind them when `k` is odd, any other by itself.
Replacing marks in pairs from left to right comes to the same (`fillIn_eq`), because the pairs of a
run are counted from its first mark and no pair reaches beyond its last.

The value is copied, never read: the law holds of every text in its place, question marks and braces
included. So it does for a placeholder without steps, whose text is shown as it is, trimmed.
-/

namespace LocaleText

/-! ### Runs -/

/-- The longest stretches of one character, in order. Every character is in one of them. -/
def Text.runs (text : Text) : List Text :=
  text.splitBy (· == ·)

/-- A run ends where another character follows. -/
theorem Text.runs_run_append {c : Char} (k : Nat) {rest : Text} (ends : c ∉ rest.head?) :
    runs (List.replicate (k + 1) c ++ rest) = List.replicate (k + 1) c :: runs rest := by
  have notEmpty : List.replicate (k + 1) c ≠ [] := List.cons_ne_nil c _
  have same : (List.replicate (k + 1) c).IsChain fun c d => (c == d) = true := by
    simp only [beq_iff_eq]
    exact List.isChain_eq_iff_eq_replicate.2 fun d mem => by
      cases mem
      rw [List.length_replicate]
  rw [runs, List.splitBy_append, List.splitBy_of_isChain notEmpty same]
  · rfl
  · intro last here next mem
    rw [List.eq_of_mem_replicate (List.mem_of_getLast? here)]
    exact beq_eq_false_iff_ne.2 fun same => ends (same ▸ mem)

/-- Every text that is not empty starts with a run. -/
theorem Text.exists_run {text : Text} (notEmpty : text ≠ []) :
    ∃ c k rest, text = List.replicate (k + 1) c ++ rest ∧ c ∉ rest.head? := by
  induction text with
  | nil => exact absurd rfl notEmpty
  | cons c cs ih =>
      by_cases again : c ∈ cs.head?
      · obtain ⟨d, k, rest, rfl, ends⟩ := ih fun empty => by
          subst empty
          cases again
        obtain rfl : d = c := Option.some.inj again
        exact ⟨d, k + 1, rest, rfl, ends⟩
      · exact ⟨c, 0, cs, rfl, again⟩

/-- What becomes of a run when every pair of question marks in it is replaced by `value`. Runs of
other characters stay as they are. -/
def fillRun (value run : Text) : Text :=
  if run.head? = some '?' then
    (List.replicate (run.length / 2) value).flatten ++ List.replicate (run.length % 2) '?'
  else run

/-! ### Filling in, run by run -/

theorem fillIn_pair (value rest : Text) :
    fillIn value ('?' :: '?' :: rest) = value ++ fillIn value rest := rfl

/-- A question mark alone stays. -/
theorem fillIn_single (value : Text) {rest : Text} (ends : '?' ∉ rest.head?) :
    fillIn value ('?' :: rest) = '?' :: fillIn value rest := by
  cases rest with
  | nil => rfl
  | cons c rest =>
      have other : c ≠ '?' := fun same => ends (congrArg some same)
      simp [fillIn, other]

theorem fillIn_cons_of_ne (value : Text) {c : Char} (other : c ≠ '?') (rest : Text) :
    fillIn value (c :: rest) = c :: fillIn value rest := by
  simp [fillIn, other]

/-- **A run of question marks** is replaced pair by pair; what follows it plays no part. By
induction in steps of two, the run of one being the mark that is left over. -/
theorem fillIn_replicate (value : Text) {rest : Text} (ends : '?' ∉ rest.head?) (k : Nat) :
    fillIn value (List.replicate k '?' ++ rest) =
      (List.replicate (k / 2) value).flatten ++ List.replicate (k % 2) '?' ++
        fillIn value rest := by
  induction k using Nat.twoStepInduction with
  | zero => rfl
  | one => exact fillIn_single value ends
  | more k ih _ =>
      have half : (k + 2) / 2 = k / 2 + 1 := by omega
      have odd : (k + 2) % 2 = k % 2 := by omega
      rw [List.replicate_succ, List.replicate_succ, List.cons_append, List.cons_append, fillIn_pair,
        ih, half, odd, List.replicate_succ, List.flatten_cons]
      simp only [List.append_assoc]

/-- Text without question marks stays as it is. -/
theorem fillIn_append_of_not_mem (value : Text) {plain : Text} (unmarked : '?' ∉ plain)
    (rest : Text) : fillIn value (plain ++ rest) = plain ++ fillIn value rest := by
  induction plain with
  | nil => rfl
  | cons c plain ih =>
      obtain ⟨first, others⟩ := not_or.1 fun mem => unmarked (List.mem_cons.2 mem)
      rw [List.cons_append, fillIn_cons_of_ne value (Ne.symm first), ih others, List.cons_append]

/-- A run is filled in apart from what follows, which starts with another character. -/
theorem fillIn_run_append (value : Text) {c : Char} (k : Nat) {rest : Text}
    (ends : c ∉ rest.head?) :
    fillIn value (List.replicate (k + 1) c ++ rest) =
      fillRun value (List.replicate (k + 1) c) ++ fillIn value rest := by
  have head : (List.replicate (k + 1) c).head? = some c := rfl
  rw [fillRun, List.length_replicate, head]
  split
  · next mark =>
    cases mark
    exact fillIn_replicate value ends (k + 1)
  · next other =>
    refine fillIn_append_of_not_mem value (fun mem => other ?_) rest
    rw [List.eq_of_mem_replicate mem]

/-- **Filling in works run by run.** The recursion is on the length of the text, since a run can be
of any length. -/
theorem fillIn_eq (value form : Text) :
    fillIn value form = (Text.runs form).flatMap (fillRun value) := by
  -- The first run is filled in apart, and what follows it is shorter.
  by_cases empty : form = []
  · subst empty
    rfl
  · obtain ⟨c, k, rest, whole, ends⟩ := Text.exists_run empty
    have shorter : rest.length < form.length := by
      rw [whole, List.length_append, List.length_replicate]
      omega
    rw [whole, fillIn_run_append value k ends, fillIn_eq value rest, Text.runs_run_append k ends,
      List.flatMap_cons]
termination_by form.length

/-! ### In a template -/

namespace Template

variable (setting : Setting)

/-- **Values are put in once.** In any template, a block whose due alternative is given shows it run
by run, the value in place of pairs of question marks and all else as written. A placeholder without
steps whose value is a text shows that text, trimmed.

Neither reads what it puts in: braces, bars and question marks in the value are shown like all other
characters, and nothing around the part changes. -/
theorem values_are_put_in_once (front back : List Part) :
    (∀ block form, block.forms.Selects setting.select (setting.argument block.key) (some form) →
      setting.render ⟨front ++ .plural block :: back⟩ =
        setting.render ⟨front⟩ ++
          (Text.runs form).flatMap (fillRun (displayArgument (setting.argument block.key))) ++
            setting.render ⟨back⟩) ∧
    ∀ p text, p.steps = [] → setting.argument p.key = some (.string text) →
      setting.render ⟨front ++ .placeholder p :: back⟩ =
        setting.render ⟨front⟩ ++ Text.trim text ++ setting.render ⟨back⟩ := by
  constructor
  · intro block form due
    rw [render_append_plural, ← PluralForms.selects_iff.1 due, ← fillIn_eq]
    rfl
  · intro p text noSteps given
    have here : Part.shown setting.select setting.registry (Arguments.ofList setting.arguments)
        (.placeholder p) = p.render setting.registry (setting.argument p.key) := rfl
    rw [render_append_cons, here, given, Placeholder.render, noSteps]
    rfl

/-- A block with runs of one, two, three and five question marks. -/
def marked : PluralBlock :=
  ⟨"0".toList, { other := some "?a??b???c?????".toList }⟩

/-- A placeholder without steps. -/
def plain : Placeholder :=
  ⟨"0".toList, none, false, []⟩

/-- A value that looks like a template, with question marks in it. -/
def templateLike : Setting where
  arguments := [.string " {n:??|?}".toList]
  registry := ∅
  select _ := .other

theorem values_are_put_in_once_marked :
    marked.forms.Selects templateLike.select (templateLike.argument marked.key)
        (some "?a??b???c?????".toList) ∧
      templateLike.render ⟨[.plural marked, .literal "; ".toList, .placeholder plain]⟩ =
        "?a {n:??|?}b {n:??|?}?c {n:??|?} {n:??|?}?; {n:??|?}".toList := by
  have due : marked.forms.Selects templateLike.select (templateLike.argument marked.key)
      (some "?a??b???c?????".toList) := .rules (by decide) (.own rfl)
  have block := (values_are_put_in_once templateLike []
    [.literal "; ".toList, .placeholder plain]).1 marked _ due
  have placeholder := (values_are_put_in_once templateLike [.literal "; ".toList] []).2 plain
    " {n:??|?}".toList rfl rfl
  refine ⟨due, block.trans ?_⟩
  rw [show [Part.literal "; ".toList, .placeholder plain] =
    [.literal "; ".toList] ++ .placeholder plain :: [] from rfl, placeholder]
  rfl

end Template

end LocaleText
