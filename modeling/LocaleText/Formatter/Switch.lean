import LocaleText.Braces
import LocaleText.Text.Blank

/-!
# Switch tables

A formatting step in braces is a table `{label:text, label:text}` that replaces a value by the text
whose label is the value's. Labels and texts are trimmed. Between two commas outside inner braces, a
stretch without a colon continues the text of the case before it, comma included; in front of the
first case it is skipped. The first case with the label counts, and the label `*` stands for all
labels that have no case.
-/

namespace LocaleText

/-- A case of a switch table. -/
structure SwitchCase where
  /-- The value to be replaced. -/
  label : Text
  /-- What replaces it. -/
  text : Text
  deriving DecidableEq, Repr

/-- A switch table: its cases in order. -/
structure Switch where
  /-- The cases. -/
  cases : List SwitchCase
  deriving DecidableEq, Repr

namespace Switch

/-- The label of the case for all other values. -/
def wildcard : Text := ['*']

/-- The cases of a list from the one under `label` on, whose text has been read up to `text`. -/
def casesFrom (label text : Text) : List Text → List SwitchCase
  | [] => [⟨label, text⟩]
  | fragment :: fragments =>
    match Text.cut? ':' fragment with
    | some (next, opening) =>
      ⟨label, text⟩ :: casesFrom (Text.trim next) (Text.trim opening) fragments
    | none => casesFrom label (text ++ ',' :: fragment) fragments

/-- The cases of a list, from its stretches between commas. -/
def casesOf : List Text → List SwitchCase
  | [] => []
  | fragment :: fragments =>
    match Text.cut? ':' fragment with
    | some (label, text) => casesFrom (Text.trim label) (Text.trim text) fragments
    | none => casesOf fragments

/-- Reads a switch table, if `text` is one, with the splitting left to an effect. -/
def parseM {m : Type → Type} [Monad m] (splitter : Splitter m) (text : Text) : m (Option Switch) :=
  match unbrace? (Text.trim text) with
  | none => pure none
  | some list => do
    let fragments ← splitter.split ',' list
    pure (some { cases := casesOf fragments })

/-- Reads a switch table, if `text` is one. -/
def parse? (text : Text) : Option Switch :=
  Id.run (parseM .plain text)

theorem parse?_eq (text : Text) :
    parse? text =
      (unbrace? (Text.trim text)).map fun list => { cases := casesOf (splitTop ',' list) } := by
  rw [parse?, parseM]
  cases unbrace? (Text.trim text) <;> rfl

/-- The text of the first case under `label`. -/
def caseFor? (switch : Switch) (label : Text) : Option Text :=
  (switch.cases.find? fun entry => entry.label = label).map SwitchCase.text

/-- The text for a value whose text is `label`. -/
def find? (switch : Switch) (label : Text) : Option Text :=
  (switch.caseFor? label).or (switch.caseFor? wildcard)

/-- The number of cases. -/
def size (switch : Switch) : Nat :=
  switch.cases.length

/-- Whether there is no case. -/
def isEmpty (switch : Switch) : Bool :=
  switch.cases.isEmpty

end Switch
end LocaleText
