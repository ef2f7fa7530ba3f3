import LocaleText.Braces
import LocaleText.Text.Blank

/-!
# Lists of alternatives

The alternatives of a plural block are written in one of two ways: separated by `|`, or as a list
`label:text, label:text` whose labels only mark where an alternative starts. Both separators count
outside braces only. In a labelled list a stretch between commas that has no colon continues the
alternative before it, comma included.
-/

namespace LocaleText

namespace Alternatives

/-- Whether `fragment` opens with a label: it has a colon, and no bar before it. -/
def hasLabel (fragment : Text) : Bool :=
  match Text.cut? ':' fragment with
  | some (label, _) => !label.contains '|'
  | none => false

/-- The texts of a labelled list whose first text has been read up to `current`. -/
def labelledFrom (current : Text) : List Text → List Text
  | [] => [current]
  | fragment :: fragments =>
    match Text.cut? ':' fragment with
    | some (_, text) => current :: labelledFrom text fragments
    | none => labelledFrom (current ++ ',' :: fragment) fragments

section Effects

variable {m : Type → Type} [Monad m]

/-- The texts of a labelled list, from its stretches between commas. -/
def labelledM (splitter : Splitter m) : List Text → m (List Text)
  | [] => pure []
  | fragment :: fragments =>
    match Text.cut? ':' fragment with
    | some (_, text) => pure (labelledFrom text fragments)
    | none => do
      let text ← splitter.unlabelled fragment
      pure (labelledFrom text fragments)

/-- The alternatives written in `list`, with the splitting left to an effect. -/
def readM (splitter : Splitter m) (list : Text) : m (List Text) :=
  if Text.isBlankText list then pure []
  else do
    match ← splitter.split ',' list with
    | first :: second :: others =>
      if hasLabel first then labelledM splitter (first :: second :: others)
      else splitter.split '|' list
    | _ => splitter.split '|' list

end Effects

/-- The texts of a labelled list, from its stretches between commas. A first stretch without a
label is itself a text. -/
def labelled (fragments : List Text) : List Text :=
  Id.run (labelledM .plain fragments)

/-- The alternatives written in `list`, blanks and all; a blank list has none. -/
def read (list : Text) : List Text :=
  Id.run (readM .plain list)

theorem labelled_cons (fragment : Text) (fragments : List Text) :
    labelled (fragment :: fragments) =
      match Text.cut? ':' fragment with
      | some (_, text) => labelledFrom text fragments
      | none => labelledFrom fragment fragments := by
  rw [labelled, labelledM]
  cases Text.cut? ':' fragment <;> rfl

theorem read_eq (list : Text) :
    read list =
      if Text.isBlankText list then []
      else
        match splitTop ',' list with
        | first :: second :: others =>
          if hasLabel first then labelled (first :: second :: others) else splitTop '|' list
        | _ => splitTop '|' list :=
  rfl

end Alternatives
end LocaleText
