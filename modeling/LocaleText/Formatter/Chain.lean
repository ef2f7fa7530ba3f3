import LocaleText.Display
import LocaleText.Formatter.Registry
import LocaleText.Formatter.Switch

/-!
# Chains of formatting steps

A placeholder lists steps, each a switch table or the name of a formatter, and the value runs
through them from left to right. A step that yields nothing is skipped: an unknown name, a table
without a case for the value, or a result that is `null`, `false` or the empty text. So a chain
replaces a value and never erases it.
-/

namespace LocaleText

/-- Whether a result counts as no result. -/
def Json.isNothing : Json → Bool
  | null => true
  | bool b => !b
  | string text => text.isEmpty
  | _ => false

namespace Chain

/-- What one step makes of a value, if anything. A step that reads as a switch table is one,
whatever formatters there are. -/
def result? (registry : Registry) (step : Text) (value : Json) : Option Json :=
  match Switch.parse? step with
  | some switch => (switch.find? value.display).map .string
  | none => (registry.find? step).map fun formatter => formatter value

/-- The value after one step. -/
def applyStep (registry : Registry) (value : Json) (step : Text) : Json :=
  ((result? registry step value).filter fun next => !next.isNothing).getD value

/-- The value after all steps. -/
def apply (registry : Registry) (steps : List Text) (value : Json) : Json :=
  steps.foldl (applyStep registry) value

end Chain
end LocaleText
