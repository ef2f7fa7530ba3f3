import LocaleText.Command.Error

/-!
# Results of an action

An action prints lines of output and of complaint, and may fail at some point; what it has printed
until then stays printed.
-/

namespace LocaleText.Command

/-- What an action leaves: what it has printed, and whether it has failed. -/
structure Result where
  /-- The lines printed as output. -/
  output : List Text := []
  /-- The lines printed as complaints. -/
  complaints : List Text := []
  /-- The fault, if the action has failed. -/
  fault : Option Error := none

namespace Result

/-- An action that fails before it has printed anything. -/
def failed (fault : Error) : Result :=
  { fault := some fault }

/-- One result and then another, which is reached only if the first has not failed. -/
def followedBy (first second : Result) : Result :=
  if first.fault.isSome then first
  else
    { output := first.output ++ second.output
      complaints := first.complaints ++ second.complaints
      fault := second.fault }

end Result

end LocaleText.Command
