import LocaleText.Display
import LocaleText.Formatter.Registry
import LocaleText.Text.Blank
import LocaleText.Text.Case

/-!
# Standard formatters

Four formatters on texts: upper case, lower case, a capital first letter, and trimming. Each works
on the text of any value, but makes nothing of `null`.
-/

namespace LocaleText.Formatter

/-- A formatter that changes the text of a value. -/
def ofText (change : Text → Text) : Formatter
  | .null => .null
  | value => .string (change value.display)

/-- The standard formatters by name. -/
def standard : Registry :=
  Registry.ofList
    [("uppercase".toList, ofText Text.upper), ("lowercase".toList, ofText Text.lower),
     ("capitalize".toList, ofText Text.capitalize), ("trim".toList, ofText Text.trim)]

end LocaleText.Formatter
