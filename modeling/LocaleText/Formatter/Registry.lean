import LocaleText.Json.Value

/-!
# Formatters

A formatter turns a value into a value; `null` stands for no result. A registry holds formatters
under names, and a later formatter of a name takes the place of an earlier one.
-/

namespace LocaleText

/-- A named transformation of values. -/
abbrev Formatter := Json → Json

/-- Formatters by name. -/
abbrev Registry := Table Formatter

namespace Registry

/-- The registry of the formatters in the list, a later one in place of an earlier one of its
name. -/
def ofList (formatters : List (Text × Formatter)) : Registry :=
  formatters.foldl (fun registry (name, formatter) => registry.insert name formatter) ∅

end Registry
end LocaleText
