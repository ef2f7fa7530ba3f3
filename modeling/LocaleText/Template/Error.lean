import LocaleText.Text

/-!
# What can be wrong with a template

The three faults of a message template, each with the data that pins it down in the text, and the
sentence in which each is reported.
-/

namespace LocaleText

/-- A fault of a message template. Positions count UTF-8 bytes from the start of the text. -/
inductive TemplateError where
  /-- The brace at `offset` encloses an expression and is never closed. -/
  | unclosedBrace (offset : Nat)
  /-- The brace at `offset` closes nothing. -/
  | unexpectedClosingBrace (offset : Nat)
  /-- The plural block written as `body` lists no alternative or more than six. -/
  | pluralArity (body : Text) (count : Nat)
  deriving DecidableEq, Repr

namespace TemplateError

/-- The report of a fault. -/
def message : TemplateError → Text
  | unclosedBrace offset => "unclosed '\x7b' opened at byte ".toList ++ Text.ofNat offset
  | unexpectedClosingBrace offset => "unexpected '\x7d' at byte ".toList ++ Text.ofNat offset
  | pluralArity body count =>
    "plural block '".toList ++ body ++ "' has ".toList ++ Text.ofNat count
      ++ " alternatives (expected 1 to 6)".toList

end TemplateError
end LocaleText
