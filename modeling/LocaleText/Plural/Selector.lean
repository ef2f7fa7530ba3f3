import LocaleText.Locale.Fallback
import LocaleText.Plural.Data

/-!
# Plural rules of a locale

The rules of the language that serves the locale. Every well-formed locale identifier has rules,
those of a language without data being that all numbers are in the category other.
-/

namespace LocaleText

/-- The plural rules of the locale named by `code`. -/
def Plural.Rules.ofLocale (code : Text) : Except LocaleError Plural.Rules :=
  (LanguageId.parse code).map fun id => Plural.Rules.ofLanguage id.dataLanguage

/-- The selector of the locale named by `code`. -/
def Selector.ofLocale (code : Text) : Except LocaleError Selector :=
  (Plural.Rules.ofLocale code).map Plural.Rules.category

end LocaleText
