import LocaleText.Plural.Selector
import LocaleText.Template.Cache

/-!
# Translators

A translator renders templates in one locale: it has the plural rules and the formatters that
templates see, and keeps the templates that it has read. Every operation returns the translator
after it.
-/

namespace LocaleText

/-- What renders the templates of a locale. -/
structure Translator where
  /-- The code of the locale. -/
  locale : Text
  /-- The plural rules. -/
  select : Selector
  /-- The formatters. -/
  registry : Registry
  /-- The templates read so far. -/
  cache : Cache

namespace Translator

/-- A translator with the given plural rules. -/
def withSelector (locale : Text) (select : Selector) (registry : Registry)
    (options : ParseOptions) : Translator :=
  { locale, select, registry, cache := Cache.new options }

/-- A translator with the plural rules of its locale. -/
def ofLocale (locale : Text) (registry : Registry) (options : ParseOptions) :
    Except LocaleError Translator :=
  (Selector.ofLocale locale).map fun select => withSelector locale select registry options

/-- Reads a template without rendering it. -/
def prepare (translator : Translator) (text : Text) :
    Except TemplateError Template × Translator :=
  let (entry, cache) := translator.cache.resolve text
  (entry.map CacheEntry.template, { translator with cache := cache })

/-- Renders a template. -/
def translate? (translator : Translator) (text : Text) (arguments : List Json) :
    Except TemplateError Text × Translator :=
  let (result, cache) :=
    translator.cache.render translator.select translator.registry text arguments
  (result, { translator with cache := cache })

/-- Renders a template; a text that is no template is returned as it is. -/
def translate (translator : Translator) (text : Text) (arguments : List Json) :
    Text × Translator :=
  match translator.translate? text arguments with
  | (.ok rendered, translator) => (rendered, translator)
  | (.error _, translator) => (text, translator)

end Translator
end LocaleText
