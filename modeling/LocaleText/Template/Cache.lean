import LocaleText.Table
import LocaleText.Template.Parse
import LocaleText.Template.Render

/-!
# A cache of parsed templates

A cache keeps the templates that have been read under the texts that they were read from, so that
a text is read once. A text that does not parse is not kept. Entries are numbered as they are
made, and two look-ups return the same entry exactly when the numbers agree.
-/

namespace LocaleText

/-- A cached template. -/
structure CacheEntry where
  /-- The template. -/
  template : Template
  /-- The number of entries made before this one. -/
  serial : Nat
  deriving DecidableEq, Repr

/-- Parsed templates by their texts. -/
structure Cache where
  /-- How texts are read. -/
  options : ParseOptions
  /-- The entries by text. -/
  entries : Table CacheEntry
  /-- The number of entries made so far. -/
  made : Nat

namespace Cache

/-- A cache without entries. -/
def new (options : ParseOptions) : Cache :=
  { options := options, entries := ∅, made := 0 }

/-- Whether `text` has an entry. -/
def contains (cache : Cache) (text : Text) : Bool :=
  cache.entries.contains text

/-- The number of entries. -/
def size (cache : Cache) : Nat :=
  cache.entries.size

/-- Whether there is no entry. -/
def isEmpty (cache : Cache) : Bool :=
  cache.entries.isEmpty

/-- The cache without its entries. Entries made later are new ones. -/
def clear (cache : Cache) : Cache :=
  { cache with entries := ∅ }

/-- The entry of `text`, made if need be. -/
def resolve (cache : Cache) (text : Text) : Except TemplateError CacheEntry × Cache :=
  match cache.entries.find? text with
  | some entry => (.ok entry, cache)
  | none =>
    match Template.parse cache.options text with
    | .error fault => (.error fault, cache)
    | .ok template =>
      let entry := { template := template, serial := cache.made }
      (.ok entry, { cache with entries := cache.entries.insert text entry, made := cache.made + 1 })

/-- Renders the template `text` with its arguments. -/
def render (cache : Cache) (select : Selector) (registry : Registry) (text : Text)
    (arguments : List Json) : Except TemplateError Text × Cache :=
  let (entry, cache) := cache.resolve text
  (entry.map fun entry => entry.template.render select registry (Arguments.ofList arguments), cache)

end Cache
end LocaleText
