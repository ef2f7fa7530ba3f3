import LocaleText.Template.Alternatives
import LocaleText.Template.Error
import LocaleText.Template.Part

/-!
# Expressions: placeholders and plural blocks

What stands between an outermost pair of braces is either a plural block, written
`{key:alternatives}` inside the braces or `key:{alternatives}`, or a placeholder, written
`key?:type|step|…|step`. The key may be left out in both. This module reads one such body on its
own: keys are trimmed, all other fields are as written, and a key that was left out is empty.
-/

namespace LocaleText

namespace PluralBlock

/-- The characters that end the head of a list of alternatives, where a key could stand. -/
def endsHead (c : Char) : Bool :=
  c == '|' || c == ',' || c == '{'

/-- The characters that no key in front of a braced list contains. -/
def endsKey (c : Char) : Bool :=
  c == '|' || c == '{' || c == '}'

/-- The key and the list of alternatives when `body` is written as a plural block.

The body of `{{key:alternatives}}` is in braces itself; then everything up to the first colon is
the key, unless a `|`, `,` or `{` comes first. Otherwise the part after the first colon has to be
in braces, and the part before it to be free of `|`, `{` and `}`. -/
def source? (body : Text) : Option (Text × Text) :=
  match unbrace? (Text.trim body) with
  | some inner =>
    match Text.cut? ':' inner with
    | some (key, list) => some (if key.any endsHead then ([], inner) else (key, list))
    | none => some ([], inner)
  | none =>
    match Text.cut? ':' body with
    | some (key, rest) =>
      if key.any endsKey then none
      else (unbrace? (Text.trim rest)).map fun list => (key, list)
    | none => none

end PluralBlock

namespace Placeholder

/-- The placeholder that is written in the stretches of a body between bars outside braces. The
first of them holds the key, which ends at the first `?` or `:`, the mark, which is a `?` with
nothing between it and the next `?`, the colon or the end, and the type, which is what stands
between the first colon and the next. The others are the steps. -/
def ofStretches (stretches : List Text) : Placeholder :=
  let (typed, tags) := Text.cuts ':' (stretches.headD [])
  let (key, marks) := Text.cuts '?' typed
  { key := Text.trim key
    typeTag := tags.head?
    isOptional := marks.head? == some []
    steps := stretches.tail }

end Placeholder

section Effects

variable {m : Type → Type} [Monad m]

/-- Reads `body` as a placeholder, with the splitting left to an effect. -/
def Placeholder.readM (splitter : Splitter m) (body : Text) : m Placeholder := do
  let stretches ← splitter.split '|' body
  pure (ofStretches stretches)

/-- Reads the body of an expression, with the splitting left to an effect. -/
def Part.ofExpressionM (splitter : Splitter m) (body : Text) : ExceptT TemplateError m Part :=
  match PluralBlock.source? body with
  | some (key, list) => do
    let alternatives ← ExceptT.lift (Alternatives.readM splitter list)
    match PluralForms.ofAlternatives alternatives with
    | some forms => pure (.plural { key := Text.trim key, forms := forms })
    | none => throw (.pluralArity body alternatives.length)
  | none => do
    let placeholder ← ExceptT.lift (Placeholder.readM splitter body)
    pure (.placeholder placeholder)

end Effects

/-- Reads `body` as a placeholder. -/
def Placeholder.read (body : Text) : Placeholder :=
  Id.run (readM .plain body)

/-- Reads the body of an expression. -/
def Part.ofExpression (body : Text) : Except TemplateError Part :=
  Id.run (ofExpressionM .plain body).run

/-- Where nothing but a fault is left to the effect, one step comes after the other. -/
theorem run_bind {ε α β : Type} (first : ExceptT ε Id α) (next : α → ExceptT ε Id β) :
    Id.run (first >>= next).run =
      (Id.run first.run).bind fun value => Id.run (next value).run :=
  match first with
  | Except.ok _ => rfl
  | Except.error _ => rfl

theorem Placeholder.read_eq (body : Text) : read body = ofStretches (splitTop '|' body) :=
  rfl

theorem Part.ofExpression_eq (body : Text) :
    ofExpression body =
      match PluralBlock.source? body with
      | some (key, list) =>
        match PluralForms.ofAlternatives (Alternatives.read list) with
        | some forms => .ok (.plural { key := Text.trim key, forms := forms })
        | none => .error (.pluralArity body (Alternatives.read list).length)
      | none => .ok (.placeholder (Placeholder.read body)) := by
  rw [ofExpression, ofExpressionM]
  cases PluralBlock.source? body with
  | none => rfl
  | some found =>
    obtain ⟨key, list⟩ := found
    have read : Id.run (ExceptT.lift (Alternatives.readM Splitter.plain list)).run =
        (.ok (Alternatives.read list) : Except TemplateError (List Text)) :=
      rfl
    simp only [run_bind, read, Except.bind]
    cases PluralForms.ofAlternatives (Alternatives.read list) <;> rfl
end LocaleText
