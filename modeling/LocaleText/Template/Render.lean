import LocaleText.Arguments
import LocaleText.Formatter.Chain
import LocaleText.Plural.Category
import LocaleText.Template.Part
import LocaleText.Text.Blank

/-!
# Rendering

A template is rendered part by part. A placeholder shows its argument after the formatting steps,
trimmed. A plural block shows one of its alternatives, in which every `??` is replaced by the
argument. An argument that is missing shows as nothing, and so does a missing alternative.

`PluralForms.choice` says which alternative is due: it is either settled by the argument alone,
for a truth value and for zero in a block that has an alternative for it, or left to the plural
rules. The rules are asked through an effect, so that `Template.renderM` says when and in which
order they are asked, too; `Template.render` asks a function and `Template.consulted` lists the
numbers asked about.
-/

namespace LocaleText

/-- The number that an argument counts as for the plural rules: a number or a numeral its value,
truth values one and zero, and anything else not-a-number. -/
def pluralOperand : Option Json → Float
  | some (.number n) => n.toFloat
  | some (.string text) => (readFloat? (Text.trim text)).getD notANumber
  | some (.bool b) => if b then 1.0 else 0.0
  | _ => notANumber

/-- Whether an argument is the number zero or the text `0`. -/
def isZeroArgument : Option Json → Bool
  | some (.number n) => n.toFloat == 0.0
  | some (.string text) => text == ['0']
  | _ => false

/-- How the alternative to be shown is found. -/
inductive Choice where
  /-- The argument settles it. -/
  | settled (form : Option Text)
  /-- The plural rules decide by a number. -/
  | asks (operand : Float)

namespace PluralForms

/-- The alternative for a category. Where there is none for few or many, that for other serves. -/
def forCategory (forms : PluralForms) : Category → Option Text
  | .zero => forms.zero
  | .one => forms.one
  | .two => forms.two
  | .few => forms.few.or forms.other
  | .many => forms.many.or forms.other
  | .other => forms.other

/-- Whether there is an alternative for zero that is not empty. -/
def hasZero (forms : PluralForms) : Bool :=
  match forms.zero with
  | some text => !text.isEmpty
  | none => false

/-- How the alternative for an argument is found. -/
def choice (forms : PluralForms) (argument : Option Json) : Choice :=
  match argument with
  | some (.bool true) => .settled forms.one
  | some (.bool false) => .settled forms.other
  | _ =>
    if forms.hasZero && isZeroArgument argument then .settled forms.zero
    else .asks (pluralOperand argument)

end PluralForms

/-- Replaces every `??`, from left to right, by `value`. What is put in is not read again. -/
def fillIn (value : Text) : Text → Text
  | [] => []
  | '?' :: '?' :: rest => value ++ fillIn value rest
  | c :: rest => c :: fillIn value rest

/-- The text of an argument; a missing one has none. -/
def displayArgument (argument : Option Json) : Text :=
  (argument.map Json.display).getD []

/-- An alternative with the argument filled in. -/
def showForm (argument : Option Json) (form : Option Text) : Text :=
  (form.map (fillIn (displayArgument argument))).getD []

/-- A placeholder with its argument. -/
def Placeholder.render (registry : Registry) (p : Placeholder) (argument : Option Json) : Text :=
  Text.trim (Chain.apply registry p.steps (argument.getD .null)).display

section Effects

variable {m : Type → Type} [Monad m]

/-- A plural block with its argument, under rules that are asked through an effect. -/
def PluralBlock.renderM (select : Float → m Category) (block : PluralBlock)
    (argument : Option Json) : m Text :=
  match block.forms.choice argument with
  | .settled form => pure (showForm argument form)
  | .asks operand => do
    let category ← select operand
    pure (showForm argument (block.forms.forCategory category))

/-- A part with its argument. -/
def Part.renderM (select : Float → m Category) (registry : Registry) (arguments : Arguments) :
    Part → m Text
  | literal text => pure text
  | placeholder p => pure (p.render registry (arguments.find? p.key))
  | plural block => block.renderM select (arguments.find? block.key)

/-- Parts one after the other. -/
def Part.renderAllM (select : Float → m Category) (registry : Registry) (arguments : Arguments) :
    List Part → m Text
  | [] => pure []
  | part :: parts => do
    let front ← part.renderM select registry arguments
    let back ← renderAllM select registry arguments parts
    pure (front ++ back)

/-- A template with its arguments, under rules that are asked through an effect. -/
def Template.renderM (select : Float → m Category) (registry : Registry) (template : Template)
    (arguments : Arguments) : m Text :=
  Part.renderAllM select registry arguments template.parts

end Effects

namespace Template

/-- A template with its arguments. -/
def render (select : Selector) (registry : Registry) (template : Template)
    (arguments : Arguments) : Text :=
  Id.run (template.renderM (fun x => pure (select x)) registry arguments)

/-- A selector that notes the numbers it is asked about, the last one first. -/
def noting (select : Selector) (x : Float) : StateM (List Float) Category := do
  modify (x :: ·)
  pure (select x)

/-- The numbers that the plural rules are asked about, in order. -/
def consulted (select : Selector) (registry : Registry) (template : Template)
    (arguments : Arguments) : List Float :=
  ((template.renderM (noting select) registry arguments).run []).2.reverse

end Template
end LocaleText
