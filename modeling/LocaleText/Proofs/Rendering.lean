import LocaleText.Template.Render

/-!
# LocaleText.Proofs.Rendering

**Rendering is part by part.** What a template shows is the texts of its parts one after the other
(`Template.render_eq`), and the plural rules are asked about the numbers of its parts one after the
other (`Template.consulted_eq`). Both come from one lemma on the run that notes what is asked, in
which the notes made before go along unchanged (`Part.renderAllM_noting`).
-/

namespace LocaleText

/-- The alternative of a block that an argument and the rules choose, with the argument filled in. A
missing one shows as nothing. -/
def PluralBlock.shown (select : Selector) (block : PluralBlock) (argument : Option Json) : Text :=
  match block.forms.choice argument with
  | .settled form => showForm argument form
  | .asks operand => showForm argument (block.forms.forCategory (select operand))

/-- The number that the rules are asked about for a block, unless the argument settles the choice.
Then none is asked. -/
def PluralBlock.asked (block : PluralBlock) (argument : Option Json) : List Float :=
  match block.forms.choice argument with
  | .settled _ => []
  | .asks operand => [operand]

namespace Part

/-- The text that a part shows. -/
def shown (select : Selector) (registry : Registry) (arguments : Arguments) : Part → Text
  | literal text => text
  | placeholder p => p.render registry (arguments.find? p.key)
  | plural block => block.shown select (arguments.find? block.key)

/-- The numbers that the rules are asked about for a part; there is one at most. -/
def asked (arguments : Arguments) : Part → List Float
  | plural block => block.asked (arguments.find? block.key)
  | _ => []

section Run

variable (select : Selector) (registry : Registry) (arguments : Arguments)

/-- Rendering a part without an effect gives its text: asking the rules is then just to apply them.
-/
theorem run_renderM (part : Part) :
    Id.run (part.renderM (fun x => pure (select x)) registry arguments) =
      part.shown select registry arguments := by
  cases part with
  | literal text => rfl
  | placeholder p => rfl
  | plural block =>
      rw [renderM, shown, PluralBlock.renderM, PluralBlock.shown]
      cases block.forms.choice (arguments.find? block.key) <;> rfl

/-- Rendering a part notes its number on top of what has been noted before, and shows the text that
it shows without notes. -/
theorem renderM_noting (part : Part) (notes : List Float) :
    (part.renderM (Template.noting select) registry arguments).run notes =
      (part.shown select registry arguments, (part.asked arguments).reverse ++ notes) := by
  cases part with
  | literal text => rfl
  | placeholder p => rfl
  | plural block =>
      rw [renderM, shown, asked, PluralBlock.renderM, PluralBlock.shown, PluralBlock.asked]
      cases block.forms.choice (arguments.find? block.key) <;> rfl

/-- Without an effect, parts are rendered to their texts one after the other. -/
theorem run_renderAllM (parts : List Part) :
    Id.run (renderAllM (fun x => pure (select x)) registry arguments parts) =
      parts.flatMap (shown select registry arguments) := by
  induction parts with
  | nil => rfl
  | cons part parts ih =>
      rw [List.flatMap_cons, ← ih, ← run_renderM]
      rfl

/-- **A run along the parts** shows their texts in order and notes their numbers in order. Notes
come out last first, and are turned around in the end; the notes made before are general, because
every part adds to those of the parts in front of it. -/
theorem renderAllM_noting (parts : List Part) (notes : List Float) :
    (renderAllM (Template.noting select) registry arguments parts).run notes =
      (parts.flatMap (shown select registry arguments),
        (parts.flatMap (asked arguments)).reverse ++ notes) := by
  induction parts generalizing notes with
  | nil => rfl
  | cons part parts ih =>
      have here := renderM_noting select registry arguments part notes
      have later := ih ((part.asked arguments).reverse ++ notes)
      rw [← List.append_assoc, ← List.reverse_append, ← List.flatMap_cons] at later
      rw [renderAllM, StateT.run_bind, here]
      show StateT.run (renderAllM (Template.noting select) registry arguments parts >>= fun back =>
        pure (part.shown select registry arguments ++ back)) _ = _
      rw [StateT.run_bind, later]
      rfl

end Run

end Part

namespace Template

variable (select : Selector) (registry : Registry) (template : Template) (arguments : Arguments)

/-- **A template shows its parts** one after the other. Parts have no influence on each other once
their keys have been filled in. -/
theorem render_eq :
    template.render select registry arguments =
      template.parts.flatMap (Part.shown select registry arguments) :=
  Part.run_renderAllM select registry arguments template.parts

/-- **The rules are asked about the numbers of the parts**, one after the other. -/
theorem consulted_eq :
    template.consulted select registry arguments =
      template.parts.flatMap (Part.asked arguments) := by
  rw [consulted, renderM, Part.renderAllM_noting, List.append_nil, List.reverse_reverse]

end Template

end LocaleText
