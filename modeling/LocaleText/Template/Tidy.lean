import LocaleText.Text.Blank
import LocaleText.Template.Part

/-!
# Trimming and compacting parts

Blanks around the fields of a part carry nothing and are trimmed. A template may be compacted as
well: a type or an alternative that is empty or just `0` then counts as not written, and empty
formatting steps are dropped.
-/

namespace LocaleText

/-- How templates are read. -/
structure ParseOptions where
  /-- Whether fields that carry nothing are dropped. -/
  compact : Bool := true
  deriving DecidableEq, Repr

/-- Whether the field carries nothing. -/
def isVoid (field : Text) : Bool :=
  field.isEmpty || field == ['0']

/-- Drops the content of a field that carries nothing. -/
def compactField (field : Option Text) : Option Text :=
  field.filter fun text => !isVoid text

namespace Part

/-- Trims every field of the part but its key. -/
def trimFields : Part → Part
  | literal text => literal text
  | placeholder p =>
    placeholder { p with typeTag := p.typeTag.map Text.trim, steps := p.steps.map Text.trim }
  | plural block => plural { block with forms := block.forms.map (Option.map Text.trim) }

/-- Drops the fields of the part that carry nothing. -/
def compact : Part → Part
  | literal text => literal text
  | placeholder p =>
    placeholder { p with
      typeTag := compactField p.typeTag
      steps := p.steps.filter fun step => !step.isEmpty }
  | plural block => plural { block with forms := block.forms.map compactField }

/-- Trims the part and, where the options ask for it, compacts it. -/
def tidy (options : ParseOptions) (part : Part) : Part :=
  if options.compact then part.trimFields.compact else part.trimFields

end Part
end LocaleText
