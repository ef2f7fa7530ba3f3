import LocaleText.Template.Expression
import LocaleText.Template.Keys
import LocaleText.Template.Segment
import LocaleText.Template.Tidy

/-!
# Reading a template

A template is cut into segments, each expression is read on its own, the keys that are left out are
filled in over the whole template, and the parts are tidied. The first two stages can fail. A brace
without a partner outranks every other fault, wherever it stands, because no expression is read
before the whole text has been cut; of several faulty plural blocks the leftmost is reported.
-/

namespace LocaleText

section Effects

variable {m : Type → Type} [Monad m]

/-- Reads one segment, with the splitting left to an effect. -/
def Part.ofSegmentM (splitter : Splitter m) : Segment → ExceptT TemplateError m Part
  | .literal text => pure (.literal text)
  | .expression body => ofExpressionM splitter body

/-- The parts that are written in `text`, as written, with the splitting left to an effect. -/
def Template.readPartsM (splitter : Splitter m) (text : Text) :
    ExceptT TemplateError m (List Part) := do
  let segments ← ofExcept (Segment.split text)
  segments.mapM (Part.ofSegmentM splitter)

/-- Reads a template, with the splitting left to an effect. -/
def Template.parseM (splitter : Splitter m) (options : ParseOptions) (text : Text) :
    ExceptT TemplateError m Template := do
  let parts ← readPartsM splitter text
  pure { parts := (Part.inheritKeys parts).map (Part.tidy options) }

end Effects

/-- Reads one segment. -/
def Part.ofSegment (segment : Segment) : Except TemplateError Part :=
  Id.run (ofSegmentM .plain segment).run

@[simp] theorem Part.ofSegment_expression (body : Text) :
    ofSegment (.expression body) = ofExpression body :=
  rfl

namespace Template

/-- The parts that are written in `text`, as written. -/
def readParts (text : Text) : Except TemplateError (List Part) :=
  Id.run (readPartsM .plain text).run

/-- Reads a template. -/
def parse (options : ParseOptions) (text : Text) : Except TemplateError Template :=
  Id.run (parseM .plain options text).run

/-- So does one item after the other. -/
theorem run_mapM {ε α β : Type} (f : α → ExceptT ε Id β) (items : List α) :
    Id.run (items.mapM f).run = items.mapM fun item => Id.run (f item).run := by
  induction items with
  | nil => rfl
  | cons item items ih =>
    simp only [List.mapM_cons, run_bind, ih]
    rfl

theorem readParts_eq (text : Text) :
    readParts text = (Segment.split text).bind fun segments => segments.mapM Part.ofSegment := by
  rw [readParts, readPartsM, run_bind]
  simp only [run_mapM]
  cases Segment.split text <;> rfl

theorem parse_eq (options : ParseOptions) (text : Text) :
    parse options text = (readParts text).map
      fun parts => { parts := (Part.inheritKeys parts).map (Part.tidy options) } := by
  rw [parse, parseM, run_bind, readParts]
  cases Id.run (readPartsM Splitter.plain text).run <;> rfl

end Template
end LocaleText
