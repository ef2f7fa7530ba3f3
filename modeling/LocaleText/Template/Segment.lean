import LocaleText.Braces
import LocaleText.Template.Error

/-!
# Segments: literal text and expressions

A template is literal text with expressions in braces. `Segment.split` cuts it at the outermost
braces; braces inside an expression stay in its body, and an empty stretch of literal text is no
segment. `Segment.write` writes segments down again.

The scan is one recursion on the text. It carries the number of open braces, the position of the
outermost open brace, the position of the next character, and the characters of the segment under
way in reverse.
-/

namespace LocaleText

/-- A stretch of a template. -/
inductive Segment where
  /-- Text that stands for itself. -/
  | literal (text : Text)
  /-- What stands between an outermost brace and its partner. -/
  | expression (body : Text)
  deriving DecidableEq, Repr

namespace Segment

/-- The literal whose characters, last one first, are `pending`, before the segments that follow;
none when it is empty. -/
def withLiteral (pending : Text) (rest : List Segment) : List Segment :=
  if pending.isEmpty then rest else literal pending.reverse :: rest

/-- Reads the segments of what is left of a template. -/
def scan : (depth opened offset : Nat) → (pending : Text) → Text →
    Except TemplateError (List Segment)
  | 0, _, _, pending, [] => .ok (withLiteral pending [])
  | _ + 1, opened, _, _, [] => .error (.unclosedBrace opened)
  | depth, opened, offset, pending, c :: cs =>
    if c = '{' then
      if depth = 0 then
        (scan 1 offset (offset + 1) [] cs).map (withLiteral pending)
      else
        scan (depth + 1) opened (offset + 1) (c :: pending) cs
    else if c = '}' then
      match depth with
      | 0 => .error (.unexpectedClosingBrace offset)
      | 1 => (scan 0 opened (offset + 1) [] cs).map (expression pending.reverse :: ·)
      | outer + 2 => scan (outer + 1) opened (offset + 1) (c :: pending) cs
    else
      scan depth opened (offset + c.utf8Size) (c :: pending) cs

/-- The segments of a template, in order. -/
def split (text : Text) : Except TemplateError (List Segment) :=
  scan 0 0 0 [] text

/-- A segment as it stands in a template. -/
def write : Segment → Text
  | literal text => text
  | expression body => '{' :: (body ++ ['}'])

/-- Segments one after the other. -/
def writeAll (segments : List Segment) : Text :=
  segments.flatMap write

end Segment
end LocaleText
