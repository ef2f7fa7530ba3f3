import LocaleText.Proofs.Faults
import LocaleText.Proofs.Inheritance

/-!
# LocaleText.Proofs.Surroundings

**An expression among other text.** When the text before an expression is balanced, the expression
is read as one, whatever follows it: the segments of what stands before, the expression, and the
segments that the scanner finds behind it (`split_surrounded`). So reading the whole is reading the
three one after the other (`readParts_surrounded`), and all that the rest of a template sees of an
expression is the part read from it and the number of its bytes, which moves the positions behind.
Where what follows is balanced, too, no position is ever asked for, and of the part not even the
blanks around its fields matter (`parse_surrounded_congr`).
-/

namespace LocaleText

namespace Segment

/-- The scanner reads well-cut segments and an expression, and goes on behind them. What it finds
there is left open, as a scan from the position behind the expression. -/
theorem scan_surrounded {before : List Segment} (h : WellCut before) {body : Text}
    (balanced : Balanced body) {pending : Text} (separate : pending = [] ∨ StartsOpen before)
    (opened offset : Nat) (back : Text) :
    scan 0 opened offset pending (writeAll before ++ '{' :: (body ++ '}' :: back)) =
      (scan 0 (offset + Text.utf8Size (writeAll before))
        (offset + Text.utf8Size (writeAll before) + 1 + Text.utf8Size body + 1) [] back).map
          fun after => withLiteral pending (before ++ expression body :: after) := by
  induction before generalizing pending opened offset with
  | nil => exact scan_expression balanced opened offset pending back
  | cons segment before ih =>
      cases segment with
      | literal text =>
          obtain ⟨⟨notEmpty, free⟩, startsOpen, h⟩ := wellCut_literal_cons.1 h
          -- Otherwise the literal under way and this one would be read as one.
          have noPending : pending = [] := by
            rcases separate with same | startsOpen
            · exact same
            · cases startsOpen (literal text) rfl
          subst noPending
          rw [writeAll_literal_cons, List.append_assoc, scan_literal free, List.append_nil,
            ih h (Or.inr startsOpen), Text.utf8Size_append, Nat.add_assoc offset]
          simp only [withLiteral_reverse notEmpty]
          rfl
      | expression inner =>
          obtain ⟨balancedInner, h⟩ := wellCut_expression_cons.1 h
          have size : offset + Text.utf8Size (writeAll (expression inner :: before)) =
              offset + 1 + Text.utf8Size inner + 1 + Text.utf8Size (writeAll before) := by
            have braces : ('{' : Char).utf8Size = 1 ∧ ('}' : Char).utf8Size = 1 := by decide
            simp only [writeAll_expression_cons, Text.utf8Size_cons, Text.utf8Size_append, braces]
            omega
          rw [size, writeAll_expression_cons, List.cons_append, List.append_assoc,
            List.cons_append, scan_expression balancedInner, ih h (Or.inl rfl), except_map_map]
          rfl

theorem append_write_append (front body back : Text) :
    front ++ (expression body).write ++ back = front ++ '{' :: (body ++ '}' :: back) := by
  rw [write, List.append_assoc, List.cons_append, List.append_assoc, List.singleton_append]

/-- **Cutting around an expression.** The segments in front are the same for all expressions, and
all texts behind. -/
theorem split_surrounded {front : Text} (balanced : Balanced front) :
    ∃ before, ∀ {body : Text}, Balanced body → ∀ back,
      split (front ++ (expression body).write ++ back) =
        (scan 0 (Text.utf8Size front) (Text.utf8Size front + 1 + Text.utf8Size body + 1) []
          back).map fun after => before ++ expression body :: after := by
  obtain ⟨before, wellCut, rfl⟩ := exists_wellCut balanced
  refine ⟨before, fun balancedBody back => ?_⟩
  have through := scan_surrounded wellCut balancedBody (Or.inl rfl) 0 0 back
  rw [append_write_append, split, through, Nat.zero_add]
  rfl

end Segment

namespace Template

/-- A template that is a single expression has its part only, which finds no key but its own, and
`0` if it writes none. -/
theorem parse_expression (options : ParseOptions) {body : Text} (balanced : Balanced body) :
    parse options (Segment.expression body).write =
      (Part.ofExpression body).map fun part =>
        { parts := [(part.inherit (Part.standIn [part]) none).tidy options] } := by
  have wellCut : Segment.WellCut [.expression body] :=
    Segment.wellCut_expression_cons.2 ⟨balanced, Segment.wellCut_nil⟩
  have cut : Segment.split (Segment.expression body).write = .ok [.expression body] := by
    rw [← Segment.split_writeAll wellCut, Segment.writeAll, List.flatMap_singleton]
  rw [parse_eq, readParts_of_split_ok cut, List.mapM_cons, Part.ofSegment_expression]
  cases Part.ofExpression body with
  | error fault => rfl
  | ok part =>
      show Except.ok (Template.mk ((Part.inheritKeys [part]).map (Part.tidy options))) = _
      rw [Part.inheritKeys_eq, Part.inheritFrom_cons]
      rfl

/-- **Reading around an expression.** A fault of the braces behind comes first, then a fault in
front, then one of the expression, then one behind: this is the order of the binds. -/
theorem readParts_surrounded {front : Text} (balanced : Balanced front) :
    ∃ before : List Segment, ∀ {body : Text}, Balanced body → ∀ back,
      readParts (front ++ (Segment.expression body).write ++ back) =
        (Segment.scan 0 (Text.utf8Size front)
          (Text.utf8Size front + 1 + Text.utf8Size body + 1) [] back).bind fun after =>
            (before.mapM Part.ofSegment).bind fun left => (Part.ofExpression body).bind fun part =>
              (after.mapM Part.ofSegment).map fun right => left ++ part :: right := by
  obtain ⟨before, cut⟩ := Segment.split_surrounded balanced
  refine ⟨before, fun balancedBody back => ?_⟩
  rw [readParts_eq, cut balancedBody]
  generalize Segment.scan 0 _ _ [] back = behind
  cases behind with
  | error fault => rfl
  | ok after => exact mapM_append_cons Part.ofSegment before _ after

/-- **One expression in place of another.** Two expressions that are read as the same part, blanks
around its fields aside, may stand in place of each other between balanced texts. Keys are filled in
alike, because trimming does not touch them. -/
theorem parse_surrounded_congr (options : ParseOptions) {front back body body' : Text}
    (balancedFront : Balanced front) (balancedBack : Balanced back) (balanced : Balanced body)
    (balanced' : Balanced body') {part part' : Part} (read : Part.ofExpression body = .ok part)
    (read' : Part.ofExpression body' = .ok part') (alike : part.trimFields = part'.trimFields) :
    parse options (front ++ (Segment.expression body).write ++ back) =
      parse options (front ++ (Segment.expression body').write ++ back) := by
  obtain ⟨before, around⟩ := readParts_surrounded balancedFront
  obtain ⟨after, wellCut, rfl⟩ := Segment.exists_wellCut balancedBack
  -- What stands behind is balanced, so where it starts does not matter.
  simp only [parse_eq, around balanced, around balanced', read, read',
    Segment.scan_writeAll wellCut (Or.inl rfl), Segment.withLiteral_nil, Except.bind]
  cases before.mapM Part.ofSegment with
  | error fault => rfl
  | ok left =>
      cases after.mapM Part.ofSegment with
      | error fault => rfl
      | ok right =>
          have trimmed : (left ++ part :: right).map Part.trimFields =
              (left ++ part' :: right).map Part.trimFields := by
            rw [List.map_append, List.map_append, List.map_cons, List.map_cons, alike]
          have filled := congrArg Part.inheritKeys trimmed
          rw [Part.inheritKeys_map_trimFields, Part.inheritKeys_map_trimFields] at filled
          have tidied := Part.map_tidy_congr options filled
          exact congrArg Except.ok (congrArg Template.mk tidied)

end Template

end LocaleText
