import LocaleText.Text
import LocaleText.Text.Case.Table

/-!
# Upper and lower case

The full case mappings of Unicode, which can change the number of characters (`ß` becomes `SS`).
They look at one character at a time, except that a capital sigma becomes a final sigma in lower
case when a cased character stands before it and none behind, ignorable characters not counted.
-/

namespace LocaleText

open CaseTable

/-- The upper case of a character. -/
def upperChar (c : Char) : Text :=
  match upperWords.lookup c.toNat with
  | some word => word.map Char.ofNat
  | none => [Char.ofNat (image upperRuns c.toNat)]

/-- The lower case of a character that stands alone. -/
def lowerChar (c : Char) : Text :=
  match lowerWords.lookup c.toNat with
  | some word => word.map Char.ofNat
  | none => [Char.ofNat (image lowerRuns c.toNat)]

/-- Whether the first character that is not ignorable is cased. -/
def startsCased (text : Text) : Bool :=
  match text.dropWhile fun c => inRanges ignorableRanges c.toNat with
  | c :: _ => inRanges casedRanges c.toNat
  | [] => false

namespace Text

/-- A text in upper case. -/
def upper (text : Text) : Text :=
  text.flatMap upperChar

/-- The lower case of what is left of a text, the characters before it in reverse. -/
def lowerFrom (before : Text) : Text → Text
  | [] => []
  | c :: cs =>
    let image :=
      if c = 'Σ' then
        if startsCased before && !startsCased cs then ['ς'] else ['σ']
      else lowerChar c
    image ++ lowerFrom (c :: before) cs

/-- A text in lower case. -/
def lower (text : Text) : Text :=
  lowerFrom [] text

/-- A text with its first character in upper case. -/
def capitalize : Text → Text
  | [] => []
  | c :: cs => upperChar c ++ cs

end Text
end LocaleText
