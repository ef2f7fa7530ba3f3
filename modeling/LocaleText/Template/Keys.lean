import LocaleText.Template.Part

/-!
# Keys left out

A part may leave its key out. A plural block then takes the key of the closest placeholder before
it that writes one. Whatever is left without a key takes the first key that a placeholder of the
template writes, wherever that placeholder stands, and `0` when there is no such placeholder.
-/

namespace LocaleText

namespace Part

/-- The key that a placeholder writes. A plural block passes no key on, whether it writes one or
not. -/
def offeredKey? : Part → Option Text
  | placeholder p => if p.key.isEmpty then none else some p.key
  | _ => none

/-- `key`, or `standIn` when `key` is empty. -/
def orElseKey (key standIn : Text) : Text :=
  if key.isEmpty then standIn else key

/-- Fills in the keys that are left out, `last` being the closest key offered so far and
`first` the first one of the template. -/
def inheritFrom (first : Text) : (last : Option Text) → List Part → List Part
  | _, [] => []
  | last, literal text :: parts => literal text :: inheritFrom first last parts
  | last, placeholder p :: parts =>
    placeholder { p with key := orElseKey p.key first }
      :: inheritFrom first ((placeholder p).offeredKey?.or last) parts
  | last, plural block :: parts =>
    plural { block with key := orElseKey block.key (last.getD first) }
      :: inheritFrom first last parts

/-- The position that stands in for a key when no placeholder writes one. -/
def defaultKey : Text := ['0']

/-- Fills in the keys that the parts of a template leave out. -/
def inheritKeys (parts : List Part) : List Part :=
  inheritFrom ((parts.findSome? offeredKey?).getD defaultKey) none parts

end Part
end LocaleText
