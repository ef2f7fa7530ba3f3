import LocaleText.Text

/-!
# Tokens of JSON text

The lexer keeps strings and numerals as written: a string is a list of characters and of numeric
escapes, a numeral its digits. Whether an escape denotes a character, and whether a number is too
large, is decided where the token is used, because a text may hold parts that nobody reads.
`tokens` ends because `next?` always takes at least one character (`length_lt_of_next?`).
-/

namespace LocaleText.Json

/-- A character of a string as written. -/
inductive StringUnit where
  /-- A character, or an escape by a letter. -/
  | char (c : Char)
  /-- A numeric escape: one unit of UTF-16. -/
  | code (n : Nat)
  deriving DecidableEq, Repr

/-- A number as written. -/
structure Numeral where
  /-- Whether there is a minus sign. -/
  isNegative : Bool
  /-- The digits before the point. -/
  whole : Text
  /-- The digits after the point, if there is one. -/
  fraction : Option Text
  /-- Whether the exponent is negative, and its digits, if there is one. -/
  exponent : Option (Bool × Text)
  deriving DecidableEq, Repr

/-- A token of JSON text. -/
inductive Token where
  | openArray | closeArray | openObject | closeObject | comma | colon
  | null
  | bool (b : Bool)
  | numeral (n : Numeral)
  | string (units : List StringUnit)
  deriving DecidableEq, Repr

/-- The characters that may stand between tokens. -/
def isSpace (c : Char) : Bool :=
  c == ' ' || c == '\t' || c == '\n' || c == '\r'

/-- The digits at the start of a text, at least one, and the rest. -/
def takeDigits? (text : Text) : Option (Text × Text) :=
  let digits := text.takeWhile Char.isDigit
  if digits.isEmpty then none else some (digits, text.dropWhile Char.isDigit)

/-- The digits of a whole part: a zero is followed by no other digit of it. -/
def takeWhole? : Text → Option (Text × Text)
  | '0' :: rest => some (['0'], rest)
  | text => takeDigits? text

/-- The digits of a fraction, if a point follows. -/
def takeFraction? : Text → Option (Option Text × Text)
  | '.' :: rest => (takeDigits? rest).map fun (digits, rest) => (some digits, rest)
  | text => some (none, text)

/-- The sign and digits of an exponent. -/
def takePower? : Text → Option (Option (Bool × Text) × Text)
  | '-' :: rest => (takeDigits? rest).map fun (digits, rest) => (some (true, digits), rest)
  | '+' :: rest => (takeDigits? rest).map fun (digits, rest) => (some (false, digits), rest)
  | text => (takeDigits? text).map fun (digits, rest) => (some (false, digits), rest)

/-- An exponent, if there is one. -/
def takeExponent? : Text → Option (Option (Bool × Text) × Text)
  | 'e' :: rest => takePower? rest
  | 'E' :: rest => takePower? rest
  | text => some (none, text)

/-- A numeral without its sign. -/
def takeUnsigned? (isNegative : Bool) (text : Text) : Option (Numeral × Text) :=
  (takeWhole? text).bind fun (whole, afterWhole) =>
    (takeFraction? afterWhole).bind fun (fraction, afterFraction) =>
      (takeExponent? afterFraction).map fun (exponent, rest) =>
        ({ isNegative, whole, fraction, exponent }, rest)

/-- The value of a hexadecimal digit. -/
def hexDigit? (c : Char) : Option Nat :=
  if c.isDigit then some (c.toNat - '0'.toNat)
  else if 'a' ≤ c ∧ c ≤ 'f' then some (c.toNat - 'a'.toNat + 10)
  else if 'A' ≤ c ∧ c ≤ 'F' then some (c.toNat - 'A'.toNat + 10)
  else none

/-- The value of four hexadecimal digits. -/
def hexCode? (a b c d : Char) : Option Nat :=
  match hexDigit? a, hexDigit? b, hexDigit? c, hexDigit? d with
  | some a, some b, some c, some d => some (((a * 16 + b) * 16 + c) * 16 + d)
  | _, _, _, _ => none

/-- The character that a letter stands for after a backslash. -/
def letterEscape? (c : Char) : Option Char :=
  if c = '"' ∨ c = '\\' ∨ c = '/' then some c
  else if c = 'b' then some '\x08'
  else if c = 'f' then some '\x0c'
  else if c = 'n' then some '\n'
  else if c = 'r' then some '\r'
  else if c = 't' then some '\t'
  else none

/-- The units of a string whose opening quotation mark has been read, and what follows its closing
one. Control characters do not stand in strings. -/
def takeUnits? : Text → Option (List StringUnit × Text)
  | [] => none
  | '"' :: rest => some ([], rest)
  | '\\' :: 'u' :: a :: b :: c :: d :: rest =>
    (hexCode? a b c d).bind fun code =>
      (takeUnits? rest).map fun (units, rest) => (.code code :: units, rest)
  | '\\' :: c :: rest =>
    (letterEscape? c).bind fun c =>
      (takeUnits? rest).map fun (units, rest) => (.char c :: units, rest)
  | c :: rest =>
    if c < ' ' ∨ c = '\\' then none
    else (takeUnits? rest).map fun (units, rest) => (.char c :: units, rest)

/-- The token at the start of a text, and the rest. -/
def next? : Text → Option (Token × Text)
  | '[' :: rest => some (.openArray, rest)
  | ']' :: rest => some (.closeArray, rest)
  | '{' :: rest => some (.openObject, rest)
  | '}' :: rest => some (.closeObject, rest)
  | ',' :: rest => some (.comma, rest)
  | ':' :: rest => some (.colon, rest)
  | 'n' :: 'u' :: 'l' :: 'l' :: rest => some (.null, rest)
  | 't' :: 'r' :: 'u' :: 'e' :: rest => some (.bool true, rest)
  | 'f' :: 'a' :: 'l' :: 's' :: 'e' :: rest => some (.bool false, rest)
  | '"' :: rest => (takeUnits? rest).map fun (units, rest) => (.string units, rest)
  | '-' :: rest => (takeUnsigned? true rest).map fun (n, rest) => (.numeral n, rest)
  | text => (takeUnsigned? false text).map fun (n, rest) => (.numeral n, rest)

theorem length_lt_of_takeDigits? {text digits rest : Text}
    (h : takeDigits? text = some (digits, rest)) : rest.length < text.length := by
  simp only [takeDigits?, Option.ite_none_left_eq_some, Option.some.injEq, Prod.mk.injEq] at h
  obtain ⟨some, rfl, rfl⟩ := h
  have whole := congrArg List.length
    (List.takeWhile_append_dropWhile (p := Char.isDigit) (l := text))
  have := List.length_pos_iff.2 (fun empty => some (List.isEmpty_iff.2 empty))
  rw [List.length_append] at whole
  omega

theorem length_lt_of_takeWhole? {text whole rest : Text}
    (h : takeWhole? text = some (whole, rest)) : rest.length < text.length := by
  unfold takeWhole? at h
  split at h
  · simp_all
  · exact length_lt_of_takeDigits? h

theorem length_le_of_takeFraction? {text rest : Text} {fraction : Option Text}
    (h : takeFraction? text = some (fraction, rest)) : rest.length ≤ text.length := by
  unfold takeFraction? at h
  split at h
  · obtain ⟨⟨digits, after⟩, taken, same⟩ := Option.map_eq_some_iff.1 h
    have := length_lt_of_takeDigits? taken
    simp_all
    omega
  · simp_all

theorem length_lt_of_takePower? {text rest : Text} {power : Option (Bool × Text)}
    (h : takePower? text = some (power, rest)) : rest.length < text.length := by
  unfold takePower? at h
  split at h <;>
  · obtain ⟨⟨digits, after⟩, taken, same⟩ := Option.map_eq_some_iff.1 h
    have := length_lt_of_takeDigits? taken
    simp_all
    try omega

theorem length_le_of_takeExponent? {text rest : Text} {power : Option (Bool × Text)}
    (h : takeExponent? text = some (power, rest)) : rest.length ≤ text.length := by
  unfold takeExponent? at h
  split at h
  · have := length_lt_of_takePower? h
    simp
    omega
  · have := length_lt_of_takePower? h
    simp
    omega
  · simp_all

theorem length_lt_of_takeUnsigned? {isNegative : Bool} {text rest : Text} {n : Numeral}
    (h : takeUnsigned? isNegative text = some (n, rest)) : rest.length < text.length := by
  obtain ⟨⟨whole, afterWhole⟩, hw, h⟩ := Option.bind_eq_some_iff.1 h
  obtain ⟨⟨fraction, afterFraction⟩, hf, h⟩ := Option.bind_eq_some_iff.1 h
  obtain ⟨⟨exponent, after⟩, he, h⟩ := Option.map_eq_some_iff.1 h
  have := length_lt_of_takeWhole? hw
  have := length_le_of_takeFraction? hf
  have := length_le_of_takeExponent? he
  simp only [Prod.mk.injEq] at h
  grind

theorem length_lt_of_takeUnits? {text rest : Text} {units : List StringUnit}
    (h : takeUnits? text = some (units, rest)) : rest.length < text.length := by
  fun_induction takeUnits? text generalizing units with
  | case1 => simp at h
  | case2 => simp_all
  | case3 a b c d left ih =>
    obtain ⟨_, _, h⟩ := Option.bind_eq_some_iff.1 h
    obtain ⟨⟨more, after⟩, taken, same⟩ := Option.map_eq_some_iff.1 h
    simp only [Prod.mk.injEq] at same
    have := ih (same.2 ▸ taken)
    simp only [List.length_cons]
    omega
  | case4 c left _ ih =>
    obtain ⟨_, _, h⟩ := Option.bind_eq_some_iff.1 h
    obtain ⟨⟨more, after⟩, taken, same⟩ := Option.map_eq_some_iff.1 h
    simp only [Prod.mk.injEq] at same
    have := ih (same.2 ▸ taken)
    simp only [List.length_cons]
    omega
  | case5 => simp at h
  | case6 c left _ _ _ _ ih =>
    obtain ⟨⟨more, after⟩, taken, same⟩ := Option.map_eq_some_iff.1 h
    simp only [Prod.mk.injEq] at same
    have := ih (same.2 ▸ taken)
    simp only [List.length_cons]
    omega

theorem length_lt_of_next? {text rest : Text} {token : Token}
    (h : next? text = some (token, rest)) : rest.length < text.length := by
  unfold next? at h
  split at h
  case h_10 =>
    obtain ⟨⟨units, after⟩, taken, same⟩ := Option.map_eq_some_iff.1 h
    have := length_lt_of_takeUnits? taken
    grind
  case h_11 =>
    obtain ⟨⟨n, after⟩, taken, same⟩ := Option.map_eq_some_iff.1 h
    have := length_lt_of_takeUnsigned? taken
    grind
  case h_12 =>
    obtain ⟨⟨n, after⟩, taken, same⟩ := Option.map_eq_some_iff.1 h
    have := length_lt_of_takeUnsigned? taken
    grind
  all_goals
    simp only [Option.some.injEq, Prod.mk.injEq] at h
    obtain ⟨-, rfl⟩ := h
    simp only [List.length_cons]
    omega

/-- The tokens of a text, or `none` when a part of it is no token. -/
def tokens? : Text → Option (List Token)
  | [] => some []
  | c :: cs =>
    if isSpace c then tokens? cs
    else
      match _taken : next? (c :: cs) with
      | none => none
      | some (token, rest) => (tokens? rest).map (token :: ·)
termination_by text => text.length
decreasing_by
  · simp
  · exact length_lt_of_next? ‹_›

end LocaleText.Json
