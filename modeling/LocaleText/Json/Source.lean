import LocaleText.Json.Lexer

/-!
# The structure of JSON text

`Source` is the tree that a JSON text spells, before strings and numerals are given a meaning: every
field of an object is there, in the order in which it stands. `Source.ofTokens?` builds it with a
machine that takes one token at a time and keeps the containers under way in a list of frames, so
that it is a fold over the tokens and knows no bound on nesting.
-/

namespace LocaleText.Json

/-- What a JSON text spells. -/
inductive Source where
  | null
  | bool (b : Bool)
  | numeral (n : Numeral)
  | string (units : List StringUnit)
  | array (items : List Source)
  | object (fields : List (List StringUnit × Source))

namespace Source

/-- A container under way, what it holds so far in reverse. -/
inductive Frame where
  /-- An array whose next item is being read. -/
  | array (done : List Source)
  /-- An object whose value under `name` is being read. -/
  | object (done : List (List StringUnit × Source)) (name : List StringUnit)

/-- What the machine expects next. The frames are those around it, the innermost first. -/
inductive State where
  /-- A value. -/
  | value (frames : List Frame)
  /-- The first item of an array, or its end. -/
  | firstItem (frames : List Frame)
  /-- A comma or the end of an array. -/
  | afterItem (done : List Source) (frames : List Frame)
  /-- The first name in an object, or its end. -/
  | firstName (frames : List Frame)
  /-- A further name in an object. -/
  | nextName (done : List (List StringUnit × Source)) (frames : List Frame)
  /-- The colon behind a name. -/
  | colon (done : List (List StringUnit × Source)) (name : List StringUnit) (frames : List Frame)
  /-- A comma or the end of an object. -/
  | afterField (done : List (List StringUnit × Source)) (frames : List Frame)
  /-- Nothing more. -/
  | finished (source : Source)

/-- The state after a value has been read. -/
def State.complete (source : Source) : List Frame → State
  | [] => .finished source
  | .array done :: frames => .afterItem (source :: done) frames
  | .object done name :: frames => .afterField ((name, source) :: done) frames

/-- Takes a token where a value is expected. -/
def State.startValue (frames : List Frame) : Token → Option State
  | .null => some (.complete .null frames)
  | .bool b => some (.complete (.bool b) frames)
  | .numeral n => some (.complete (.numeral n) frames)
  | .string units => some (.complete (.string units) frames)
  | .openArray => some (.firstItem frames)
  | .openObject => some (.firstName frames)
  | _ => none

/-- Takes one token. -/
def State.step : State → Token → Option State
  | value frames, token => startValue frames token
  | firstItem frames, .closeArray => some (.complete (.array []) frames)
  | firstItem frames, token => startValue (.array [] :: frames) token
  | afterItem done frames, .comma => some (value (.array done :: frames))
  | afterItem done frames, .closeArray => some (.complete (.array done.reverse) frames)
  | firstName frames, .closeObject => some (.complete (.object []) frames)
  | firstName frames, .string name => some (colon [] name frames)
  | nextName done frames, .string name => some (colon done name frames)
  | colon done name frames, .colon => some (value (.object done name :: frames))
  | afterField done frames, .comma => some (nextName done frames)
  | afterField done frames, .closeObject => some (.complete (.object done.reverse) frames)
  | _, _ => none

/-- The tree that the tokens spell, if they spell one and no more. -/
def ofTokens? (tokens : List Token) : Option Source :=
  match tokens.foldlM State.step (.value []) with
  | some (.finished source) => some source
  | _ => none

/-- The tree that a text spells. -/
def read? (text : Text) : Option Source :=
  (tokens? text).bind ofTokens?

end Source
end LocaleText.Json
