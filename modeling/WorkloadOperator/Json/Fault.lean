import WorkloadOperator.Json.Decode

/-!
# Readers and their faults

A reader takes what is left of a text and gives a value with what is left after
it, or stops.  A stop says why, and where: at what is left of the text there, or
some octets further on, but never beyond the end.  `Stop.place` makes a line and
a column of it.

Readers work on characters and places count octets, because a reader may stop
inside a character.
-/

namespace WorkloadOperator

namespace Json

/-- Why a text can not be read. -/
inductive Fault where
  /-- The text ends where a value is due. -/
  | endInValue
  /-- The text ends inside a sequence. -/
  | endInItems
  /-- The text ends inside an object. -/
  | endInMembers
  /-- The text ends inside a quoted text. -/
  | endInString
  /-- Something else stands where a value is due. -/
  | expectedValue
  /-- A word that begins like `null`, `true` or `false` is none of them. -/
  | expectedWord
  /-- An item is followed by neither a comma nor the end of the sequence. -/
  | expectedItemEnd
  /-- A member is followed by neither a comma nor the end of the object. -/
  | expectedMemberEnd
  /-- A key is not followed by a colon. -/
  | expectedColon
  /-- A key is no quoted text. -/
  | keyNotString
  /-- A comma stands before the end of a sequence or an object. -/
  | trailingComma
  /-- Something follows the value. -/
  | trailingText
  /-- A backslash is followed by no known escape. -/
  | badEscape
  /-- An escape gives the wrong half of a surrogate pair. -/
  | loneSurrogate
  /-- The first half of a surrogate pair is followed by no second one. -/
  | halfPair
  /-- A control character stands unescaped in a quoted text. -/
  | control
  /-- A number is misspelled. -/
  | badNumber
  /-- A number is too great for a double. -/
  | numberOutOfRange
  /-- Values are nested too deep. -/
  | tooDeep
  /-- A value is well spelled, but it is not what is due. -/
  | content (e : Decode.Error)
  deriving DecidableEq

/-- The wording of a fault. -/
def Fault.message : Fault → String
  | .endInValue => "EOF while parsing a value"
  | .endInItems => "EOF while parsing a list"
  | .endInMembers => "EOF while parsing an object"
  | .endInString => "EOF while parsing a string"
  | .expectedValue => "expected value"
  | .expectedWord => "expected ident"
  | .expectedItemEnd => "expected `,` or `]`"
  | .expectedMemberEnd => "expected `,` or `\x7d`"
  | .expectedColon => "expected `:`"
  | .keyNotString => "key must be a string"
  | .trailingComma => "trailing comma"
  | .trailingText => "trailing characters"
  | .badEscape => "invalid escape"
  | .loneSurrogate => "lone leading surrogate in hex escape"
  | .halfPair => "unexpected end of hex escape"
  | .control => "control character (\\u0000-\\u001F) found while parsing a string"
  | .badNumber => "invalid number"
  | .numberOutOfRange => "number out of range"
  | .tooDeep => "recursion limit exceeded"
  | .content e => e.message

/-! ## Places -/

/-- A place in a text: its line, and the octets of the line up to it. -/
structure Place where
  /-- The line, from one on. -/
  line : Nat
  /-- The octets read in the line. -/
  column : Nat
  deriving DecidableEq, Repr

/-- The place some octets further on in a text. -/
def Place.advance (p : Place) : (octets : Nat) → List Char → Place
  | _, [] => p
  | octets, c :: cs =>
    if octets < c.utf8Size then ⟨p.line, p.column + octets⟩
    else if c = '\n' then advance ⟨p.line + 1, 0⟩ (octets - c.utf8Size) cs
    else advance ⟨p.line, p.column + c.utf8Size⟩ (octets - c.utf8Size) cs

/-- A message with the place it is about. -/
def Place.locate (p : Place) (message : String) : String :=
  message ++ " at line " ++ toString p.line ++ " column " ++ toString p.column

/-- The number of octets of a text. -/
def octets (cs : List Char) : Nat := cs.foldr (fun c n => c.utf8Size + n) 0

/-- Where a reader stops, and why. -/
structure Stop where
  why : Fault
  /-- What is left of the text. -/
  rest : List Char
  /-- How many octets further on the fault is. -/
  beyond : Nat

/-- The place of a stop in a text. -/
def Stop.place (s : Stop) (text : List Char) : Place :=
  Place.advance ⟨1, 0⟩ (octets text - octets s.rest + s.beyond) text

/-! ## Readers -/

/-- A reader: a value and what is left after it, or a stop. -/
abbrev Reader (α : Type) := List Char → Except Stop (α × List Char)

/-- Stop before what is left. -/
def stop {α : Type} (why : Fault) (rest : List Char) : Except Stop α := .error ⟨why, rest, 0⟩

/-- Stop behind the next octet. -/
def stopAfter {α : Type} (why : Fault) (rest : List Char) : Except Stop α := .error ⟨why, rest, 1⟩

/-- What a reader makes of a whole text.  Blanks may follow. -/
def Reader.whole {α : Type} (reader : Reader α) (skip : List Char → List Char) (text : String) :
    Except (Fault × Place) α :=
  let result := do
    let (a, rest) ← reader text.toList
    match skip rest with
    | [] => .ok a
    | rest => stopAfter .trailingText rest
  match result with
  | .ok a => .ok a
  | .error s => .error (s.why, s.place text.toList)

end Json

end WorkloadOperator
