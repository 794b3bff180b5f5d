import WorkloadOperator.Decimal.Shortest
import WorkloadOperator.Json.Basic

/-!
# Writing JSON

The compact text of a value: no blanks, members in their order, and only those
characters escaped that a text may not hold.
-/

namespace WorkloadOperator

namespace Json

/-- Doubles are written with the fewest digits that read back, with an exponent
from `10 ^ 16` on and below `0.00001`. -/
def numberLayout : Decimal.Layout := ⟨-4, 16⟩

/-- One character inside a JSON text. -/
def escapedChar (c : Char) : List Char :=
  match c with
  | '\x22' => ['\\', '\x22']
  | '\\' => ['\\', '\\']
  | '\x08' => ['\\', 'b']
  | '\t' => ['\\', 't']
  | '\n' => ['\\', 'n']
  | '\x0c' => ['\\', 'f']
  | '\r' => ['\\', 'r']
  | c =>
    if c.toNat < 0x20 then
      ['\\', 'u', '0', '0', Nat.digitChar (c.toNat / 16), Nat.digitChar (c.toNat % 16)]
    else [c]

/-- A text between quotation marks. -/
def stringText (s : String) : String :=
  String.ofList ('\x22' :: s.toList.flatMap escapedChar ++ ['\x22'])

mutual

/-- The compact text of a value. -/
def text : Json → String
  | .null => "null"
  | .bool b => if b then "true" else "false"
  | .int i => toString i
  | .double bits => numberLayout.double bits
  | .str s => stringText s
  | .arr items => "[" ++ itemsText items ++ "]"
  | .obj members => "\x7b" ++ membersText members ++ "\x7d"

/-- The texts of the items of a sequence. -/
def itemsText : List Json → String
  | [] => ""
  | [x] => text x
  | x :: xs => text x ++ "," ++ itemsText xs

/-- The texts of the members of an object. -/
def membersText : List (String × Json) → String
  | [] => ""
  | [(key, x)] => stringText key ++ ":" ++ text x
  | (key, x) :: xs => stringText key ++ ":" ++ text x ++ "," ++ membersText xs

end

end Json

end WorkloadOperator
