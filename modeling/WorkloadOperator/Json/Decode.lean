import WorkloadOperator.Json.Printer
import WorkloadOperator.Text.Quoted

/-!
# Reading typed values out of JSON

A decoder gives a typed value or the first thing that is wrong.

The members of an object are read in ascending order of their keys.  A member
that is missing is reported only after all members that are there were read,
and unknown members are passed over.  So a decoder of a structure first calls
`member?` for its fields in the order of their keys, and then `required` in the
order in which the fields are declared.

Some structures may also stand as a sequence of their fields in the order of
declaration: `item` reads those one after the other, and `finish` refuses
surplus ones.
-/

namespace WorkloadOperator

namespace Decode

/-- What is wrong with a value. -/
inductive Error where
  /-- A value of another kind stands where `expected` is due. -/
  | mistyped (found : Json) (expected : String)
  /-- The value is of the right kind, but it is not `expected`. -/
  | misvalued (found : Json) (expected : String)
  /-- A text names none of the variants. -/
  | unknownVariant (name : String) (variants : List String)
  /-- A member is missing. -/
  | missing (key : String)
  /-- A member is given twice. -/
  | repeated (key : String)
  /-- A sequence of fields ends too early. -/
  | tooShort (length : Nat) (name : String) (fields : Nat)
  /-- A sequence of fields has too many items. -/
  | tooLong (length : Nat)
  /-- A text is not in the form that is due, and why. -/
  | malformed (why : String)
  deriving DecidableEq

/-- How a message names a value it did not expect. -/
def describe : Json → String
  | .null => "null"
  | .bool b => "boolean `" ++ (if b then "true" else "false") ++ "`"
  | .int i => "integer `" ++ toString i ++ "`"
  | .double bits => "floating point `" ++ Json.numberLayout.double bits ++ "`"
  | .str s => "string " ++ quoted s
  | .arr _ => "sequence"
  | .obj _ => "map"

/-- How a message lists the names of variants. -/
def listVariants : List String → String
  | [] => "there are no variants"
  | [a] => "expected `" ++ a ++ "`"
  | [a, b] => "expected `" ++ a ++ "` or `" ++ b ++ "`"
  | names => "expected one of " ++ ", ".intercalate (names.map fun n => "`" ++ n ++ "`")

/-- The wording of an error. -/
def Error.message : Error → String
  | .mistyped found expected => "invalid type: " ++ describe found ++ ", expected " ++ expected
  | .misvalued found expected => "invalid value: " ++ describe found ++ ", expected " ++ expected
  | .unknownVariant name variants => "unknown variant `" ++ name ++ "`, " ++ listVariants variants
  | .missing key => "missing field `" ++ key ++ "`"
  | .repeated key => "duplicate field `" ++ key ++ "`"
  | .tooShort length name fields =>
    "invalid length " ++ toString length ++ ", expected struct " ++ name ++ " with " ++
      toString fields ++ " element" ++ (if fields = 1 then "" else "s")
  | .tooLong length => "invalid length " ++ toString length ++ ", expected fewer elements in array"
  | .malformed why => why

/-- The result of a decoder. -/
abbrev Result (α : Type) := Except Error α

/-! ## Plain values -/

/-- A text. -/
def string : Json → Result String
  | .str s => .ok s
  | j => .error (.mistyped j "a string")

/-- A truth value. -/
def boolean : Json → Result Bool
  | .bool b => .ok b
  | j => .error (.mistyped j "a boolean")

/-- An integer from `low` to `high`, of the type with this name. -/
def integer (low high : Int) (name : String) : Json → Result Int
  | .int i => if low ≤ i ∧ i ≤ high then .ok i else .error (.misvalued (.int i) name)
  | j => .error (.mistyped j name)

/-- A signed integer of 64 bits. -/
def int64 (j : Json) : Result Int64 :=
  (integer Int64.minValue.toInt Int64.maxValue.toInt "i64" j).map Int64.ofInt

/-- A signed integer of 32 bits. -/
def int32 (j : Json) : Result Int32 :=
  (integer Int32.minValue.toInt Int32.maxValue.toInt "i32" j).map Int32.ofInt

/-- An unsigned integer of 16 bits. -/
def uint16 (j : Json) : Result Nat := (integer 0 (UInt16.size - 1) "u16" j).map Int.toNat

/-- A count. -/
def count (j : Json) : Result Nat := (integer 0 (UInt64.size - 1) "usize" j).map Int.toNat

/-- A value, or null for none. -/
def optional {α : Type} (decode : Json → Result α) : Json → Result (Option α)
  | .null => .ok none
  | j => (decode j).map some

/-- A sequence of values. -/
def list {α : Type} (decode : Json → Result α) : Json → Result (List α)
  | .arr items => items.mapM decode
  | j => .error (.mistyped j "a sequence")

/-- A dictionary of texts. -/
def dict : Json → Result (Dict String String)
  | .obj members =>
    (members.mapM fun m => (string m.2).map fun s => (m.1, s)).map Dict.ofList
  | j => .error (.mistyped j "a map")

/-- One of several named values.  It stands as its name, or as an object whose
only key is the name and whose value is null. -/
def variant {α : Type} (variants : List (String × α)) : Json → Result α
  | .str name => named name
  | .obj [(name, content)] => do
    let a ← named name
    match content with
    | .null => .ok a
    | j => .error (.mistyped j "unit")
  | .obj members => .error (.misvalued (.obj members) "map with a single key")
  | j => .error (.mistyped j "string or map")
where
  /-- The value with this name. -/
  named (name : String) : Result α :=
    match variants.find? (fun v => v.1 = name) with
    | some v => .ok v.2
    | none => .error (.unknownVariant name (variants.map Prod.fst))

/-! ## Structures -/

/-- The member with this key, if it is there. -/
def member? {α : Type} (key : String) (decode : Json → Result α) (members : List (String × Json)) :
    Result (Option α) :=
  match Entries.get? key members with
  | none => .ok none
  | some j => (decode j).map some

/-- The member with this key, where null is the same as no member. -/
def nullable? {α : Type} (key : String) (decode : Json → Result α)
    (members : List (String × Json)) : Result (Option α) :=
  (member? key (optional decode) members).map Option.join

/-- A member that has to be there. -/
def required {α : Type} (key : String) : Option α → Result α
  | some a => .ok a
  | none => .error (.missing key)

/-- A structure that may stand as a sequence of its fields. -/
structure Positional where
  /-- The name of the structure. -/
  name : String
  /-- The number of its fields. -/
  fields : Nat

/-- The field at a position, with the value it has if the sequence is too
short. -/
def Positional.item {α : Type} (p : Positional) (position : Nat) (decode : Json → Result α)
    (absent : Option α) (items : List Json) : Result α :=
  match items[position]?, absent with
  | some j, _ => decode j
  | none, some a => .ok a
  | none, none => .error (.tooShort position p.name p.fields)

/-- Refuse items beyond the last field. -/
def Positional.finish {α : Type} (p : Positional) (items : List Json) (a : α) : Result α :=
  if items.length ≤ p.fields then .ok a else .error (.tooLong items.length)

/-- Read a structure from its members or from its fields in order. -/
def Positional.decode {α : Type} (p : Positional) (ofMembers : List (String × Json) → Result α)
    (ofItems : List Json → Result α) : Json → Result α
  | .obj members => ofMembers members
  | .arr items => do
    let a ← ofItems items
    p.finish items a
  | j => .error (.mistyped j ("struct " ++ p.name))

/-- A text that has to be `expected`. -/
def fixed (expected : String) (j : Json) : Result Unit := do
  let s ← string j
  if s = expected then .ok () else .error (.misvalued (.str s) expected)

/-- Read an object of the cluster interface, of the kind with this name. -/
def resource {α : Type} (name : String) (ofMembers : List (String × Json) → Result α) :
    Json → Result α
  | .obj members => ofMembers members
  | j => .error (.mistyped j name)

end Decode

end WorkloadOperator
