import WorkloadOperator.Api.Failure
import WorkloadOperator.Api.Message
import WorkloadOperator.Text.Hex

/-!
# Targets

A message is sent to a target, which is one text: the path, a question mark, and
the parameters.  Only a message that reads one object ends with its path.  The
names in the path are written as they are.  So a name may itself hold a question
mark, behind which parameters begin, or a number sign, behind which nothing
counts.

`Message.addressed` gives a message as it arrives, or the reason why its target
is none.
-/

namespace WorkloadOperator

namespace Api

namespace Target

/-- The longest target, in octets. -/
def longest : Nat := UInt16.size - 2

/-- Whether a character may stand in a path as it is. -/
def mayStandInPath (c : Char) : Bool :=
  ' ' < c && c ≠ '<' && c ≠ '>' && c ≠ '\x60' && c ≠ '\x7F'

/-- Whether a character may stand among the parameters as it is. -/
def mayStandInQuery (c : Char) : Bool :=
  ' ' < c && c ≠ '\x22' && c ≠ '<' && c ≠ '>' && c ≠ '\x7F'

/-- How many octets a text takes as a part of a parameter: letters, digits, four
marks and the blank take one, any other octet takes three. -/
def size (text : String) : Nat :=
  let one (b : UInt8) : Bool :=
    let c := Char.ofNat b.toNat
    c.isAlphanum || c = ' ' || c = '*' || c = '-' || c = '.' || c = '_'
  text.toUTF8.toList.foldr (fun b n => (if b < 0x80 ∧ one b then 1 else 3) + n) 0

/-- The octets of a part of a parameter: a plus sign is a blank, and a percent
sign begins an octet in hexadecimal. -/
def octets : List UInt8 → List UInt8
  | [] => []
  | 0x2B :: rest => 0x20 :: octets rest
  | 0x25 :: a :: b :: rest =>
    match hexValue? (Char.ofNat a.toNat), hexValue? (Char.ofNat b.toNat) with
    | some m, some n => UInt8.ofNat (16 * m + n) :: octets rest
    | _, _ => 0x25 :: octets (a :: b :: rest)
  | b :: rest => b :: octets rest

/-- The text of a part of a parameter. -/
def part (cs : List Char) : String :=
  Utf8.decodeLossy (octets (String.ofList cs).toUTF8.toList)

/-- The parameters that a text between ampersands is: a key and a value behind
the first equality sign, or nothing. -/
def parameter? (cs : List Char) : Option (String × String) :=
  if cs = [] then none
  else some (part (cs.takeWhile (· ≠ '=')), part ((cs.dropWhile (· ≠ '=')).drop 1))

/-- The parameters in a text. -/
def parameters (cs : List Char) : List (String × String) :=
  (cs.splitOn '&').filterMap parameter?

end Target

namespace Message

/-- What stands between the path and the parameters of a message. -/
def separator (m : Message) : List Char := if m.method = .get ∧ m.query = [] then [] else ['?']

/-- The number of octets of the target of a message. -/
def targetSize (m : Message) : Nat :=
  m.path.utf8ByteSize + m.separator.length +
    m.query.foldr (fun p n => 2 + Target.size p.1 + Target.size p.2 + n) 0

/-- A message as it arrives. -/
def addressed (m : Message) : Except Refusal Message :=
  let path := m.path.toList.takeWhile fun c => c ≠ '?' && c ≠ '#'
  let rest := m.path.toList.drop path.length
  let query := (rest.drop 1).takeWhile (· ≠ '#')
  if Target.longest < m.targetSize then .error .longTarget
  else if !path.all Target.mayStandInPath then .error .badTarget
  else
    match rest with
    | [] => .ok m
    | '?' :: _ =>
      if !query.all Target.mayStandInQuery then .error .badTarget
      else .ok { m with
        path := String.ofList path
        -- The separator belongs to the last value here.
        query :=
          if path.length + 1 + query.length = m.path.length then
            Target.parameters (query ++ m.separator) ++ m.query
          else Target.parameters query }
    | _ => .ok { m with path := String.ofList path, query := [] }

end Message

end Api

end WorkloadOperator
