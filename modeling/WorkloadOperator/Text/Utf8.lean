/-!
# Reading UTF-8

A machine that reads octets one by one.  Between characters it owes nothing.
Inside a character it knows how many octets are owed and the bounds of the next
one, and the bounds of the second octet shut out overlong forms, surrogates and
numbers above the last code point.

`Utf8.decode` gives the text, or the place where it stops being one.
`Utf8.decodeLossy` puts a replacement character in the place of octets that are
no text.
-/

namespace WorkloadOperator

namespace Utf8

/-- Why octets are no text. -/
inductive Fault where
  /-- The octets from `start` on begin a character, and its first `length`
  octets can not go on with the octet that follows. -/
  | invalid (start : Nat) (length : Nat)
  /-- The text ends inside the character that begins at `start`. -/
  | incomplete (start : Nat)
  deriving DecidableEq, Repr

/-- The wording of a fault. -/
def Fault.message : Fault → String
  | .invalid start length =>
    "invalid utf-8 sequence of " ++ toString length ++ " bytes from index " ++ toString start
  | .incomplete start => "incomplete utf-8 byte sequence from index " ++ toString start

/-- A character that has been begun. -/
structure Begun where
  /-- Where its first octet stands. -/
  start : Nat
  /-- How many of its octets were read. -/
  read : Nat
  /-- How many octets are owed, at least one. -/
  owed : Nat
  /-- The least next octet. -/
  low : Nat
  /-- The greatest next octet. -/
  high : Nat
  /-- The number made of the octets read. -/
  code : Nat

/-- What the first octet of a character says: a whole character, a begun one,
or none. -/
def lead (start octet : Nat) : Option (Char ⊕ Begun) :=
  if octet < 0x80 then some (.inl (Char.ofNat octet))
  else if 0xC2 ≤ octet ∧ octet ≤ 0xDF then some (.inr ⟨start, 1, 1, 0x80, 0xBF, octet - 0xC0⟩)
  else if 0xE0 ≤ octet ∧ octet ≤ 0xEF then
    some (.inr ⟨start, 1, 2, if octet = 0xE0 then 0xA0 else 0x80,
      if octet = 0xED then 0x9F else 0xBF, octet - 0xE0⟩)
  else if 0xF0 ≤ octet ∧ octet ≤ 0xF4 then
    some (.inr ⟨start, 1, 3, if octet = 0xF0 then 0x90 else 0x80,
      if octet = 0xF4 then 0x8F else 0xBF, octet - 0xF0⟩)
  else none

/-- What another octet of a begun character gives, if the octet is within its
bounds: the whole character, or a character that is still begun. -/
def Begun.advance (b : Begun) (octet : Nat) : Option (Char ⊕ Begun) :=
  if b.low ≤ octet ∧ octet ≤ b.high then
    let code := b.code * 64 + (octet - 0x80)
    if b.owed = 1 then some (.inl (Char.ofNat code))
    else some (.inr ⟨b.start, b.read + 1, b.owed - 1, 0x80, 0xBF, code⟩)
  else none

/-- Read octets from position `position` on, with the characters read so far in
reverse. -/
def decodeFrom (position : Nat) (begun : Option Begun) (done : List Char) :
    List Nat → Except Fault (List Char)
  | [] =>
    match begun with
    | none => .ok done.reverse
    | some b => .error (.incomplete b.start)
  | octet :: rest =>
    let read := match begun with
      | none => (lead position octet, Fault.invalid position 1)
      | some b => (b.advance octet, Fault.invalid b.start b.read)
    match read.1 with
    | none => .error read.2
    | some (.inl c) => decodeFrom (position + 1) none (c :: done) rest
    | some (.inr b) => decodeFrom (position + 1) (some b) done rest

/-- The text that the octets are. -/
def decode (octets : List UInt8) : Except Fault String :=
  (decodeFrom 0 none [] (octets.map UInt8.toNat)).map String.ofList

/-- The character that stands for octets that are no text. -/
def replacement : Char := '\uFFFD'

/-- Read octets, with the characters read so far in reverse.  The longest
beginning of a character that does not go on becomes one replacement. -/
def decodeLossyFrom (begun : Option Begun) (done : List Char) : List Nat → List Char
  | [] => (if begun.isSome then replacement :: done else done).reverse
  | octet :: rest =>
    let begin (done : List Char) : Option Begun × List Char :=
      match lead 0 octet with
      | none => (none, replacement :: done)
      | some (.inl c) => (none, c :: done)
      | some (.inr b) => (some b, done)
    let (begun, done) := match begun with
      | none => begin done
      | some b =>
        match b.advance octet with
        | none => begin (replacement :: done)
        | some (.inl c) => (none, c :: done)
        | some (.inr b) => (some b, done)
    decodeLossyFrom begun done rest

/-- The text that the octets are, with replacements where they are none. -/
def decodeLossy (octets : List UInt8) : String :=
  String.ofList (decodeLossyFrom none [] (octets.map UInt8.toNat))

end Utf8

end WorkloadOperator
