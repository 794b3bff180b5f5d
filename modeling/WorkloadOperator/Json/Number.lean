import WorkloadOperator.Json.Basic

/-!
# Reading numbers

A number without point and exponent is an integer if 64 bits hold it, signed
below zero and unsigned above.  Any other number becomes a double: its digits
are gathered into 64 bits, and the result is scaled by a power of ten with one
rounding for each of the two steps.  Digits that do not fit are dropped, and
each dropped digit before the point counts in the exponent.  An exponent that
31 bits do not hold makes any number zero or too great.
-/

namespace WorkloadOperator

namespace Json

/-- A number as it is spelled. -/
structure Spelling where
  /-- Whether it begins with a minus sign. -/
  negative : Bool
  /-- The digits before the point, at least one. -/
  whole : List Char
  /-- The digits after the point, none if there is no point. -/
  fraction : List Char
  /-- Whether the exponent is negative, and its digits, if there is one. -/
  exponent : Option (Bool × List Char)

/-- The greatest number that 64 bits hold. -/
def maxWord : Nat := UInt64.size - 1

/-- The value of a decimal digit. -/
def digitValue (c : Char) : Nat := c.toNat - '0'.toNat

/-- Append digits to a number as long as 64 bits hold it, and count the digits
that were taken and those that were dropped. -/
def gather (n : Nat) : List Char → Nat × Nat × Nat
  | [] => (n, 0, 0)
  | c :: cs =>
    if n * 10 + digitValue c ≤ maxWord then
      let (n', taken, dropped) := gather (n * 10 + digitValue c) cs
      (n', taken + 1, dropped)
    else (n, 0, cs.length + 1)

/-- Scale by a power of ten, at most `308` tens at a time.  The result is
`none` if it is infinite. -/
def scaled : (fuel : Nat) → Float → Int → Option Float
  | 0, f, _ => some f
  | fuel + 1, f, exponent =>
    if exponent.natAbs ≤ 308 then
      let power := Float.ofScientific 1 false exponent.natAbs
      if 0 ≤ exponent then
        if (f * power).isInf then none else some (f * power)
      else some (f / power)
    else if f == 0 then some f
    else if 0 ≤ exponent then none
    else scaled fuel (f / Float.ofScientific 1 false 308) (exponent + 308)

/-- The greatest exponent that is looked at. -/
def maxExponent : Nat := UInt32.size / 2 - 1

/-- The number that digits make up to the greatest exponent, or the digits that
are left when it is exceeded. -/
def gatherExponent (n : Nat) : List Char → Except (List Char) Nat
  | [] => .ok n
  | c :: cs =>
    if n * 10 + digitValue c ≤ maxExponent then gatherExponent (n * 10 + digitValue c) cs
    else .error cs

/-- A double with a sign. -/
def signed (negative : Bool) (f : Float) : Json := .double (if negative then -f else f).toBits

/-- The double nearest to a number of 64 bits times a power of ten. -/
def toDouble (negative : Bool) (significand : Nat) (exponent : Int) : Except (List Char) Json :=
  -- Three divisions by `10 ^ 308` take every number of 64 bits to zero.
  match scaled 4 (UInt64.ofNat significand).toFloat exponent with
  | some f => .ok (signed negative f)
  | none => .error []

/-- The value of a number, or the digits that are left when it proves too
great. -/
def Spelling.value (s : Spelling) : Except (List Char) Json :=
  let (significand, _, dropped) := gather 0 s.whole
  match s.fraction, s.exponent with
  | [], none =>
    if dropped ≠ 0 then toDouble s.negative significand dropped
    else if !s.negative then .ok (.int significand)
    else if 0 < significand ∧ significand ≤ UInt64.size / 2 then .ok (.int (-significand))
    else toDouble true significand 0
  | fraction, exponent =>
    let (significand, taken, _) := gather significand fraction
    let start : Int := (dropped : Int) - taken
    match exponent with
    | none => toDouble s.negative significand start
    | some (below, digits) =>
      match gatherExponent 0 digits with
      | .ok n => toDouble s.negative significand (if below then start - n else start + n)
      | .error rest =>
        if significand = 0 ∨ below then .ok (signed s.negative 0) else .error rest

end Json

end WorkloadOperator
