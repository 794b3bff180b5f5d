/-!
# The shortest decimal of a floating point number

A double stands for every real that rounds to it.  It is written with the fewest
digits that lie in that interval, and among those with the digits nearest to its
exact value.  The search tries one digit, two digits, and so on, and looks at
the two neighbours of the value on the grid of that many digits.  Seventeen
digits always suffice.

All arithmetic is on natural numbers: the value, the ends of the interval and
the grid are fractions over one common denominator.
-/

namespace WorkloadOperator

namespace Decimal

/-- A decimal `digits · 10 ^ exponent`. -/
structure Scientific where
  /-- The digits as a number. -/
  digits : Nat
  /-- The power of ten of the last digit. -/
  exponent : Int
  deriving DecidableEq, Repr

/-- The reals that round to one double, as numerators over a common
denominator. -/
structure Interval where
  /-- The exact value. -/
  value : Nat
  /-- The lower end. -/
  low : Nat
  /-- The upper end. -/
  high : Nat
  /-- The denominator of the three. -/
  denominator : Nat
  /-- Whether the ends themselves round to the double. -/
  closed : Bool

/-- The interval of the finite positive double with these bits. -/
def Interval.ofBits (bits : UInt64) : Interval :=
  let fraction := bits.toNat % 1 <<< 52
  let biased := bits.toNat / 1 <<< 52 % 1 <<< 11
  let mantissa := if biased = 0 then fraction else fraction + 1 <<< 52
  -- The value is `mantissa · 2 ^ power / 2 ^ 1074`.
  let power := biased - 1
  let below := if fraction = 0 ∧ 1 < biased then 1 else 2
  { value := (4 * mantissa) <<< power
    low := (4 * mantissa - below) <<< power
    high := (4 * mantissa + 2) <<< power
    denominator := 4 <<< 1074
    closed := mantissa % 2 = 0 }

/-- Whether `numerator / denominator` rounds to the double. -/
def Interval.contains (i : Interval) (numerator denominator : Nat) : Bool :=
  let n := numerator * i.denominator
  let low := i.low * denominator
  let high := i.high * denominator
  if i.closed then low ≤ n && n ≤ high else low < n && n < high

/-- The number of decimal digits before the point of a positive fraction, zero
or negative if it is below one tenth. -/
def magnitude (numerator denominator : Nat) : Int :=
  if denominator ≤ numerator then (Nat.toDigits 10 (numerator / denominator)).length
  else
    let places := (Nat.toDigits 10 (denominator / numerator)).length
    -- `10 ^ places` exceeds the inverse, `10 ^ (places - 1)` may equal it.
    if denominator ≤ numerator * Nat.pow 10 (places - 1) then 2 - (places : Int) else 1 - (places : Int)

/-- The better neighbour of the value on the grid of `count` digits, if one of
the two is in the interval. -/
def Interval.onGrid? (i : Interval) (count : Nat) : Option Scientific :=
  let exponent := magnitude i.value i.denominator - count
  let up := Nat.pow 10 (-exponent).toNat
  let down := Nat.pow 10 exponent.toNat
  -- One grid unit is `down / up`.
  let unit := i.denominator * down
  let scaled := i.value * up
  let below := scaled / unit
  let above := below + 1
  let hasBelow := below ≠ 0 && i.contains (below * down) up
  let hasAbove := i.contains (above * down) up
  let rest := scaled % unit
  if hasBelow && (!hasAbove || 2 * rest < unit || (2 * rest = unit && below % 2 = 0)) then
    some ⟨below, exponent⟩
  else if hasAbove then some ⟨above, exponent⟩
  else none

/-- The shortest decimal of the finite positive double with these bits. -/
def shortest (bits : UInt64) : Scientific :=
  let i := Interval.ofBits bits
  ((List.range 17).findSome? fun n => i.onGrid? (n + 1)).getD ⟨0, 0⟩

/-- Drop trailing zeros of the digits, at most `fuel` of them. -/
def Scientific.trim : (fuel : Nat) → Scientific → Scientific
  | 0, d => d
  | fuel + 1, d =>
    if d.digits % 10 = 0 ∧ d.digits ≠ 0 then trim fuel ⟨d.digits / 10, d.exponent + 1⟩ else d

/-- How a decimal is laid out. -/
structure Layout where
  /-- The least number of digits before the point that is written without an
  exponent.  It is negative if zeros stand between the point and the digits. -/
  least : Int
  /-- The greatest number of digits before the point that is written without an
  exponent. -/
  most : Int
  deriving DecidableEq

/-- The text of a positive decimal.  There is always a point with digits on
both of its sides, unless an exponent follows.  An exponent always has a sign. -/
def Layout.text (layout : Layout) (d : Scientific) : String :=
  let digits := Nat.toDigits 10 d.digits
  let before : Int := digits.length + d.exponent
  if layout.least ≤ before && before ≤ layout.most then
    if 0 ≤ d.exponent then
      String.ofList (digits ++ List.replicate d.exponent.toNat '0' ++ ['.', '0'])
    else if 0 < before then
      String.ofList (digits.take before.toNat ++ ['.'] ++ digits.drop before.toNat)
    else String.ofList (['0', '.'] ++ List.replicate (-before).toNat '0' ++ digits)
  else
    let mantissa := match digits with
      | [d] => [d]
      | d :: ds => d :: '.' :: ds
      | [] => []
    let sign := if before ≤ 0 then '-' else '+'
    String.ofList (mantissa ++ 'e' :: sign :: Nat.toDigits 10 (before - 1).natAbs)

/-- The text of the finite double with these bits. -/
def Layout.double (layout : Layout) (bits : UInt64) : String :=
  let sign := if 1 <<< 63 ≤ bits.toNat then "-" else ""
  let size := bits.toNat % 1 <<< 63
  if size = 0 then sign ++ "0.0"
  else sign ++ layout.text (Scientific.trim 17 (shortest (UInt64.ofNat size)))

end Decimal

end WorkloadOperator
