import WorkloadOperator.Json.Outline
import WorkloadOperator.Text.Blank

/-!
# Moments

A moment is a second of the calendar in universal time.  It is kept as its
calendar fields, so that writing a moment and reading it again needs no
arithmetic, and a leap second stays what it is.

A moment that was read from the clock while the program ran is not known
beforehand.  It is kept as just that, and written `<now>`.

Reading is lenient: blanks may surround the numbers, fractions of a second are
cut, and the offset from universal time may be spelled in several ways.
-/

namespace WorkloadOperator

/-- The calendar fields of a second. -/
structure Civil where
  year : Int
  month : Nat
  day : Nat
  hour : Nat
  minute : Nat
  second : Nat
  deriving DecidableEq, Repr

namespace Civil

/-- Whether the year has a leap day. -/
def isLeap (year : Int) : Bool := year % 4 = 0 && (year % 100 ≠ 0 || year % 400 = 0)

/-- The number of days of a month. -/
def daysOf (year : Int) (month : Nat) : Nat :=
  if month = 2 then (if isLeap year then 29 else 28)
  else if month = 4 ∨ month = 6 ∨ month = 9 ∨ month = 11 then 30 else 31

/-- The first and the last year of the calendar. -/
def firstYear : Int := -262143

/-- The last year of the calendar. -/
def lastYear : Int := 262142

/-- The fields name a second of the calendar. -/
def Valid (c : Civil) : Prop :=
  (firstYear ≤ c.year ∧ c.year ≤ lastYear) ∧ (1 ≤ c.month ∧ c.month ≤ 12) ∧
  (1 ≤ c.day ∧ c.day ≤ daysOf c.year c.month) ∧ c.hour ≤ 23 ∧ c.minute ≤ 59 ∧ c.second ≤ 60

instance (c : Civil) : Decidable c.Valid := by unfold Valid; infer_instance

/-- The same time on the next day. -/
def nextDay (c : Civil) : Civil :=
  if c.day < daysOf c.year c.month then { c with day := c.day + 1 }
  else if c.month < 12 then { c with month := c.month + 1, day := 1 }
  else { c with year := c.year + 1, month := 1, day := 1 }

/-- The same time on the day before. -/
def dayBefore (c : Civil) : Civil :=
  if 1 < c.day then { c with day := c.day - 1 }
  else if 1 < c.month then { c with month := c.month - 1, day := daysOf c.year (c.month - 1) }
  else { c with year := c.year - 1, month := 12, day := 31 }

/-- Go back by a number of minutes, less than a day in either direction. -/
def minus (c : Civil) (minutes : Int) : Civil :=
  let total : Int := (c.hour * 60 + c.minute : Nat) - minutes
  let inDay := (total % 1440).toNat
  let c' := { c with hour := inDay / 60, minute := inDay % 60 }
  if total < 0 then c'.dayBefore else if 1440 ≤ total then c'.nextDay else c'

/-- Digits with zeros in front, up to a width. -/
def padded (width n : Nat) : List Char :=
  let digits := Nat.toDigits 10 n
  List.replicate (width - digits.length) '0' ++ digits

/-- The text of a second in universal time.  Years of other than four digits
have a sign. -/
def chars (c : Civil) : List Char :=
  let sign := if c.year < 0 then ['-'] else if 9999 < c.year then ['+'] else []
  sign ++ padded 4 c.year.natAbs ++ '-' :: padded 2 c.month ++ '-' :: padded 2 c.day ++
    'T' :: padded 2 c.hour ++ ':' :: padded 2 c.minute ++ ':' :: padded 2 c.second ++ ['Z']

/-! ## Reading -/

/-- Why a text is no moment. -/
inductive Fault where
  /-- The text ends too early. -/
  | tooShort
  /-- A character has no place where it stands. -/
  | invalid
  /-- A number is outside its range, or the calendar has no such day. -/
  | outOfRange
  /-- Something follows. -/
  | tooLong
  /-- The moment is outside the calendar in universal time. -/
  | impossible
  deriving DecidableEq, Repr

/-- The wording of a fault. -/
def Fault.message : Fault → String
  | .tooShort => "premature end of input"
  | .invalid => "input contains invalid characters"
  | .outOfRange => "input is out of range"
  | .tooLong => "trailing input"
  | .impossible => "no possible date and time matching input"

/-- A value and what is left of the text, or a fault. -/
abbrev Reader (α : Type) := List Char → Except Fault (α × List Char)

/-- The digits in front of a text, at most `most` of them if that is given. -/
def digits (most : Option Nat) : Reader Nat
  | [] => .error .tooShort
  | cs =>
    let all := (match most with | some n => cs.take n | none => cs).takeWhile Char.isDigit
    if all = [] then .error .invalid
    else .ok (Nat.ofDigitChars 10 all 0, cs.drop all.length)

/-- A number from `low` to `high` of at most two digits, after blanks. -/
def number (low high : Nat) : Reader Nat := fun cs =>
  match digits (some 2) (cs.dropWhile isBlank) with
  | .error e => .error e
  | .ok (n, rest) => if low ≤ n ∧ n ≤ high then .ok (n, rest) else .error .outOfRange

/-- A year: four digits, or any number of digits after a sign. -/
def readYear : Reader Int := fun cs =>
  let bounded (r : Except Fault (Nat × List Char)) (negative : Bool) :
      Except Fault (Int × List Char) :=
    match r with
    | .error e => .error e
    | .ok (n, rest) =>
      let year : Int := if negative then -n else n
      if Int32.minValue.toInt ≤ year ∧ year ≤ Int32.maxValue.toInt then .ok (year, rest)
      else .error .outOfRange
  match cs.dropWhile isBlank with
  | '-' :: rest => bounded (digits none rest) true
  | '+' :: rest => bounded (digits none rest) false
  | rest => bounded (digits (some 4) rest) false

/-- A given character after blanks. -/
def mark (c : Char) (cs : List Char) : Except Fault (List Char) :=
  match cs.dropWhile isBlank with
  | [] => .error .tooShort
  | d :: rest => if d = c then .ok rest else .error .invalid

/-- Cut the fraction of a second, if there is one. -/
def cutFraction : List Char → Except Fault (List Char)
  | '.' :: rest =>
    match digits none rest with
    | .error e => .error e
    | .ok (_, rest) => .ok rest
  | rest => .ok rest

/-- Two digits of an offset, of which the first is at most `most`. -/
def offsetDigits (most : Nat) : Reader Nat := fun cs =>
  match cs with
  | [] => .error .tooShort
  | [c] => if c.utf8Size < 2 then .error .tooShort else .error .invalid
  | a :: b :: rest =>
    if a.isDigit ∧ b.isDigit then
      if a.toNat - '0'.toNat ≤ most then .ok (Nat.ofDigitChars 10 [a, b] 0, rest)
      else .error .outOfRange
    else .error .invalid

/-- The offset from universal time in minutes. -/
def readOffset : Reader Int := fun cs =>
  let signed (negative : Bool) (cs : List Char) : Except Fault (Int × List Char) := do
    let (hours, rest) ← offsetDigits 9 cs
    let (minutes, rest) ← offsetDigits 5 (rest.dropWhile fun c => c = ':' || isBlank c)
    let size : Int := (hours * 60 + minutes : Nat)
    .ok (if negative then -size else size, rest)
  match cs with
  | [] => .error .tooShort
  | c :: rest =>
    if (cs.take 3).map Char.toUpper = ['U', 'T', 'C'] then .ok (0, cs.drop 3)
    else if c = 'Z' ∨ c = 'z' then .ok (0, rest)
    else if c = '+' then signed false rest
    else if c = '-' ∨ c = '\u2212' then signed true rest
    else .error .invalid

/-- The second that a text names, in universal time. -/
def read (cs : List Char) : Except Fault Civil := do
  let (year, cs) ← readYear cs
  let (month, cs) ← number 1 12 (← mark '-' cs)
  let (day, cs) ← number 1 31 (← mark '-' cs)
  let cs ← match cs with
    | [] => .error .tooShort
    | c :: rest => if c = 't' ∨ c = 'T' ∨ c = ' ' then .ok rest else .error .invalid
  let (hour, cs) ← number 0 23 cs
  let (minute, cs) ← number 0 59 (← mark ':' cs)
  let (second, cs) ← number 0 60 (← mark ':' cs)
  let cs ← cutFraction cs
  let (offset, cs) ← readOffset (cs.dropWhile isBlank)
  if cs.dropWhile isBlank ≠ [] then .error .tooLong
  else
    let local' : Civil := ⟨year, month, day, hour, minute, second⟩
    if ¬ local'.Valid ∨ 1440 ≤ offset.natAbs then .error .outOfRange
    else .ok (if offset = 0 then local' else local'.minus offset)

end Civil

/-- A moment. -/
inductive Moment where
  /-- Read from the clock while the program ran. -/
  | now
  /-- A known second. -/
  | at (c : Civil) (valid : c.Valid)
  deriving DecidableEq

namespace Moment

/-- The text of a moment. -/
def text : Moment → String
  | .now => "<now>"
  | .at c _ => String.ofList c.chars

/-- A moment as JSON. -/
def encode (m : Moment) : Json := .str m.text

/-- The known second that a text names. -/
def ofText (s : String) : Except Civil.Fault Moment :=
  match Civil.read s.toList with
  | .error e => .error e
  | .ok c => if h : c.Valid then .ok (.at c h) else .error .impossible

/-- A known second. -/
def decode : Json → Decode.Result Moment
  | .str s =>
    match ofText s with
    | .ok m => .ok m
    | .error e => .error (.malformed e.message)
  | j => .error (.mistyped j "an RFC 3339 formatted date and time string")

/-- The outline of a known second. -/
def outline : Outline := .plain decode

end Moment

end WorkloadOperator
