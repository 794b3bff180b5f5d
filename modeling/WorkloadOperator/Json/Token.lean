import WorkloadOperator.Json.Fault
import WorkloadOperator.Json.Number
import WorkloadOperator.Text.Hex

/-!
# Words, numbers and quoted texts

The readers of what a JSON text is made of.  Each comes in two forms.  One gives
the value and refuses what has none: halves of surrogate pairs that stand alone,
and numbers that are too great.  The other passes over the token and looks at its
spelling only.
-/

namespace WorkloadOperator

namespace Json

/-- Drop the blanks between tokens. -/
def skipBlank : List Char → List Char
  | [] => []
  | c :: cs => if c = ' ' ∨ c = '\n' ∨ c = '\t' ∨ c = '\r' then skipBlank cs else c :: cs

/-! ## Words -/

/-- The rest of a word whose first letter was read. -/
def word : (letters : List Char) → Reader Unit
  | [], rest => .ok ((), rest)
  | _ :: _, [] => stop .endInValue []
  | l :: ls, c :: cs => if l = c then word ls cs else stopAfter .expectedWord (c :: cs)

/-! ## Quoted texts -/

/-- Four hexadecimal digits are due.  They are looked at before they are read. -/
def fourDigits (cs : List Char) : Except Stop Unit :=
  let four := cs.take 4
  if four.length = 4 ∧ four.all fun c => (hexValue? c).isSome then .ok ()
  else if octets four < 4 then stop .endInString []
  else .error ⟨.badEscape, cs, 4⟩

/-- The character of an escape of one letter. -/
def namedEscape? : Char → Option Char
  | '\x22' => some '\x22'
  | '\\' => some '\\'
  | '/' => some '/'
  | 'b' => some '\x08'
  | 'f' => some '\x0c'
  | 'n' => some '\n'
  | 'r' => some '\r'
  | 't' => some '\t'
  | _ => none

/-- What a number of four digits gives: a character, or the first half of a
pair. -/
def unit? (first : Option Nat) (code : Nat) : Option (Char ⊕ Nat) :=
  match first with
  | none =>
    if 0xD800 ≤ code ∧ code ≤ 0xDBFF then some (.inr code)
    else if 0xDC00 ≤ code ∧ code ≤ 0xDFFF then none
    else some (.inl (Char.ofNat code))
  | some first =>
    if 0xDC00 ≤ code ∧ code ≤ 0xDFFF then
      some (.inl (Char.ofNat (0x10000 + (first - 0xD800) * 0x400 + (code - 0xDC00))))
    else none

/-- Where a reader stands inside a quoted text. -/
inductive Within where
  /-- Between two characters. -/
  | plain
  /-- After a backslash. -/
  | escape
  /-- Inside a number of four digits, with the digits owed, the number so far,
  and the first half of the pair if this is the second. -/
  | digits (owed : Nat) (code : Nat) (first : Option Nat)
  /-- After the first half of a pair. -/
  | half (first : Nat)
  /-- After the first half of a pair and a backslash. -/
  | halfEscape (first : Nat)

/-- The rest of a quoted text after its opening mark, with the characters read
so far in reverse. -/
def quotedFrom (within : Within) (done : List Char) : Reader String
  | [] => stop .endInString []
  | c :: cs =>
    match within with
    | .plain =>
      if c = '\x22' then .ok (String.ofList done.reverse, cs)
      else if c = '\\' then quotedFrom .escape done cs
      else if c.toNat < 0x20 then stop .control cs
      else quotedFrom .plain (c :: done) cs
    | .escape =>
      if c = 'u' then
        match fourDigits cs with
        | .error s => .error s
        | .ok () => quotedFrom (.digits 4 0 none) done cs
      else match namedEscape? c with
        | some e => quotedFrom .plain (e :: done) cs
        | none => stopAfter .badEscape (c :: cs)
    | .digits owed code first =>
      let code := code * 16 + (hexValue? c).getD 0
      if 1 < owed then quotedFrom (.digits (owed - 1) code first) done cs
      else match unit? first code with
        | some (.inl e) => quotedFrom .plain (e :: done) cs
        | some (.inr half) => quotedFrom (.half half) done cs
        | none => stop .loneSurrogate cs
    | .half first =>
      if c = '\\' then quotedFrom (.halfEscape first) done cs else stopAfter .halfPair (c :: cs)
    | .halfEscape first =>
      if c = 'u' then
        match fourDigits cs with
        | .error s => .error s
        | .ok () => quotedFrom (.digits 4 0 (some first)) done cs
      else stopAfter .halfPair (c :: cs)

/-- The rest of a quoted text after its opening mark. -/
def quotedText : Reader String := quotedFrom .plain []

/-- Pass over the rest of a quoted text, after a backslash or not. -/
def skipQuotedFrom (escaped : Bool) : Reader Unit
  | [] => stop .endInString []
  | c :: cs =>
    if escaped then
      if c = 'u' then
        match fourDigits cs with
        | .error s => .error s
        | .ok () => skipQuotedFrom false cs
      else if (namedEscape? c).isSome then skipQuotedFrom false cs
      else stopAfter .badEscape (c :: cs)
    else if c = '\x22' then .ok ((), cs)
    else if c.toNat < 0x20 then stop .control (c :: cs)
    else skipQuotedFrom (c = '\\') cs

/-- Pass over the rest of a quoted text after its opening mark. -/
def skipQuoted : Reader Unit := skipQuotedFrom false

/-! ## Numbers -/

/-- Split off the leading digits. -/
def spanDigits (cs : List Char) : List Char × List Char :=
  (cs.takeWhile Char.isDigit, cs.dropWhile Char.isDigit)

/-- The digits before the point, at least one.  Only a lone digit may be zero. -/
def wholeDigits (ending : Fault) : Reader (List Char)
  | [] => stop ending []
  | c :: cs =>
    if !c.isDigit then stopAfter .badNumber (c :: cs)
    else
      let (more, rest) := spanDigits cs
      if c = '0' ∧ more ≠ [] then stopAfter .badNumber cs else .ok (c :: more, rest)

/-- The digits after a point, at least one. -/
def fractionDigits (ending : Fault) : Reader (List Char) := fun cs =>
  match spanDigits cs with
  | ([], []) => stop ending []
  | ([], rest) => stopAfter .badNumber rest
  | (digits, rest) => .ok (digits, rest)

/-- The sign and the digits of an exponent, at least one. -/
def exponentDigits (ending : Fault) : Reader (Bool × List Char) := fun cs =>
  let (negative, rest) := match cs with
    | '+' :: rest => (false, rest)
    | '-' :: rest => (true, rest)
    | rest => (false, rest)
  match rest with
  | [] => stop ending []
  | c :: rest =>
    if !c.isDigit then stopAfter .badNumber (c :: rest)
    else
      let (more, rest) := spanDigits rest
      .ok ((negative, c :: more), rest)

/-- A number after its sign, as it is spelled.  `ending` is the fault if the text
ends where a digit is due. -/
def spelling (ending : Fault) (negative : Bool) : Reader Spelling := fun cs => do
  let (whole, rest) ← wholeDigits ending cs
  let (fraction, rest) ← match rest with
    | '.' :: rest => fractionDigits ending rest
    | rest => .ok ([], rest)
  let (exponent, rest) ← match rest with
    | 'e' :: rest | 'E' :: rest =>
      (exponentDigits ending rest).map fun (digits, rest) => (some digits, rest)
    | rest => .ok (none, rest)
  .ok (⟨negative, whole, fraction, exponent⟩, rest)

/-- A number after its sign. -/
def number (negative : Bool) : Reader Json := fun cs => do
  let (s, rest) ← spelling .endInValue negative cs
  match s.value with
  | .ok j => .ok (j, rest)
  | .error digits => stop .numberOutOfRange (digits ++ rest)

/-- Pass over a number after its sign. -/
def skipNumber : Reader Unit := fun cs => do
  let (_, rest) ← spelling .badNumber false cs
  .ok ((), rest)

end Json

end WorkloadOperator
