import WorkloadOperator.Json.Token

/-!
# Reading values

`Json.parse` gives the value that a text is, or why and where it is none.  Values
may be nested `maxDepth` deep.  If a key occurs twice in an object, the later
member wins.

Sequences and objects are read item by item and member by member: `nextItem` and
`nextKey` say whether another one follows, and check the commas.  Whoever reads
sequences or objects of some form builds on these two.
-/

namespace WorkloadOperator

namespace Json

/-! ## Items and members -/

/-- Go up to the next item of a sequence, and say whether there is one. -/
def nextItem (first : Bool) : Reader Bool := fun cs =>
  match skipBlank cs with
  | [] => stop .endInItems []
  | ']' :: rest => .ok (false, ']' :: rest)
  | c :: rest =>
    if first then .ok (true, c :: rest)
    else if c = ',' then
      match skipBlank rest with
      | [] => stop .endInValue []
      | ']' :: rest => stopAfter .trailingComma (']' :: rest)
      | rest => .ok (true, rest)
    else stopAfter .expectedItemEnd (c :: rest)

/-- Read the next key of an object, if there is one. -/
def nextKey (first : Bool) : Reader (Option String) := fun cs =>
  match skipBlank cs with
  | [] => stop .endInMembers []
  | '\x7d' :: rest => .ok (none, '\x7d' :: rest)
  | c :: rest =>
    if first then
      if c = '\x22' then (quotedText rest).map fun (key, rest) => (some key, rest)
      else stopAfter .keyNotString (c :: rest)
    else if c = ',' then
      match skipBlank rest with
      | [] => stop .endInValue []
      | '\x22' :: rest => (quotedText rest).map fun (key, rest) => (some key, rest)
      | '\x7d' :: rest => stopAfter .trailingComma ('\x7d' :: rest)
      | rest => stopAfter .keyNotString rest
    else stopAfter .expectedMemberEnd (c :: rest)

/-- The colon between a key and its value. -/
def colon : Reader Unit := fun cs =>
  match skipBlank cs with
  | [] => stop .endInMembers []
  | ':' :: rest => .ok ((), rest)
  | rest => stopAfter .expectedColon rest

/-- The items of a sequence after its opening bracket, through its end.  Each takes
a character, so there are fewer than `fuel`. -/
def items {α : Type} (item : Reader α) : (fuel : Nat) → (first : Bool) → Reader (List α)
  | 0, _, cs => stop .endInItems cs
  | fuel + 1, first, cs => do
    match ← nextItem first cs with
    | (false, rest) => .ok ([], rest.drop 1)
    | (true, rest) =>
      let (a, rest) ← item rest
      let (as, rest) ← items item fuel false rest
      .ok (a :: as, rest)

/-- The members of an object after its opening brace, through its end, with the
value of each given by its key. -/
def fields {α : Type} (member : String → Reader α) :
    (fuel : Nat) → (first : Bool) → Reader (List (String × α))
  | 0, _, cs => stop .endInMembers cs
  | fuel + 1, first, cs => do
    match ← nextKey first cs with
    | (none, rest) => .ok ([], rest.drop 1)
    | (some key, rest) =>
      let ((), rest) ← colon rest
      let (a, rest) ← member key rest
      let (as, rest) ← fields member fuel false rest
      .ok ((key, a) :: as, rest)

/-- The items of a sequence after its opening bracket, through its end. -/
def itemsOf {α : Type} (item : Reader α) : Reader (List α) := fun cs =>
  items item (cs.length + 1) true cs

/-- The members of an object after its opening brace, through its end. -/
def fieldsOf {α : Type} (member : String → Reader α) : Reader (List (String × α)) := fun cs =>
  fields member (cs.length + 1) true cs

/-! ## Values -/

/-- A value, given readers for what follows an opening bracket and an opening
brace. -/
def valueWith (sequence object : Reader Json) : Reader Json := fun cs =>
  match skipBlank cs with
  | [] => stop .endInValue []
  | 'n' :: rest => (word ['u', 'l', 'l'] rest).map fun ((), rest) => (.null, rest)
  | 't' :: rest => (word ['r', 'u', 'e'] rest).map fun ((), rest) => (.bool true, rest)
  | 'f' :: rest => (word ['a', 'l', 's', 'e'] rest).map fun ((), rest) => (.bool false, rest)
  | '\x22' :: rest => (quotedText rest).map fun (s, rest) => (.str s, rest)
  | '-' :: rest => number true rest
  | '[' :: rest => sequence rest
  | '\x7b' :: rest => object rest
  | c :: rest =>
    if c.isDigit then number false (c :: rest) else stopAfter .expectedValue (c :: rest)

/-- A value, nested at most `depth` deep. -/
def value : (depth : Nat) → Reader Json
  | 0 =>
    valueWith (fun rest => stopAfter .tooDeep ('[' :: rest))
      (fun rest => stopAfter .tooDeep ('\x7b' :: rest))
  | depth + 1 =>
    valueWith (fun rest => (itemsOf (value depth) rest).map fun (xs, rest) => (.arr xs, rest))
      (fun rest =>
        (fieldsOf (fun _ => value depth) rest).map fun (ms, rest) => (object ms, rest))

/-- How deep sequences and objects may be nested. -/
def maxDepth : Nat := 127

/-- The value that a text is, or why and where it is none. -/
def parse (s : String) : Except (Fault × Place) Json :=
  Reader.whole (value maxDepth) skipBlank s

/-! ## Passing over values -/

/-- A sequence or an object that has been begun. -/
inductive Frame where
  | items
  | members
  deriving DecidableEq

/-- Pass over a key and its colon. -/
def skipKey : Reader Unit := fun cs =>
  match skipBlank cs with
  | [] => stop .endInMembers []
  | '\x22' :: rest => do
    let ((), rest) ← skipQuoted rest
    colon rest
  | rest => stopAfter .keyNotString rest

/-- Pass over one token that begins a value, with the frame that it begins. -/
def skipToken : Reader (Option Frame) := fun cs =>
  let plain (r : Except Stop (Unit × List Char)) : Except Stop (Option Frame × List Char) :=
    r.map fun ((), rest) => (none, rest)
  match skipBlank cs with
  | [] => stop .endInValue []
  | 'n' :: rest => plain (word ['u', 'l', 'l'] rest)
  | 't' :: rest => plain (word ['r', 'u', 'e'] rest)
  | 'f' :: rest => plain (word ['a', 'l', 's', 'e'] rest)
  | '\x22' :: rest => plain (skipQuoted rest)
  | '-' :: rest => plain (skipNumber rest)
  | '[' :: rest => .ok (some .items, rest)
  | '\x7b' :: rest => .ok (some .members, rest)
  | c :: rest =>
    if c.isDigit then plain (skipNumber (c :: rest)) else stopAfter .expectedValue (c :: rest)

/-- Close the frames that end here, and go on to the next value in the innermost
one that does not.  `complete` says whether a value stands before this point.
There is none left if all frames end. -/
def closeFrames (complete : Bool) : (frames : List Frame) → Reader (List Frame)
  | [], cs => .ok ([], cs)
  | f :: frames, cs =>
    match skipBlank cs, f with
    | [], .items => stop .endInItems []
    | [], .members => stop .endInMembers []
    | ']' :: rest, .items => closeFrames true frames rest
    | '\x7d' :: rest, .members => closeFrames true frames rest
    | c :: rest, f =>
      if complete then
        if c = ',' then .ok (f :: frames, rest)
        else match f with
          | .items => stopAfter .expectedItemEnd (c :: rest)
          | .members => stopAfter .expectedMemberEnd (c :: rest)
      else .ok (f :: frames, c :: rest)

/-- Pass over a value and the frames around it.  Each token takes a character, so
there are fewer than `fuel`. -/
def skipFrames : (fuel : Nat) → (frames : List Frame) → Reader Unit
  | 0, _, cs => stop .endInValue cs
  | fuel + 1, frames, cs => do
    let (begun, rest) ← skipToken cs
    let opened := match begun with
      | some f => f :: frames
      | none => frames
    match ← closeFrames begun.isNone opened rest with
    | ([], rest) => .ok ((), rest)
    | (.items :: frames, rest) => skipFrames fuel (.items :: frames) rest
    | (.members :: frames, rest) =>
      let ((), rest) ← skipKey rest
      skipFrames fuel (.members :: frames) rest

/-- Pass over a value of any depth, looking at its spelling only. -/
def skipValue : Reader Unit := fun cs => skipFrames (cs.length + 1) [] cs

end Json

end WorkloadOperator
