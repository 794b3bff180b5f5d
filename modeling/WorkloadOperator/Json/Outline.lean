import WorkloadOperator.Json.Parser

/-!
# Outlines

A text that stands for a typed value is checked while it is read.  The outline of
a type says what belongs to it.  It is a reader of a JSON value in which only that
is kept, so that the decoder of the type accepts the value.  What does not belong
to the type is passed over, whatever it is.

Members are read in the order of the text, and the first thing that is wrong is
reported, be it a token or a value.  What is wrong with a single token is reported
right behind it.  A sequence or an object that stands where it should not is
reported at its beginning.  What is wrong with a structure as a whole, such as a
missing member, is reported behind the structure, unless more follows: then
reading has got no further than that.

There are two sorts of structures.  Those of the cluster are objects only, their
members may be null, which is the same as absent, and of a member that is
repeated the last one counts.  Those of the operator may also stand as a sequence
of their fields, and repeat no member.
-/

namespace WorkloadOperator

/-- What of a text belongs to a type. -/
abbrev Outline := Json.Reader Json

namespace Outline

open Json (Reader Fault Stop stop stopAfter skipBlank)

/-! ## Plain values -/

/-- What stands here.  Of a sequence or an object only the sort is told, and it is
left where it is. -/
def found : Reader Json :=
  Json.valueWith (fun rest => .ok (.arr [], '[' :: rest))
    (fun rest => .ok (.obj [], '\x7b' :: rest))

/-- Something else stands here than is expected. -/
def mistyped {α : Type} (expected : String) : Reader α := fun cs => do
  let (j, rest) ← found cs
  stop (.content (.mistyped j expected)) rest

/-- A token that a decoder accepts. -/
def plain {α : Type} (decode : Json → Decode.Result α) : Outline := fun cs => do
  let (j, rest) ← found cs
  match decode j with
  | .ok _ => .ok (j, rest)
  | .error e => stop (.content e) rest

/-- A text. -/
def text : Outline := plain Decode.string

/-- A truth value. -/
def boolean : Outline := plain Decode.boolean

/-- A signed integer of 32 bits. -/
def int32 : Outline := plain Decode.int32

/-- A signed integer of 64 bits. -/
def int64 : Outline := plain Decode.int64

/-- Nothing but null. -/
def null : Outline := plain fun j =>
  match j with
  | .null => .ok ()
  | j => .error (.mistyped j "unit")

/-- A value, or null for none. -/
def optional (o : Outline) : Outline := fun cs =>
  match skipBlank cs with
  | 'n' :: rest => (Json.word ['u', 'l', 'l'] rest).map fun ((), rest) => (.null, rest)
  | cs => o cs

/-- A sequence of values. -/
def list (o : Outline) : Outline := fun cs =>
  match skipBlank cs with
  | '[' :: rest => (Json.itemsOf o rest).map fun (js, rest) => (.arr js, rest)
  | cs => mistyped "a sequence" cs

/-- A dictionary of texts. -/
def dict : Outline := fun cs =>
  match skipBlank cs with
  | '\x7b' :: rest =>
    (Json.fieldsOf (fun _ => text) rest).map fun (ms, rest) => (Json.object ms, rest)
  | cs => mistyped "a map" cs

/-- One of several named values.  It stands as its name, or as an object whose
only key is the name and whose value is null. -/
def variant (names : List String) : Outline := fun cs =>
  let named := plain (Decode.variant (names.map fun n => (n, ())))
  match skipBlank cs with
  | '\x22' :: rest => named ('\x22' :: rest)
  | '\x7b' :: rest => do
    let (name, rest) ← match skipBlank rest with
      | '\x22' :: rest => named ('\x22' :: rest)
      | rest => mistyped "variant identifier" rest
    let ((), rest) ← Json.colon rest
    let (_, rest) ← null rest
    match skipBlank rest with
    | [] => stop .endInMembers []
    | '\x7d' :: rest => .ok (name, rest)
    | rest => stop .expectedValue rest
  | [] => stop .endInValue []
  | rest => stopAfter .expectedValue rest

/-! ## Structures -/

/-- Whether a field has to be there. -/
inductive Presence where
  /-- It may be absent. -/
  | free
  /-- A sequence may not end before it. -/
  | owedInSequence
  /-- It may not be absent. -/
  | owed
  deriving DecidableEq

/-- A field of a structure. -/
structure Field where
  key : String
  outline : Outline
  presence : Presence := .free
  /-- What is wrong with the value as a part of the structure. -/
  objection : Json → Option Decode.Error := fun _ => none

/-- A structure. -/
structure Record where
  /-- How a message names it. -/
  name : String
  /-- Its fields in the order in which they are declared. -/
  fields : List Field
  /-- Whether a member may be repeated. -/
  repeatable : Bool
  /-- How many fields there are if it may stand as a sequence of them. -/
  positional : Option Decode.Positional
  /-- How a member that is no field is passed over. -/
  other : Reader Unit

namespace Record

/-- What was found of a structure, or what is wrong with it as a whole. -/
abbrev Finding := Except Decode.Error (List (String × Json))

/-- The members up to the end of the object or up to the first that the structure
refuses.  Those that were read are in `done`, in reverse.  Each member takes a
character, so there are fewer than `fuel`. -/
def members (r : Record) : (fuel : Nat) → (first : Bool) → (done : List (String × Json)) →
    Reader Finding
  | 0, _, _, cs => stop .endInMembers cs
  | fuel + 1, first, done, cs => do
    match ← Json.nextKey first cs with
    | (none, rest) => .ok (.ok done.reverse, rest)
    | (some key, rest) =>
      match r.fields.find? (·.key = key) with
      | none =>
        let ((), rest) ← Json.colon rest
        let ((), rest) ← r.other rest
        members r fuel false done rest
      | some f =>
        if !r.repeatable && done.any (·.1 = key) then .ok (.error (.repeated key), rest)
        else
          let ((), rest) ← Json.colon rest
          let (j, rest) ← f.outline rest
          match f.objection j with
          | some e => .ok (.error e, rest)
          | none => members r fuel false ((key, j) :: done) rest

/-- Whether a field is missing that has to be there. -/
def isMissing (found : Json) (f : Field) : Bool :=
  f.presence = .owed && (found.get? f.key).isNone

/-- Refuse members in which a field is missing that has to be there. -/
def complete (r : Record) (found : List (String × Json)) : Finding :=
  match r.fields.find? (isMissing (Json.object found)) with
  | none => .ok found
  | some f => .error (.missing f.key)

/-- The fields one after the other up to the end of the sequence or of the
fields. -/
def inOrder (p : Decode.Positional) : (fields : List Field) → (position : Nat) →
    (done : List (String × Json)) → Reader Finding
  | [], _, done, cs => .ok (.ok done.reverse, cs)
  | f :: fields, position, done, cs => do
    match ← Json.nextItem (position = 0) cs with
    | (false, rest) =>
      if f.presence = .free then inOrder p fields (position + 1) done rest
      else .ok (.error (.tooShort position p.name p.fields), rest)
    | (true, rest) =>
      let (j, rest) ← f.outline rest
      inOrder p fields (position + 1) ((f.key, j) :: done) rest

/-- The end of an object, as far as it is reached. -/
def closeObject (cs : List Char) : List Char :=
  match skipBlank cs with
  | '\x7d' :: rest => rest
  | rest => rest

/-- The end of a sequence, as far as it is reached, and the fault if more
follows. -/
def closeSequence (cs : List Char) : Option Fault × List Char :=
  match skipBlank cs with
  | [] => (some .endInItems, [])
  | ']' :: rest => (none, rest)
  | ',' :: rest =>
    match skipBlank rest with
    | ']' :: rest => (some .trailingComma, ']' :: rest)
    | rest => (some .trailingText, rest)
  | rest => (some .trailingText, rest)

/-- What was found, at the place that was reached. -/
def conclude (finding : Finding) (rest : List Char) : Except Stop (Json × List Char) :=
  match finding with
  | .ok found => .ok (Json.object found, rest)
  | .error e => stop (.content e) rest

/-- The outline of a structure. -/
def outline (r : Record) : Outline := fun cs =>
  match skipBlank cs with
  | '\x7b' :: rest => do
    let (finding, rest) ← r.members (rest.length + 1) true [] rest
    conclude (finding.bind r.complete) (closeObject rest)
  | '[' :: rest => do
    let (finding, rest) ← match r.positional with
      | some p => inOrder p r.fields 0 [] rest
      | none => .ok (.error (.mistyped (.arr []) r.name), rest)
    match finding, closeSequence rest with
    | .ok _, (some fault, rest) => stopAfter fault rest
    | finding, (_, rest) => conclude finding rest
  | cs => mistyped r.name cs

end Record

/-- A field of a structure of the cluster. -/
def Field.nullable (key : String) (o : Outline) (presence : Presence) : Field :=
  { key, outline := optional o, presence }

/-- A structure of the cluster with this name and these fields. -/
def cluster (name : String) (fields : List Field) : Outline :=
  Record.outline { name, fields, repeatable := true, positional := none, other := Json.skipValue }

/-- A structure of the cluster, of which all fields may be absent. -/
def resource (name : String) (fields : List (String × Outline)) : Outline :=
  cluster name (fields.map fun f => .nullable f.1 f.2 .free)

/-- The objection to a text that is not `expected`. -/
def unlike (expected : String) (j : Json) : Option Decode.Error :=
  match Decode.fixed expected j with
  | .ok () => none
  | .error e => some e

/-- An object of the cluster, of the kind with this name in this group and
version.  If it says what it is, it has to be that. -/
def object (version name : String) (fields : List (String × Outline)) : Outline :=
  cluster name
    ({ key := "apiVersion", outline := text, objection := unlike version } ::
      { key := "kind", outline := text, objection := unlike name } ::
      fields.map fun f => .nullable f.1 f.2 .free)

/-- A structure of the operator. -/
def positional (p : Decode.Positional) (fields : List Field) : Outline :=
  Record.outline {
    name := "struct " ++ p.name
    fields
    repeatable := false
    positional := some p
    other := Json.skipValue }

/-! ## Documents -/

/-- The value of which a text is, read by its outline. -/
def read (o : Outline) (text : String) : Except (Fault × Json.Place) Json :=
  Reader.whole o skipBlank text

end Outline

end WorkloadOperator
