import WorkloadOperator.Api.Target

/-!
# A store behind the cluster interface

The requests to a store as messages to the cluster, and the answers of the
cluster as answers of a store.

A request is written as one message, unless it is refused beforehand
(`Client.message`).  A status from 400 to 599 says that the cluster refused the
message.  Its text tells why, in a form of its own or in plain words, and what
it says of the status goes before the status itself.  To read an object that is
not there is no failure.  Every other answer has to be what was asked for
(`Client.read`).
-/

namespace WorkloadOperator

namespace Api

/-- The store behind the cluster interface. -/
structure Client where
  /-- The name under which the operator writes. -/
  manager : String
  deriving DecidableEq

namespace Client

/-! ## Writing messages -/

/-- The longest name under which one may write, in octets. -/
def longestManager : Nat := 128

/-- Refuse an empty name. -/
def named (key : Key) : Except Refusal Unit :=
  if key.name = "" then .error .emptyName else .ok ()

/-- The parameter that says who writes. -/
def managed (c : Client) (tooLong : Refusal) : Except Refusal (List (String × String)) :=
  if longestManager < c.manager.utf8ByteSize then .error tooLong
  else .ok [("fieldManager", c.manager)]

/-- The message that reads an object. -/
def reading (κ : Kind) (key : Key) : Except Refusal Message := do
  named key
  Message.addressed { method := .get, path := path κ key }

/-- The message that lists the objects that a selector selects. -/
def listing (κ : Kind) (ns selector : String) : Except Refusal Message :=
  Message.addressed {
    method := .get
    path := collection κ (some ns)
    query := [("labelSelector", selector)] }

/-- Name in a body the version that the patched object has to have, if one is known. -/
def withVersion (version : Option String) (body : Json) : Json :=
  match version with
  | none => body
  | some v =>
    body.set "metadata" (((body.get? "metadata").getD (.obj [])).set "resourceVersion" (.str v))

/-- The body that replaces finalizers. -/
def finalizersBody (version : Option String) (finalizers : List String) : Json :=
  withVersion version (.obj [("metadata", .obj [("finalizers", .strs finalizers)])])

/-- The body that patches a status. -/
def statusBody (version : Option String) (patch : Json) : Json :=
  withVersion version (.obj [("status", patch)])

/-- The message that patches an Instance or a part of it. -/
def patching (c : Client) (key : Key) (part : String) (body : Json) :
    Except Refusal Message := do
  named key
  let query ← c.managed .patchManager
  Message.addressed {
    method := .patch
    path := path .inst key ++ part
    query
    body := some (.mergePatch, body) }

/-- What is said with a deletion: what belongs to a workload or a claim may be
deleted after it. -/
def deletion : Child → Json
  | .deployment | .volumeClaim => .obj [("propagationPolicy", .str "Background")]
  | .configMap => .obj []

/-- The message that a request is written as. -/
def message (c : Client) : Request → Except Refusal Message
  | .getInstance key => reading .inst key
  | .get child key => reading child.kind key
  | .list child ns selector => listing child.kind ns selector
  | .listRuns ns selector => listing .run ns selector
  | .create child ns o => do
    let query ← c.managed .createManager
    Message.addressed {
      method := .post
      path := collection child.kind (some ns)
      query
      body := some (.value, child.kind.encode o) }
  | .delete child key => do
    named key
    Message.addressed {
      method := .delete
      path := path child.kind key
      body := some (.value, deletion child) }
  | .patchFinalizers key version finalizers =>
    c.patching key "" (finalizersBody version finalizers)
  | .patchStatus key version patch => c.patching key "/status" (statusBody version patch)

/-! ## Reading answers -/

/-- What of a text belongs to a type. -/
def outlined (o : Outline) (text : String) : Except Failure Json :=
  match o.read text with
  | .ok j => .ok j
  | .error (fault, place) => .error (.undecodable (place.locate fault.message))

/-- The value that a text is read as. -/
def decoded {α : Type} (o : Outline) (decode : Json → Decode.Result α) (text : String) :
    Except Failure α := do
  match decode (← outlined o text) with
  | .ok a => .ok a
  | .error e => .error (.undecodable e.message)

/-- What a cluster that refuses says in a form of its own. -/
structure Verdict where
  code : Nat
  reason : String
  message : String

namespace Verdict

/-- The outline of a verdict. -/
def outline : Outline :=
  .positional ⟨"ErrorResponse", 4⟩ [
    { key := "status", outline := .text, presence := .owed },
    { key := "message", outline := .text },
    { key := "reason", outline := .text },
    { key := "code", outline := .plain Decode.uint16, presence := .owed }]

/-- Read a verdict. -/
def decode (j : Json) : Decode.Result Verdict := do
  let code ← Decode.member? "code" Decode.uint16 j.members
  let message ← Decode.member? "message" Decode.string j.members
  let reason ← Decode.member? "reason" Decode.string j.members
  .ok {
    code := ← Decode.required "code" code
    reason := reason.getD ""
    message := message.getD "" }

end Verdict

/-- Why a message was refused with this status and text. -/
def refusal (status : Nat) (text : String) : Failure :=
  match decoded Verdict.outline Verdict.decode text with
  | .ok v => .refused v.code v.reason v.message
  | .error _ => .refused status "Failed to parse error data" (quoted text)

/-- The text of an answer that is no refusal. -/
def accepted : Response → Except Failure String
  | .unreachable why => .error (.transport why)
  | .answered status octets =>
    match Utf8.decode octets with
    | .error fault => .error (.notText fault)
    | .ok text =>
      if 400 ≤ status ∧ status ≤ 599 then .error (refusal status text) else .ok text

/-- The object that an answer gives. -/
def object (κ : Kind) (r : Response) : Except Failure κ.Object := do
  decoded κ.outline κ.decode (← accepted r)

/-- The outline of what is said of a list. -/
def listMetadata : Outline :=
  .resource "ListMeta" [
    ("continue", .text),
    ("remainingItemCount", .int64),
    ("resourceVersion", .text),
    ("selfLink", .text)]

/-- The outline of a list of values.  Members that are no fields have to be
values, of which a list may hold as deep ones as any text. -/
def listOutline (o : Outline) : Outline :=
  Outline.Record.outline {
    name := "struct ObjectList"
    fields := [
      { key := "metadata", outline := listMetadata },
      { key := "items", outline := .optional (.list o), presence := .owed }]
    repeatable := false
    positional := none
    other := fun cs => (Json.value (Json.maxDepth - 1) cs).map fun (_, rest) => ((), rest) }

/-- Read a list of objects, in which null is the same as no items. -/
def listDecode {α : Type} (decode : Json → Decode.Result α) (j : Json) : Decode.Result (List α) :=
  (Decode.nullable? "items" (Decode.list decode) j.members).map (·.getD [])

/-- The objects that an answer lists. -/
def objects (κ : Kind) (r : Response) : Except Failure (List κ.Object) := do
  decoded (listOutline κ.outline) (listDecode κ.decode) (← accepted r)

/-- The outline of a cause in the details of a report. -/
def reportCause : Outline :=
  .positional ⟨"StatusCause", 3⟩ [
    { key := "reason", outline := .text },
    { key := "message", outline := .text },
    { key := "field", outline := .text }]

/-- The outline of the details of a report. -/
def reportDetails : Outline :=
  .positional ⟨"StatusDetails", 6⟩ [
    { key := "name", outline := .text },
    { key := "group", outline := .text },
    { key := "kind", outline := .text },
    { key := "uid", outline := .text },
    { key := "causes", outline := .list reportCause },
    { key := "retryAfterSeconds", outline := .plain (Decode.integer 0 (UInt32.size - 1) "u32") }]

/-- The outline of a report of what was done. -/
def report : Outline :=
  .positional ⟨"Status", 5⟩ [
    { key := "status", outline := .optional (.variant ["Success", "Failure"]) },
    { key := "code", outline := .plain Decode.uint16 },
    { key := "message", outline := .text },
    { key := "reason", outline := .text },
    { key := "details", outline := .optional reportDetails }]

/-- Read the answer to a deletion: a value that is a report or the object that
was deleted. -/
def deleted (κ : Kind) (r : Response) : Except Failure Unit := do
  let text ← accepted r
  match Json.parse text with
  | .error (fault, place) => .error (.undecodable (place.locate fault.message))
  | .ok j =>
    let isReport : Bool := j.get? "kind" = some (.str "Status")
    (outlined (if isReport then report else κ.outline) text).map fun _ => ()

/-- What the answer to a request says. -/
def read : (r : Request) → Response → Except Failure r.Reply
  | .getInstance _, answer => (object .inst answer).map some
  | .get child _, answer => (object child.kind answer).map some
  | .create child _ _, answer => object child.kind answer
  | .list child _ _, answer => objects child.kind answer
  | .listRuns _ _, answer => objects .run answer
  | .delete child _, answer => deleted child.kind answer
  | .patchFinalizers _ _ _, answer => (object .inst answer).map fun _ => ()
  | .patchStatus _ _ _, answer => (object .inst answer).map fun _ => ()

/-! ## Asking -/

/-- The answer of a store to a request that met a failure.  To read an object
that is not there is none. -/
def failing : (r : Request) → Failure → r.Answer
  | .getInstance _, f => if f.saysAbsent then .ok none else .error f.storeError
  | .get _ _, f => if f.saysAbsent then .ok none else .error f.storeError
  | .create _ _ _, f | .list _ _ _, f | .listRuns _ _, f | .delete _ _, f
  | .patchFinalizers _ _ _, f | .patchStatus _ _ _, f => .error f.storeError

/-- The answer of a store to a request, where `send` carries a message to the
cluster. -/
def serve {σ : Type} (c : Client) (send : Message → σ → Response × σ) (r : Request) (s : σ) :
    r.Answer × σ :=
  match c.message r with
  | .error e => (failing r (.unsent e), s)
  | .ok m =>
    let (answer, s) := send m s
    match read r answer with
    | .ok reply => (.ok reply, s)
    | .error f => (failing r f, s)

end Client

end Api

end WorkloadOperator
