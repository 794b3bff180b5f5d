import WorkloadOperator.Instance

/-!
# Events

An event tells the people who look after a cluster what was done for an object,
or what could not be done.
-/

namespace WorkloadOperator

/-- A reference to an object. -/
structure Reference where
  apiVersion : Option String := none
  fieldPath : Option String := none
  kind : Option String := none
  name : Option String := none
  ns : Option String := none
  resourceVersion : Option String := none
  uid : Option String := none
  deriving DecidableEq

namespace Reference

/-- A reference as JSON. -/
def encode (r : Reference) : Json :=
  .record [
    ("apiVersion", r.apiVersion.map .str),
    ("fieldPath", r.fieldPath.map .str),
    ("kind", r.kind.map .str),
    ("name", r.name.map .str),
    ("namespace", r.ns.map .str),
    ("resourceVersion", r.resourceVersion.map .str),
    ("uid", r.uid.map .str)]

/-- Read a reference. -/
def decode : Json → Decode.Result Reference :=
  Decode.resource "ObjectReference" fun members => do
    let apiVersion ← Decode.nullable? "apiVersion" Decode.string members
    let fieldPath ← Decode.nullable? "fieldPath" Decode.string members
    let kind ← Decode.nullable? "kind" Decode.string members
    let name ← Decode.nullable? "name" Decode.string members
    let ns ← Decode.nullable? "namespace" Decode.string members
    let resourceVersion ← Decode.nullable? "resourceVersion" Decode.string members
    let uid ← Decode.nullable? "uid" Decode.string members
    .ok { apiVersion, fieldPath, kind, name, ns, resourceVersion, uid }

/-- The outline of a reference. -/
def outline : Outline :=
  .resource "ObjectReference" [
    ("apiVersion", .text),
    ("fieldPath", .text),
    ("kind", .text),
    ("name", .text),
    ("namespace", .text),
    ("resourceVersion", .text),
    ("uid", .text)]

end Reference

/-- The reference to an Instance. -/
def Instance.reference (i : Instance) : Reference where
  apiVersion := some WorkloadOperator.apiVersion
  kind := some "Instance"
  name := i.metadata.name
  ns := i.metadata.ns
  uid := i.metadata.uid

/-- Whether an event is a matter of course. -/
inductive Event.Severity where
  | normal
  | warning
  deriving DecidableEq, Repr

/-- The name of a severity. -/
def Event.Severity.name : Event.Severity → String
  | .normal => "Normal"
  | .warning => "Warning"

/-- An event. -/
structure Event where
  severity : Event.Severity
  /-- Why it is told, as one word. -/
  reason : String
  /-- What was being done, as one word. -/
  action : String
  /-- What happened, in words. -/
  note : Option String
  /-- What it happened to. -/
  regarding : Reference
  deriving DecidableEq

namespace Event

/-- A session store was created. -/
def sessionStoreCreated (i : Instance) (store : String) : Event :=
  ⟨.normal, "CredentialStoreCreated", "Create", some ("Created credential store " ++ store),
    i.reference⟩

/-- A workload was created. -/
def workloadCreated (i : Instance) (workload : String) : Event :=
  ⟨.normal, "ChannelCreated", "Create", some ("Created workload " ++ workload), i.reference⟩

/-- A memory store was created. -/
def memoryStoreCreated (i : Instance) (store : String) : Event :=
  ⟨.normal, "MemoryStoreCreated", "Create", some ("Created " ++ store), i.reference⟩

/-- A channel could not be served. -/
def convergeFailed (i : Instance) (why : String) : Event :=
  ⟨.warning, "ConvergeFailed", "Reconcile", some why, i.reference⟩

/-- The workloads of an Instance are gone. -/
def cleanupComplete (i : Instance) (workloads : Nat) : Event :=
  ⟨.normal, "CleanupComplete", "Delete",
    some ("Deleted " ++ toString workloads ++ " channel workload(s)"), i.reference⟩

end Event

end WorkloadOperator
