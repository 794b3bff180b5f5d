import WorkloadOperator.Metadata
import WorkloadOperator.Instance

/-!
# Runs

A Run is one execution of an agent.  The operator only reads its label that
names the Instance, and its phase.
-/

namespace WorkloadOperator

namespace Run

/-- What a Run declares. -/
structure Spec where
  /-- The Instance it belongs to. -/
  owner : String
  prompt : Option String := none
  deriving DecidableEq, Inhabited

/-- How a Run is doing. -/
inductive Phase where
  | pending
  | running
  | succeeded
  | failed
  deriving DecidableEq, Repr

/-- What was observed of a Run. -/
structure Status where
  phase : Option Phase := none
  deriving DecidableEq, Inhabited

end Run

/-- A Run. -/
structure Run where
  metadata : Metadata := {}
  spec : Run.Spec
  status : Option Run.Status := none
  deriving DecidableEq, Inhabited

namespace Run

instance : Resource Run where
  metadata := Run.metadata
  withMetadata r m := { r with metadata := m }
  metadata_withMetadata _ _ := rfl
  withMetadata_withMetadata _ _ _ := rfl
  withMetadata_metadata _ := rfl

/-- Whether the Run is going on. -/
def isRunning (r : Run) : Bool := r.status.bind Status.phase = some .running

namespace Spec

/-- A declaration as JSON. -/
def encode (s : Spec) : Json :=
  .record [("instance", some (.str s.owner)), ("prompt", s.prompt.map .str)]

/-- How a declaration stands as a sequence. -/
def shape : Decode.Positional := ⟨"RunSpec", 2⟩

/-- Read a declaration. -/
def decode : Json → Decode.Result Spec :=
  shape.decode
    (fun members => do
      let owner ← Decode.member? "instance" Decode.string members
      let prompt ← Decode.member? "prompt" (Decode.optional Decode.string) members
      .ok { owner := ← Decode.required "instance" owner, prompt := prompt.join })
    (fun items => do
      let owner ← shape.item 0 Decode.string none items
      let prompt ← shape.item 1 (Decode.optional Decode.string) (some none) items
      .ok { owner, prompt })

/-- The outline of a declaration. -/
def outline : Outline :=
  .positional shape [
    { key := "instance", outline := .text, presence := .owed },
    { key := "prompt", outline := .optional .text }]

end Spec

namespace Phase

/-- The name of a phase. -/
def name : Phase → String
  | .pending => "Pending"
  | .running => "Running"
  | .succeeded => "Succeeded"
  | .failed => "Failed"

/-- All phases in the order in which they are listed. -/
def all : List Phase := [.pending, .running, .succeeded, .failed]

/-- A phase as JSON. -/
def encode (p : Phase) : Json := .str p.name

/-- Read a phase. -/
def decode : Json → Decode.Result Phase := Decode.variant (all.map fun p => (p.name, p))

/-- The outline of a phase. -/
def outline : Outline := .variant (all.map name)

end Phase

namespace Status

/-- A status as JSON. -/
def encode (s : Status) : Json := .record [("phase", s.phase.map Phase.encode)]

/-- How a status stands as a sequence. -/
def shape : Decode.Positional := ⟨"RunStatus", 1⟩

/-- Read a status. -/
def decode : Json → Decode.Result Status :=
  shape.decode
    (fun members => do
      let phase ← Decode.member? "phase" (Decode.optional Phase.decode) members
      .ok { phase := phase.join })
    (fun items => do
      let phase ← shape.item 0 (Decode.optional Phase.decode) (some none) items
      .ok { phase })

/-- The outline of a status. -/
def outline : Outline := .positional shape [{ key := "phase", outline := .optional Phase.outline }]

end Status

/-- A Run as JSON. -/
def encode (r : Run) : Json :=
  .record [
    ("apiVersion", some (.str apiVersion)),
    ("kind", some (.str "Run")),
    ("metadata", some r.metadata.encode),
    ("spec", some r.spec.encode),
    ("status", r.status.map Status.encode)]

/-- How a Run stands as a sequence. -/
def shape : Decode.Positional := ⟨"Run", 3⟩

/-- Read a Run. -/
def decode : Json → Decode.Result Run :=
  shape.decode
    (fun members => do
      let metadata ← Decode.member? "metadata" Metadata.decode members
      let spec ← Decode.member? "spec" Spec.decode members
      let status ← Decode.member? "status" (Decode.optional Status.decode) members
      let metadata ← Decode.required "metadata" metadata
      .ok { metadata, spec := ← Decode.required "spec" spec, status := status.join })
    (fun items => do
      let metadata ← shape.item 0 Metadata.decode none items
      let spec ← shape.item 1 Spec.decode none items
      let status ← shape.item 2 (Decode.optional Status.decode) none items
      .ok { metadata, spec, status })

/-- The outline of a Run. -/
def outline : Outline :=
  .positional shape [
    { key := "metadata", outline := Metadata.outline, presence := .owed },
    { key := "spec", outline := Spec.outline, presence := .owed },
    { key := "status", outline := .optional Status.outline, presence := .owedInSequence }]

end Run

end WorkloadOperator
