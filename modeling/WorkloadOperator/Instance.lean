import WorkloadOperator.Channel
import WorkloadOperator.Metadata

/-!
# Instances

An Instance declares an agent: the channels it talks through, whether it has a
memory store, and what others need to run it.  Its status says how far the
declaration has become real.

The marker is the finalizer by which the operator holds an Instance until its
workloads are gone.  Together with the deletion timestamp it gives the four
stages of an Instance's life.
-/

namespace WorkloadOperator

/-- The group and version of the operator's own kinds. -/
def apiVersion : String := "agents.dev/v1alpha1"

namespace Instance

/-- The finalizer of the operator. -/
def marker : String := "agents.dev/instance-cleanup"

/-- What an Instance says about memory. -/
structure Memory where
  enabled : Bool := false
  deriving DecidableEq, Inhabited

/-- References to the credentials of providers. -/
structure Credentials where
  secrets : List String := []
  deriving DecidableEq, Inhabited

/-- What an Instance declares. -/
structure Spec where
  channels : List Channel.Declaration := []
  memory : Option Memory := none
  credentials : Option Credentials := none
  policy : Option String := none
  deriving DecidableEq, Inhabited

/-- How an Instance is doing. -/
inductive Phase where
  | pending
  | running
  | error
  deriving DecidableEq, Repr, Inhabited

/-- What was observed of an Instance. -/
structure Status where
  phase : Phase := .pending
  channels : List Channel.Report := []
  activeRuns : Int64 := 0
  deriving DecidableEq, Inhabited

end Instance

/-- An Instance. -/
structure Instance where
  metadata : Metadata := {}
  spec : Instance.Spec := {}
  status : Option Instance.Status := none
  deriving DecidableEq, Inhabited

namespace Instance

instance : Resource Instance where
  metadata := Instance.metadata
  withMetadata i m := { i with metadata := m }
  metadata_withMetadata _ _ := rfl
  withMetadata_withMetadata _ _ _ := rfl
  withMetadata_metadata _ := rfl

/-- The name of an Instance. -/
def name (i : Instance) : String := i.metadata.displayName

/-- Whether a memory store is declared. -/
def wantsMemory (i : Instance) : Bool := (i.spec.memory.map Memory.enabled).getD false

/-- Whether a finalizer is on the Instance. -/
def hasFinalizer (i : Instance) (finalizer : String) : Bool :=
  i.metadata.finalizerList.contains finalizer

/-- Whether the marker is on the Instance. -/
def isMarked (i : Instance) : Bool := i.hasFinalizer marker

/-- Whether deletion was requested. -/
def isDeleting (i : Instance) : Bool := i.metadata.deletionTimestamp.isSome

/-- The stages of an Instance's life. -/
inductive Stage where
  /-- Neither marked nor being deleted: no child may exist yet. -/
  | unmarked
  /-- Marked and alive. -/
  | alive
  /-- Being deleted, and held by the marker. -/
  | held
  /-- Being deleted, and let go. -/
  | released
  deriving DecidableEq, Repr

/-- The stage an Instance is in. -/
def stage (i : Instance) : Stage :=
  match i.isDeleting, i.isMarked with
  | false, false => .unmarked
  | false, true => .alive
  | true, true => .held
  | true, false => .released

theorem stage_of_isDeleting {i : Instance} (h : i.isDeleting = true) :
    i.stage = .held ∨ i.stage = .released := by
  unfold stage
  rw [h]
  cases i.isMarked
  · exact .inr rfl
  · exact .inl rfl

theorem stage_of_not_isDeleting {i : Instance} (h : i.isDeleting = false) :
    i.stage = .unmarked ∨ i.stage = .alive := by
  unfold stage
  rw [h]
  cases i.isMarked
  · exact .inl rfl
  · exact .inr rfl

theorem isDeleting_of_stage {i : Instance} (h : i.stage = .held ∨ i.stage = .released) :
    i.isDeleting = true := by
  cases hd : i.isDeleting with
  | true => rfl
  | false => rcases stage_of_not_isDeleting hd with hs | hs <;> simp [hs] at h

theorem not_isDeleting_of_stage {i : Instance} (h : i.stage = .unmarked ∨ i.stage = .alive) :
    i.isDeleting = false := by
  cases hd : i.isDeleting with
  | false => rfl
  | true => rcases stage_of_isDeleting hd with hs | hs <;> simp [hs] at h

theorem not_isMarked_of_unmarked {i : Instance} (h : i.stage = .unmarked) : i.isMarked = false := by
  unfold stage at h
  split at h
  · assumption
  · cases h
  · cases h
  · cases h

theorem isMarked_of_alive {i : Instance} (h : i.stage = .alive) : i.isMarked = true := by
  unfold stage at h
  split at h
  · cases h
  · assumption
  · cases h
  · cases h

/-! ## As JSON -/

namespace Memory

/-- The memory declaration as JSON. -/
def encode (m : Memory) : Json := .record [("enabled", some (.bool m.enabled))]

/-- How it stands as a sequence. -/
def shape : Decode.Positional := ⟨"MemoryConfig", 1⟩

/-- Read a memory declaration. -/
def decode : Json → Decode.Result Memory :=
  shape.decode
    (fun members => do
      let enabled ← Decode.member? "enabled" Decode.boolean members
      .ok { enabled := enabled.getD false })
    (fun items => do
      let enabled ← shape.item 0 Decode.boolean (some false) items
      .ok { enabled })

/-- The outline of a memory declaration. -/
def outline : Outline := .positional shape [{ key := "enabled", outline := .boolean }]

end Memory

namespace Credentials

/-- Credentials as JSON. -/
def encode (c : Credentials) : Json :=
  .record [("secretRefs", if c.secrets = [] then none else some (.strs c.secrets))]

/-- How they stand as a sequence. -/
def shape : Decode.Positional := ⟨"AuthSpec", 1⟩

/-- Read credentials. -/
def decode : Json → Decode.Result Credentials :=
  shape.decode
    (fun members => do
      let secrets ← Decode.member? "secretRefs" (Decode.list Decode.string) members
      .ok { secrets := secrets.getD [] })
    (fun items => do
      let secrets ← shape.item 0 (Decode.list Decode.string) (some []) items
      .ok { secrets })

/-- The outline of credentials. -/
def outline : Outline := .positional shape [{ key := "secretRefs", outline := .list .text }]

end Credentials

namespace Spec

/-- A declaration as JSON. -/
def encode (s : Spec) : Json :=
  .record [
    ("auth", s.credentials.map Credentials.encode),
    ("channels",
      if s.channels = [] then none
      else some (.arr (s.channels.map Channel.Declaration.encode))),
    ("memory", s.memory.map Memory.encode),
    ("policyRef", s.policy.map .str)]

/-- How a declaration stands as a sequence. -/
def shape : Decode.Positional := ⟨"InstanceSpec", 4⟩

/-- Read a declaration. -/
def decode : Json → Decode.Result Spec :=
  shape.decode
    (fun members => do
      let credentials ← Decode.member? "auth" (Decode.optional Credentials.decode) members
      let channels ← Decode.member? "channels" (Decode.list Channel.Declaration.decode) members
      let memory ← Decode.member? "memory" (Decode.optional Memory.decode) members
      let policy ← Decode.member? "policyRef" (Decode.optional Decode.string) members
      .ok {
        channels := channels.getD []
        memory := memory.join
        credentials := credentials.join
        policy := policy.join })
    (fun items => do
      let channels ← shape.item 0 (Decode.list Channel.Declaration.decode) (some []) items
      let memory ← shape.item 1 (Decode.optional Memory.decode) (some none) items
      let credentials ← shape.item 2 (Decode.optional Credentials.decode) (some none) items
      let policy ← shape.item 3 (Decode.optional Decode.string) (some none) items
      .ok { channels, memory, credentials, policy })

/-- The outline of a declaration. -/
def outline : Outline :=
  .positional shape [
    { key := "channels", outline := .list Channel.Declaration.outline },
    { key := "memory", outline := .optional Memory.outline },
    { key := "auth", outline := .optional Credentials.outline },
    { key := "policyRef", outline := .optional .text }]

end Spec

namespace Phase

/-- The name of a phase. -/
def name : Phase → String
  | .pending => "Pending"
  | .running => "Running"
  | .error => "Error"

/-- All phases in the order in which they are listed. -/
def all : List Phase := [.pending, .running, .error]

/-- A phase as JSON. -/
def encode (p : Phase) : Json := .str p.name

/-- Read a phase. -/
def decode : Json → Decode.Result Phase := Decode.variant (all.map fun p => (p.name, p))

/-- The outline of a phase. -/
def outline : Outline := .variant (all.map name)

end Phase

namespace Status

/-- The members of a status. -/
def members (s : Status) : List (String × Json) :=
  [("activeRuns", .int s.activeRuns.toInt),
   ("channels", .arr (s.channels.map Channel.Report.encode)),
   ("phase", s.phase.encode)]

/-- A status as JSON. -/
def encode (s : Status) : Json := .obj s.members

/-- How a status stands as a sequence. -/
def shape : Decode.Positional := ⟨"InstanceStatus", 3⟩

/-- Read a status. -/
def decode : Json → Decode.Result Status :=
  shape.decode
    (fun members => do
      let activeRuns ← Decode.member? "activeRuns" Decode.int64 members
      let channels ← Decode.member? "channels" (Decode.list Channel.Report.decode) members
      let phase ← Decode.member? "phase" Phase.decode members
      .ok {
        phase := phase.getD .pending
        channels := channels.getD []
        activeRuns := activeRuns.getD 0 })
    (fun items => do
      let phase ← shape.item 0 Phase.decode (some .pending) items
      let channels ← shape.item 1 (Decode.list Channel.Report.decode) (some []) items
      let activeRuns ← shape.item 2 Decode.int64 (some 0) items
      .ok { phase, channels, activeRuns })

/-- The outline of a status. -/
def outline : Outline :=
  .positional shape [
    { key := "phase", outline := Phase.outline },
    { key := "channels", outline := .list Channel.Report.outline },
    { key := "activeRuns", outline := .int64 }]

end Status

/-- An Instance as JSON. -/
def encode (i : Instance) : Json :=
  .record [
    ("apiVersion", some (.str apiVersion)),
    ("kind", some (.str "Instance")),
    ("metadata", some i.metadata.encode),
    ("spec", some i.spec.encode),
    ("status", i.status.map Status.encode)]

/-- How an Instance stands as a sequence. -/
def shape : Decode.Positional := ⟨"Instance", 3⟩

/-- Read an Instance. -/
def decode : Json → Decode.Result Instance :=
  shape.decode
    (fun members => do
      let metadata ← Decode.member? "metadata" Metadata.decode members
      let spec ← Decode.member? "spec" Spec.decode members
      let status ← Decode.member? "status" (Decode.optional Status.decode) members
      let metadata ← Decode.required "metadata" metadata
      .ok { metadata, spec := ← Decode.required "spec" spec, status := status.join })
    (fun items => do
      let metadata ← shape.item 0 Metadata.decode none items
      let spec ← shape.item 1 Spec.decode none items
      let status ← shape.item 2 (Decode.optional Status.decode) none items
      .ok { metadata, spec, status })

/-- The outline of an Instance. -/
def outline : Outline :=
  .positional shape [
    { key := "metadata", outline := Metadata.outline, presence := .owed },
    { key := "spec", outline := Spec.outline, presence := .owed },
    { key := "status", outline := .optional Status.outline, presence := .owedInSequence }]

end Instance

end WorkloadOperator
