import WorkloadOperator.Store.Serve

/-!
# Operations on a store

All that can happen to a store: requests, and what others than the operator do.
They insert Instances, workloads and Runs, touch an Instance, request its
deletion, report replicas, write notes and set phases.  Faults can be injected
and cleared.

A run of a store is a list of operations, and `Store.run` is the store after it.
-/

namespace WorkloadOperator

/-- Something that happens to a store. -/
inductive Operation where
  /-- File an Instance, in the namespace `default` if it has none. -/
  | insertInstance (i : Instance)
  /-- File a workload. -/
  | insertDeployment (ns : String) (d : Deployment)
  /-- File a Run. -/
  | insertRun (ns : String) (r : Run)
  /-- Give an Instance a new version. -/
  | touch (key : Key)
  /-- Ask for the deletion of an Instance, which vanishes at once if it has no
  finalizers. -/
  | requestDeletion (key : Key)
  /-- Report the ready replicas of a workload. -/
  | setReady (key : Key) (replicas : Int32)
  /-- Write the data of a ConfigMap. -/
  | setData (key : Key) (data : Labels)
  /-- Set the phase of a Run. -/
  | setPhase (key : Key) (phase : Run.Phase)
  /-- Let all requests of a verb and kind fail. -/
  | fail (verb : Verb) (kind : Kind) (error : Store.Error)
  /-- Let some requests of a verb and kind fail. -/
  | failTimes (verb : Verb) (kind : Kind) (times : Nat) (error : Store.Error)
  /-- Drop all faults. -/
  | clearFaults
  /-- Ask something of the store. -/
  | request (r : Request)

namespace Store

/-- The namespace of an Instance that has none. -/
def defaultNamespace : String := "default"

/-- File an Instance.  It is of the first generation if it has none. -/
def insertInstance (s : Store) (i : Instance) : Instance × Store :=
  let generation := i.metadata.generation.getD 1
  s.insert .inst (i.metadata.ns.getD defaultNamespace)
    { i with metadata := { i.metadata with generation := some generation } }

/-- Give an Instance a new version.  The version is used up even if there is no
such Instance. -/
def touch (s : Store) (key : Key) : Store :=
  let s := s.bump
  match s.find? .inst key with
  | none => s
  | some i =>
    s.put .inst key { i with metadata := { i.metadata with resourceVersion := some s.versionText } }

/-- Ask for the deletion of an Instance. -/
def requestDeletion (s : Store) (key : Key) : Store :=
  match s.find? .inst key with
  | none => s
  | some i =>
    if i.metadata.finalizerList = [] then s.drop .inst key
    else
      let s := s.bump
      s.put .inst key { i with
        metadata := { i.metadata with
          deletionTimestamp := some .now
          resourceVersion := some s.versionText } }

/-- Report the ready replicas of a workload. -/
def setReady (s : Store) (key : Key) (replicas : Int32) : Store :=
  match s.find? .deployment key with
  | none => s
  | some d =>
    s.put .deployment key
      { d with status := some { d.status.getD {} with readyReplicas := some replicas } }

/-- Write the data of a ConfigMap.  A version is used up even if there is no such
ConfigMap. -/
def setData (s : Store) (key : Key) (data : Labels) : Store :=
  let s := s.bump
  match s.find? .configMap key with
  | none => s
  | some c =>
    s.put .configMap key { c with
      data := some data
      metadata := { c.metadata with resourceVersion := some s.versionText } }

/-- Set the phase of a Run. -/
def setPhase (s : Store) (key : Key) (phase : Run.Phase) : Store :=
  match s.find? .run key with
  | none => s
  | some r => s.put .run key { r with status := some { phase := some phase } }

/-- Inject a fault. -/
def inject (s : Store) (f : Fault) : Store := { s with faults := s.faults ++ [f] }

/-- The store after an operation. -/
def perform (s : Store) : Operation → Store
  | .insertInstance i => (s.insertInstance i).2
  | .insertDeployment ns d => (s.insert .deployment ns d).2
  | .insertRun ns r => (s.insert .run ns r).2
  | .touch key => s.touch key
  | .requestDeletion key => s.requestDeletion key
  | .setReady key replicas => s.setReady key replicas
  | .setData key data => s.setData key data
  | .setPhase key phase => s.setPhase key phase
  | .fail verb kind error => s.inject ⟨verb, kind, error, none⟩
  | .failTimes _ _ 0 _ => s
  | .failTimes verb kind (n + 1) error => s.inject ⟨verb, kind, error, some n⟩
  | .clearFaults => { s with faults := [] }
  | .request r => (s.serve r).2

/-- The store after operations in turn. -/
def run (s : Store) (operations : List Operation) : Store := operations.foldl perform s

end Store

end WorkloadOperator
