import WorkloadOperator.Config
import WorkloadOperator.Naming
import WorkloadOperator.Pass.Error

/-!
# Tearing down

An Instance that is being deleted is held by the marker until all workloads
labelled for it are gone.  They are deleted and listed again, and only an empty
list lets go of the Instance.  Session stores and the memory store are deleted
as well as may be, and never hold the Instance.
-/

namespace WorkloadOperator

namespace Pass

/-- Put the marker on an Instance, after the finalizers it has. -/
def mark (ns : String) (i : Instance) : Pass Pass.Error Unit :=
  askStore (.patchFinalizers ⟨ns, i.name⟩ i.metadata.resourceVersion
    (i.metadata.finalizerList ++ [Instance.marker]))

/-- Take the marker off an Instance, which may be gone. -/
def unmark (ns : String) (i : Instance) : Pass Pass.Error Unit :=
  .request (.patchFinalizers ⟨ns, i.name⟩ i.metadata.resourceVersion
      (i.metadata.finalizerList.filter (· ≠ Instance.marker))) fun answer =>
    match Store.Error.ignoreMissing answer with
    | .ok () => .done ()
    | .error e => .fail (.store e)

/-- Delete workloads in turn. -/
def deleteWorkloads (ns : String) : List Deployment → Pass Pass.Error Unit
  | [] => .done ()
  | d :: ds => do
    checkpoint
    (discard .deployment ⟨ns, d.metadata.displayName⟩).mapError .store
    deleteWorkloads ns ds

/-- Delete session stores in turn, whether or not it succeeds. -/
def deleteSessions {ε : Type} (ns : String) : List VolumeClaim → Pass ε Unit
  | [] => .done ()
  | c :: cs => do
    let _ ← (discard .volumeClaim ⟨ns, c.metadata.displayName⟩).attempt
    deleteSessions ns cs

/-- Delete what holds data of an Instance, whether or not it succeeds. -/
def deleteStores {ε : Type} (ns name selector : String) : Pass ε Unit := do
  match ← (ask (.list .volumeClaim ns selector)).attempt with
  | .ok claims => deleteSessions ns claims
  | .error _ => pure ()
  let _ ← (discard .configMap ⟨ns, Naming.memoryStore name⟩).attempt

/-- Tear down the children of an Instance and let go of it. -/
def teardown (intervals : Config.Intervals) (ns : String) (i : Instance) :
    Pass Pass.Error Action := do
  let selector := Naming.componentSelector i.name Naming.channelComponent
  let workloads ← askStore (.list .deployment ns selector)
  deleteWorkloads ns workloads
  let remaining ← askStore (.list .deployment ns selector)
  if remaining ≠ [] then return .requeue intervals.onError
  deleteStores ns i.name selector
  if !i.isMarked then return .awaitChange
  checkpoint
  tell (.cleanupComplete i workloads.length)
  unmark ns i
  return .awaitChange

end Pass

end WorkloadOperator
