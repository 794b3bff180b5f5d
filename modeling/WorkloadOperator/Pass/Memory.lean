import WorkloadOperator.Manifest
import WorkloadOperator.Pass.Error

/-!
# The memory store

A memory store is created once.  One that is there is left alone, and a failure
does not matter to the rest of the pass.
-/

namespace WorkloadOperator

namespace Pass

/-- Create the memory store if it is missing, and say whether it was. -/
def createMemory (o : Owner) : Pass Store.Error Bool := do
  match ← ask (.get .configMap ⟨o.ns, Naming.memoryStore o.name⟩) with
  | some _ => return false
  | none =>
    match ← (ask (.create .configMap o.ns o.memoryStore)).attempt with
    | .ok _ => return true
    | .error (.alreadyExists _) => return false
    | .error e => .fail e

/-- Provide the memory store of an Instance that wants one. -/
def provideMemory {ε : Type} (i : Instance) (o : Owner) : Pass ε Unit := do
  if i.wantsMemory then
    match ← (createMemory o).attempt with
    | .ok true => tell (.memoryStoreCreated i (Naming.memoryStore o.name))
    | .ok false | .error _ => return

end Pass

end WorkloadOperator
