import WorkloadOperator.Pass.Basic
import WorkloadOperator.Store.Operation

/-!
# Rehearsals

A rehearsal runs passes against a store in memory while others interfere.  An
interference is set for a request of a verb and kind, and strikes once, directly
before or after it: it changes the store or cancels the pass.  So every
interleaving of a pass with others, request by request, can be rehearsed.

A rehearsal notes the calls with their answers and the events of the pass.
-/

namespace WorkloadOperator

namespace Rehearsal

/-- What an interference does. -/
inductive Deed where
  /-- Something happens to the store. -/
  | operation (o : Operation)
  /-- The pass is cancelled. -/
  | cancel

/-- On which side of a request an interference strikes. -/
inductive Side where
  | before
  | after
  deriving DecidableEq, Repr

/-- An interference that waits for its request. -/
structure Interference where
  verb : Verb
  kind : Kind
  side : Side
  /-- Which of the following requests it is set for, from one on. -/
  nth : Nat
  deeds : List Deed

/-- A request with its answer. -/
structure Call where
  request : Request
  answer : request.Answer

end Rehearsal

/-- A store that a pass is rehearsed against. -/
structure Rehearsal where
  store : Store := {}
  /-- The interferences that wait, in the order in which they were set. -/
  waiting : List Rehearsal.Interference := []
  /-- Whether the pass was cancelled. -/
  cancelled : Bool := false
  /-- Whether Instances are read without what tells them apart. -/
  hideUid : Bool := false
  /-- Whether Instances are read without their version. -/
  hideVersion : Bool := false
  /-- The calls of the pass in order. -/
  calls : List Rehearsal.Call := []
  /-- The events of the pass in order. -/
  events : List Event := []

namespace Rehearsal

/-- The rehearsal after a deed. -/
def commit (w : Rehearsal) : Deed → Rehearsal
  | .operation o => { w with store := w.store.perform o }
  | .cancel => { w with cancelled := true }

/-- Let the interferences strike that are set for this side of this request, and
count the request for the others. -/
def interfere (side : Side) (r : Request) (w : Rehearsal) : Rehearsal :=
  let concerns (i : Interference) : Bool := i.side = side ∧ i.verb = r.verb ∧ i.kind = r.kind
  let due (i : Interference) : Bool := concerns i && i.nth = 1
  let rest := (w.waiting.filter fun i => !due i).map fun i =>
    if concerns i then { i with nth := i.nth - 1 } else i
  let deeds := (w.waiting.filter due).flatMap Interference.deeds
  deeds.foldl commit { w with waiting := rest }

/-- What is read of an Instance. -/
def view (w : Rehearsal) (i : Instance) : Instance :=
  { i with metadata := { i.metadata with
      uid := if w.hideUid then none else i.metadata.uid
      resourceVersion := if w.hideVersion then none else i.metadata.resourceVersion } }

/-- An answer as it is read. -/
def seen (w : Rehearsal) : (r : Request) → r.Answer → r.Answer
  | .getInstance _, answer => answer.map fun found => found.map w.view
  | .get _ _, answer => answer
  | .create _ _ _, answer => answer
  | .list _ _ _, answer => answer
  | .delete _ _, answer => answer
  | .listRuns _ _, answer => answer
  | .patchFinalizers _ _ _, answer => answer
  | .patchStatus _ _ _, answer => answer

/-- The answer to a request, and the rehearsal after it. -/
def serve (r : Request) (w : Rehearsal) : r.Answer × Rehearsal :=
  let w := w.interfere .before r
  let (answer, store) := w.store.serve r
  let answer := w.seen r answer
  let w := { w with store, calls := w.calls ++ [(⟨r, answer⟩ : Call)] }
  (answer, w.interfere .after r)

/-- The surroundings of a rehearsed pass. -/
def surroundings : Pass.Surroundings Rehearsal where
  serve := serve
  isCancelled := Rehearsal.cancelled
  publish e w := { w with events := w.events ++ [e] }

/-- The outcome of a pass, which may be cancelled from the start, and the
rehearsal after it with the calls and events of this pass. -/
def rehearse {ε α : Type} (p : Pass ε α) (cancelled : Bool) (w : Rehearsal) :
    Except ε α × Rehearsal :=
  p.run surroundings { w with cancelled, calls := [], events := [] }

end Rehearsal

end WorkloadOperator
