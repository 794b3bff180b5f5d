import WorkloadOperator.Pass.Error
import WorkloadOperator.Proofs.Tables

/-!
# A pass alone with a store

A pass that nobody interferes with runs against the store itself, and it is cancelled
from the start or not at all.  The lemmas say how its parts come out, and that the
journal of the store only grows (`journal_run`).
-/

namespace WorkloadOperator

namespace Pass

/-- The surroundings of a pass that is alone with a store. -/
def alone (cancelled : Bool) : Surroundings Store where
  serve r s := s.serve r
  isCancelled _ := cancelled
  publish _ s := s

variable {ε δ α β : Type} {cancelled : Bool} {s : Store}

/-! ## Parts -/

/-- A pass goes on with the result of a part that succeeded. -/
theorem run_bind_ok {p : Pass ε α} {f : α → Pass ε β} {a : α} {s' : Store}
    (h : p.run (alone cancelled) s = (.ok a, s')) :
    (p >>= f).run (alone cancelled) s = (f a).run (alone cancelled) s' := by
  show (p.bind f).run (alone cancelled) s = _
  rw [run_bind, h]

/-- A pass ends with a part that failed. -/
theorem run_bind_error {p : Pass ε α} {f : α → Pass ε β} {e : ε} {s' : Store}
    (h : p.run (alone cancelled) s = (.error e, s')) :
    (p >>= f).run (alone cancelled) s = (.error e, s') := by
  show (p.bind f).run (alone cancelled) s = _
  rw [run_bind, h]

theorem run_ask (r : Request) : (ask r).run (alone cancelled) s = s.serve r := by
  rw [ask, run, show (alone cancelled).serve r s = s.serve r from rfl]
  generalize s.serve r = served
  obtain ⟨answer, s'⟩ := served
  cases answer <;> rfl

theorem run_askStore (r : Request) :
    (askStore r).run (alone cancelled) s = ((s.serve r).1.mapError .store, (s.serve r).2) := by
  rw [askStore, run_mapError, run_ask]

theorem run_askStore_ok {r : Request} {reply : r.Reply} {s' : Store}
    (h : s.serve r = (.ok reply, s')) : (askStore r).run (alone cancelled) s = (.ok reply, s') := by
  rw [run_askStore, h]
  rfl

theorem run_askStore_error {r : Request} {e : Store.Error} {s' : Store}
    (h : s.serve r = (.error e, s')) :
    (askStore r).run (alone cancelled) s = (.error (.store e), s') := by
  rw [run_askStore, h]
  rfl

theorem run_attempt_eq {p : Pass ε α} {result : Except ε α} {s' : Store}
    (h : p.run (alone cancelled) s = (result, s')) :
    (p.attempt (δ := δ)).run (alone cancelled) s = (.ok result, s') := by
  rw [run_attempt, h]

theorem run_discard (c : Child) (key : Key) :
    ((discard c key).run (alone cancelled) s).2 = (s.serve (.delete c key)).2 := by
  rw [discard, run, show (alone cancelled).serve (.delete c key) s = s.serve (.delete c key) from rfl]
  generalize s.serve (.delete c key) = served
  obtain ⟨answer, s'⟩ := served
  show (Pass.run _ _ _).2 = s'
  split <;> rfl

/-! ## The journal -/

/-- What a pass does to a store is written at the end of the journal. -/
theorem journal_run (cancelled : Bool) (p : Pass ε α) (s : Store) :
    s.journal <+: (p.run (alone cancelled) s).2.journal := by
  induction p generalizing s with
  | done a => exact List.prefix_refl _
  | fail e => exact List.prefix_refl _
  | request r next ih => exact (s.journal_serve r).trans (ih _ _)
  | poll next ih => exact ih _ _
  | publish e next ih => exact ih _

end Pass

end WorkloadOperator
