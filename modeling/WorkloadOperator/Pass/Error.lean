import WorkloadOperator.Pass.Basic

/-!
# How a pass ends

A pass that succeeds says when the Instance is looked at again.  A pass fails
because of the store, because a channel could not be served, because it was
cancelled, or because something is not as it has to be.  All but the last are
worth a new attempt.
-/

namespace WorkloadOperator

/-- When an Instance is looked at again. -/
inductive Action where
  /-- When something changes. -/
  | awaitChange
  /-- After some seconds, or when something changes. -/
  | requeue (seconds : Nat)
  deriving DecidableEq, Repr

/-- Why a pass failed. -/
inductive Pass.Error where
  /-- The store refused a request. -/
  | store (cause : Store.Error)
  /-- The store refused a request for a channel. -/
  | channel (channel : Channel) (cause : Store.Error)
  /-- The pass was cancelled. -/
  | cancelled
  /-- Something is not as it has to be, and a new attempt would not help. -/
  | invariant (what : String)
  deriving DecidableEq

namespace Pass.Error

/-- The wording of an error. -/
def message : Pass.Error → String
  | .store cause => "store error: " ++ cause.message
  | .channel c cause => "channel " ++ c.name ++ " failed to converge: " ++ cause.message
  | .cancelled => "reconcile cancelled"
  | .invariant what => "invariant violated: " ++ what

/-- Whether a new attempt may help. -/
def isRetryable : Pass.Error → Bool
  | .invariant _ => false
  | .store _ | .channel _ _ | .cancelled => true

/-- When an Instance is looked at again after a failed pass. -/
def action (onError : Nat) (e : Pass.Error) : Action :=
  if e.isRetryable then .requeue onError else .awaitChange

end Pass.Error

namespace Pass

/-- Ask the store. -/
def askStore (r : Request) : Pass Pass.Error r.Reply := (ask r).mapError .store

/-- End the pass if it was cancelled. -/
def checkpoint : Pass Pass.Error Unit :=
  .poll fun cancelled => if cancelled then .fail .cancelled else .done ()

/-- Delete a child that may be gone already. -/
def discard (c : Child) (key : Key) : Pass Store.Error Unit :=
  .request (.delete c key) fun answer =>
    match Store.Error.ignoreMissing answer with
    | .ok () => .done ()
    | .error e => .fail e

end Pass

end WorkloadOperator
