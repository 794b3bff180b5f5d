import WorkloadOperator.Event
import WorkloadOperator.Store.Request

/-!
# Passes

A pass is what the operator does for one Instance at one time.  It is a tree
that asks a store one request after the other, looks now and then whether it was
cancelled, and publishes events.  So a pass in progress is a value: what is left
of it after the answers it got.

`Pass.run` runs a pass against any surroundings that answer.
-/

namespace WorkloadOperator

/-- A pass that gives an `α` or ends with an `ε`. -/
inductive Pass (ε α : Type) where
  /-- The pass is over. -/
  | done (a : α)
  /-- The pass has failed. -/
  | fail (e : ε)
  /-- Ask a request, and go on with the answer. -/
  | request (r : Request) (next : r.Answer → Pass ε α)
  /-- Look whether the pass was cancelled, and go on with what was seen. -/
  | poll (next : Bool → Pass ε α)
  /-- Publish an event, and go on. -/
  | publish (e : Event) (next : Pass ε α)

namespace Pass

variable {ε δ α β σ : Type}

/-- Go on with the result of a pass. -/
def bind : Pass ε α → (α → Pass ε β) → Pass ε β
  | .done a, f => f a
  | .fail e, _ => .fail e
  | .request r next, f => .request r fun answer => (next answer).bind f
  | .poll next, f => .poll fun cancelled => (next cancelled).bind f
  | .publish e next, f => .publish e (next.bind f)

instance : Monad (Pass ε) where
  pure := .done
  bind := bind

/-- Say a failure in other words. -/
def mapError (f : ε → δ) : Pass ε α → Pass δ α
  | .done a => .done a
  | .fail e => .fail (f e)
  | .request r next => .request r fun answer => (next answer).mapError f
  | .poll next => .poll fun cancelled => (next cancelled).mapError f
  | .publish e next => .publish e (next.mapError f)

/-- Go on with the outcome of a pass, whether it failed or not. -/
def attempt : Pass ε α → Pass δ (Except ε α)
  | .done a => .done (.ok a)
  | .fail e => .done (.error e)
  | .request r next => .request r fun answer => (next answer).attempt
  | .poll next => .poll fun cancelled => (next cancelled).attempt
  | .publish e next => .publish e next.attempt

/-- Ask a request, and fail if it is refused. -/
def ask (r : Request) : Pass Store.Error r.Reply :=
  .request r fun
    | .ok reply => .done reply
    | .error e => .fail e

/-- Publish an event. -/
def tell (e : Event) : Pass ε Unit := .publish e (.done ())

@[simp] theorem bind_done (a : α) (f : α → Pass ε β) : (Pass.done a).bind f = f a := rfl

@[simp] theorem bind_fail (e : ε) (f : α → Pass ε β) : (Pass.fail e).bind f = .fail e := rfl

@[simp] theorem bind_request (r : Request) (next : r.Answer → Pass ε α) (f : α → Pass ε β) :
    (Pass.request r next).bind f = .request r fun answer => (next answer).bind f := rfl

@[simp] theorem bind_poll (next : Bool → Pass ε α) (f : α → Pass ε β) :
    (Pass.poll next).bind f = .poll fun cancelled => (next cancelled).bind f := rfl

@[simp] theorem bind_publish (e : Event) (next : Pass ε α) (f : α → Pass ε β) :
    (Pass.publish e next).bind f = .publish e (next.bind f) := rfl

theorem bind_assoc (p : Pass ε α) (f : α → Pass ε β) (g : β → Pass ε δ) :
    (p.bind f).bind g = p.bind fun a => (f a).bind g := by
  induction p with
  | done a => rfl
  | fail e => rfl
  | request r next ih => exact congrArg (Pass.request r) (funext ih)
  | poll next ih => exact congrArg Pass.poll (funext ih)
  | publish e next ih => exact congrArg (Pass.publish e) ih

theorem bind_done_right (p : Pass ε α) : p.bind .done = p := by
  induction p with
  | done a => rfl
  | fail e => rfl
  | request r next ih => exact congrArg (Pass.request r) (funext ih)
  | poll next ih => exact congrArg Pass.poll (funext ih)
  | publish e next ih => exact congrArg (Pass.publish e) ih

/-! ## Going on with outcomes -/

/-- What is left of a pass that is over. -/
def ofExcept : Except ε α → Pass ε α
  | .ok a => .done a
  | .error e => .fail e

/-- Go on with the outcome of a pass.  `bind`, `mapError` and `attempt` are cases of this,
so that what holds of it need not be proved for each of them. -/
def resume : Pass ε α → (Except ε α → Pass δ β) → Pass δ β
  | .done a, f => f (.ok a)
  | .fail e, f => f (.error e)
  | .request r next, f => .request r fun answer => (next answer).resume f
  | .poll next, f => .poll fun cancelled => (next cancelled).resume f
  | .publish e next, f => .publish e (next.resume f)

theorem bind_eq_resume (p : Pass ε α) (f : α → Pass ε β) :
    p.bind f = p.resume fun result => (ofExcept result).bind f := by
  induction p with
  | done a => rfl
  | fail e => rfl
  | request r next ih => exact congrArg (Pass.request r) (funext ih)
  | poll next ih => exact congrArg Pass.poll (funext ih)
  | publish e next ih => exact congrArg (Pass.publish e) ih

theorem mapError_eq_resume (g : ε → δ) (p : Pass ε α) :
    p.mapError g = p.resume fun result => ofExcept (result.mapError g) := by
  induction p with
  | done a => rfl
  | fail e => rfl
  | request r next ih => exact congrArg (Pass.request r) (funext ih)
  | poll next ih => exact congrArg Pass.poll (funext ih)
  | publish e next ih => exact congrArg (Pass.publish e) ih

theorem attempt_eq_resume (p : Pass ε α) : p.attempt (δ := δ) = p.resume .done := by
  induction p with
  | done a => rfl
  | fail e => rfl
  | request r next ih => exact congrArg (Pass.request r) (funext ih)
  | poll next ih => exact congrArg Pass.poll (funext ih)
  | publish e next ih => exact congrArg (Pass.publish e) ih

/-! ## Running -/

/-- What a pass runs against, with a state `σ`. -/
structure Surroundings (σ : Type) where
  /-- The answer to a request. -/
  serve : (r : Request) → σ → r.Answer × σ
  /-- Whether the pass was cancelled. -/
  isCancelled : σ → Bool
  /-- Take an event. -/
  publish : Event → σ → σ

/-- The outcome of a pass, and the state after it. -/
def run (w : Surroundings σ) : Pass ε α → σ → Except ε α × σ
  | .done a, s => (.ok a, s)
  | .fail e, s => (.error e, s)
  | .request r next, s =>
    let (answer, s) := w.serve r s
    (next answer).run w s
  | .poll next, s => (next (w.isCancelled s)).run w s
  | .publish e next, s => next.run w (w.publish e s)

theorem run_ofExcept (w : Surroundings σ) (result : Except ε α) (s : σ) :
    (ofExcept result).run w s = (result, s) := by
  cases result <;> rfl

/-- A pass goes on from where the part before it has come. -/
theorem run_resume (w : Surroundings σ) (p : Pass ε α) (f : Except ε α → Pass δ β) (s : σ) :
    (p.resume f).run w s = (f (p.run w s).1).run w (p.run w s).2 := by
  induction p generalizing s with
  | done a => rfl
  | fail e => rfl
  | request r next ih => exact ih _ _
  | poll next ih => exact ih _ _
  | publish e next ih => exact ih _

theorem run_bind (w : Surroundings σ) (p : Pass ε α) (f : α → Pass ε β) (s : σ) :
    (p.bind f).run w s =
      match p.run w s with
      | (.ok a, s) => (f a).run w s
      | (.error e, s) => (.error e, s) := by
  rw [bind_eq_resume, run_resume]
  obtain ⟨result, s'⟩ := p.run w s
  cases result <;> rfl

theorem run_mapError (w : Surroundings σ) (g : ε → δ) (p : Pass ε α) (s : σ) :
    (p.mapError g).run w s = ((p.run w s).1.mapError g, (p.run w s).2) := by
  rw [mapError_eq_resume, run_resume, run_ofExcept]

theorem run_attempt (w : Surroundings σ) (p : Pass ε α) (s : σ) :
    (p.attempt (δ := δ)).run w s = (.ok (p.run w s).1, (p.run w s).2) := by
  rw [attempt_eq_resume, run_resume, run]

end Pass

end WorkloadOperator
