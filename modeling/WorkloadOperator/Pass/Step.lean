import WorkloadOperator.Pass.Basic

/-!
# Passes step by step

Passes that run beside each other take turns.  A turn of a pass begins with the
answer to what it asked for, and ends where the pass sends the next message: a
request or an event.  What needs no message is dealt with in the same turn.

`run_pause` and `run_step` say that a pass which takes its turns comes out as it
does in one go, and `later_step` that every turn brings it nearer to its end.
-/

namespace WorkloadOperator

namespace Pass

variable {ε α σ : Type}

/-- The outcome of a pass that is over. -/
def outcome? : Pass ε α → Option (Except ε α)
  | .done a => some (.ok a)
  | .fail e => some (.error e)
  | .request _ _ | .poll _ | .publish _ _ => none

/-! ## What is left of a pass -/

/-- A pass that is left when another one has gone on by one word. -/
inductive Follows : Pass ε α → Pass ε α → Prop where
  | request (r : Request) (next : r.Answer → Pass ε α) (answer : r.Answer) :
      Follows (next answer) (.request r next)
  | poll (next : Bool → Pass ε α) (cancelled : Bool) : Follows (next cancelled) (.poll next)
  | publish (e : Event) (next : Pass ε α) : Follows next (.publish e next)

/-- A pass that is left when another one has gone on by one word or more. -/
abbrev Later : Pass ε α → Pass ε α → Prop := Relation.TransGen Follows

theorem follows_wf : WellFounded (Follows : Pass ε α → Pass ε α → Prop) := by
  constructor
  intro p
  induction p with
  | done a => exact ⟨_, fun _ h => nomatch h⟩
  | fail e => exact ⟨_, fun _ h => nomatch h⟩
  | request r next ih => exact ⟨_, fun _ h => by cases h; exact ih _⟩
  | poll next ih => exact ⟨_, fun _ h => by cases h; exact ih _⟩
  | publish e next ih => exact ⟨_, fun _ h => by cases h; exact ih⟩

theorem later_wf : WellFounded (Later : Pass ε α → Pass ε α → Prop) := follows_wf.transGen

/-! ## Turns -/

/-- What leaves the operator as a message. -/
structure Outbound (σ : Type) where
  /-- Whether a request is sent. -/
  request : Request → σ → Bool
  /-- Whether an event is sent. -/
  event : Event → σ → Bool

/-- Go on up to the next message. -/
def pause (w : Surroundings σ) (o : Outbound σ) : Pass ε α → σ → Pass ε α × σ
  | .done a, s => (.done a, s)
  | .fail e, s => (.fail e, s)
  | .request r next, s =>
    if o.request r s then (.request r next, s)
    else
      let (answer, s) := w.serve r s
      (next answer).pause w o s
  | .poll next, s => (next (w.isCancelled s)).pause w o s
  | .publish e next, s =>
    if o.event e s then (.publish e next, s) else next.pause w o (w.publish e s)

/-- A turn: take the answer to the message that was sent, and go on up to the next
one. -/
def step (w : Surroundings σ) (o : Outbound σ) : Pass ε α → σ → Pass ε α × σ
  | .done a, s => (.done a, s)
  | .fail e, s => (.fail e, s)
  | .request r next, s =>
    let (answer, s) := w.serve r s
    (next answer).pause w o s
  | .poll next, s => (next (w.isCancelled s)).pause w o s
  | .publish e next, s => next.pause w o (w.publish e s)

/-- To pause changes nothing of what comes out. -/
theorem run_pause (w : Surroundings σ) (o : Outbound σ) (p : Pass ε α) (s : σ) :
    (p.pause w o s).1.run w (p.pause w o s).2 = p.run w s := by
  induction p generalizing s with
  | done a => rfl
  | fail e => rfl
  | request r next ih =>
    by_cases h : o.request r s
    · simp [pause, h]
    · simpa [pause, h, run] using ih _ _
  | poll next ih => exact ih _ _
  | publish e next ih =>
    by_cases h : o.event e s
    · simp [pause, h]
    · simpa [pause, h, run] using ih _

/-- A turn changes nothing of what comes out. -/
theorem run_step (w : Surroundings σ) (o : Outbound σ) (p : Pass ε α) (s : σ) :
    (p.step w o s).1.run w (p.step w o s).2 = p.run w s := by
  cases p with
  | done a => rfl
  | fail e => rfl
  | request r next => exact run_pause w o _ _
  | poll next => exact run_pause w o _ _
  | publish e next => exact run_pause w o _ _

/-- A pass that pauses is the same or has gone on. -/
theorem later_pause (w : Surroundings σ) (o : Outbound σ) (p : Pass ε α) (s : σ) :
    (p.pause w o s).1 = p ∨ Later (p.pause w o s).1 p := by
  induction p generalizing s with
  | done a => exact .inl rfl
  | fail e => exact .inl rfl
  | request r next ih =>
    by_cases h : o.request r s
    · exact .inl (by simp [pause, h])
    · refine .inr ?_
      simp only [pause, h, Bool.false_eq_true, ↓reduceIte]
      rcases ih (w.serve r s).1 (w.serve r s).2 with e | l
      · rw [e]; exact .single (.request r next _)
      · exact l.tail (.request r next _)
  | poll next ih =>
    refine .inr ?_
    rcases ih (w.isCancelled s) s with e | l
    · rw [pause, e]; exact .single (.poll next _)
    · exact l.tail (.poll next _)
  | publish e next ih =>
    by_cases h : o.event e s
    · exact .inl (by simp [pause, h])
    · refine .inr ?_
      simp only [pause, h, Bool.false_eq_true, ↓reduceIte]
      rcases ih (w.publish e s) with e' | l
      · rw [e']; exact .single (.publish e next)
      · exact l.tail (.publish e next)

/-- A turn of a pass that is not over brings it on. -/
theorem later_step (w : Surroundings σ) (o : Outbound σ) (p : Pass ε α) (s : σ)
    (h : p.outcome? = none) : Later (p.step w o s).1 p := by
  cases p with
  | done a => cases h
  | fail e => cases h
  | request r next =>
    rcases later_pause w o (next (w.serve r s).1) (w.serve r s).2 with e | l
    · rw [step, e]; exact .single (.request r next _)
    · exact l.tail (.request r next _)
  | poll next =>
    rcases later_pause w o (next (w.isCancelled s)) s with e | l
    · rw [step, e]; exact .single (.poll next _)
    · exact l.tail (.poll next _)
  | publish e next =>
    rcases later_pause w o next (w.publish e s) with e' | l
    · rw [step, e']; exact .single (.publish e next)
    · exact l.tail (.publish e next)

end Pass

end WorkloadOperator
