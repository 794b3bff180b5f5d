import WorkloadOperator.Pass.Step

/-!
# Rounds

Passes that are under way at one time work in rounds: in a round every pass takes
one turn, in the order in which the passes began.  A pass that has ended leaves.

`shorter_round` says that rounds come to an end: after each of them there are
fewer passes, or the first one is nearer to its end.
-/

namespace WorkloadOperator

namespace Pass

variable {ι ε α σ : Type}

/-- A pass under way, and what it is for. -/
structure Task (ι ε α : Type) where
  subject : ι
  rest : Pass ε α

/-- What a pass has come to, and what it was for. -/
structure Outcome (ι ε α : Type) where
  subject : ι
  result : Except ε α

/-- Passes that go on, and those that have ended. -/
structure Round (ι ε α : Type) where
  going : List (Task ι ε α) := []
  ended : List (Outcome ι ε α) := []

namespace Round

/-- Put a pass in front of a round, according to whether it has ended. -/
def add (subject : ι) (p : Pass ε α) (r : Round ι ε α) : Round ι ε α :=
  match p.outcome? with
  | none => { r with going := ⟨subject, p⟩ :: r.going }
  | some result => { r with ended := ⟨subject, result⟩ :: r.ended }

end Round

/-- Let passes begin, one after the other. -/
def begin (w : Surroundings σ) (o : Outbound σ) : List (Task ι ε α) → σ → Round ι ε α × σ
  | [], s => ({}, s)
  | t :: ts, s =>
    let (p, s) := t.rest.pause w o s
    let (r, s) := begin w o ts s
    (r.add t.subject p, s)

/-- One round. -/
def round (w : Surroundings σ) (o : Outbound σ) : List (Task ι ε α) → σ → Round ι ε α × σ
  | [], s => ({}, s)
  | t :: ts, s =>
    let (p, s) := t.rest.step w o s
    let (r, s) := round w o ts s
    (r.add t.subject p, s)

/-! ## Rounds come to an end -/

/-- There are fewer passes, or as many, of which the first has gone on. -/
inductive Shorter : List (Task ι ε α) → List (Task ι ε α) → Prop where
  | fewer {ts ts' : List (Task ι ε α)} (h : ts'.length < ts.length) : Shorter ts' ts
  | ahead {t t' : Task ι ε α} {ts ts' : List (Task ι ε α)} (h : ts'.length = ts.length)
      (l : Later t'.rest t.rest) : Shorter (t' :: ts') (t :: ts)

theorem shorter_wf : WellFounded (Shorter : List (Task ι ε α) → List (Task ι ε α) → Prop) := by
  have key : ∀ n (ts : List (Task ι ε α)), ts.length = n → Acc Shorter ts := by
    intro n
    induction n using Nat.strongRecOn with
    | _ n fewer =>
      intro ts hn
      match ts, hn with
      | [], hn => exact ⟨_, fun ts' h => by cases h with | fewer h => simp at h⟩
      | ⟨i, p⟩ :: ts, hn =>
        induction p using later_wf.induction generalizing i ts with
        | _ p ih =>
          refine ⟨_, fun ts' h => ?_⟩
          cases h with
          | fewer h => exact fewer _ (hn ▸ h) _ rfl
          | ahead h l => exact ih _ l _ _ (by simpa [h] using hn)
  exact ⟨fun ts => key _ ts rfl⟩

instance : WellFoundedRelation (List (Task ι ε α)) := ⟨Shorter, shorter_wf⟩

theorem length_add_le (i : ι) (p : Pass ε α) (r : Round ι ε α) :
    (r.add i p).going.length ≤ r.going.length + 1 := by
  unfold Round.add
  split <;> simp

theorem length_round_le (w : Surroundings σ) (o : Outbound σ) (ts : List (Task ι ε α)) (s : σ) :
    (round w o ts s).1.going.length ≤ ts.length := by
  induction ts generalizing s with
  | nil => simp [round]
  | cons t ts ih =>
    exact Nat.le_trans (length_add_le _ _ _) (Nat.succ_le_succ (ih _))

/-- Whether every pass under way still has something to do. -/
def Busy (ts : List (Task ι ε α)) : Prop := ∀ t ∈ ts, t.rest.outcome? = none

theorem busy_add {r : Round ι ε α} (h : Busy r.going) (i : ι) (p : Pass ε α) :
    Busy (r.add i p).going := by
  unfold Round.add
  split
  · next hp =>
    intro t ht
    rcases List.mem_cons.1 ht with rfl | ht
    · exact hp
    · exact h t ht
  · exact h

theorem busy_begin (w : Surroundings σ) (o : Outbound σ) (ts : List (Task ι ε α)) (s : σ) :
    Busy (begin w o ts s).1.going := by
  induction ts generalizing s with
  | nil => exact fun t h => nomatch h
  | cons t ts ih => exact busy_add (ih _) _ _

theorem busy_round (w : Surroundings σ) (o : Outbound σ) (ts : List (Task ι ε α)) (s : σ) :
    Busy (round w o ts s).1.going := by
  induction ts generalizing s with
  | nil => exact fun t h => nomatch h
  | cons t ts ih => exact busy_add (ih _) _ _

/-- A round of passes that have something to do brings them nearer to their end. -/
theorem shorter_round (w : Surroundings σ) (o : Outbound σ) {ts : List (Task ι ε α)}
    (h : Busy ts) (hne : ts ≠ []) (s : σ) : Shorter (round w o ts s).1.going ts := by
  match ts, hne with
  | t :: ts, _ =>
    have hle := length_round_le w o ts (t.rest.step w o s).2
    have hl := later_step w o t.rest s (h t (List.mem_cons_self ..))
    simp only [round, Round.add]
    split
    · rcases Nat.lt_or_eq_of_le hle with hlt | heq
      · exact .fewer (by simpa using hlt)
      · exact .ahead heq hl
    · exact .fewer (Nat.lt_succ_of_le hle)

end Pass

end WorkloadOperator
