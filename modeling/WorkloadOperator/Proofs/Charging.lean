import Mathlib.Data.List.Forall2
import WorkloadOperator.Proofs.Queueing

/-!
# Faults strike in turn

What a store should do with faults is told without a store.  For each verb and kind there is a list
of charges, one for each fault that was injected for it since all faults were last dropped, in the
order of their injection.  A charge says how often the fault may strike and how often it has, and a
request is on the account of the first charge that is not spent (`charges`).

A store keeps the faults of all verbs and kinds in one list and takes a fault off when it has struck
for the last time.  Its queue for a verb and kind stays in balance with the charges
(`Balanced.perform`): the faults that wait are those of the charges that are not spent, and what
such a fault has left and what it has caused make up what it was injected with.  So no counter runs
below zero, and a fault comes to its turn only when all faults before it have caused all their
failures.
-/

namespace WorkloadOperator

namespace Store

/-- How often a fault can still strike, none for always. -/
def Fault.uses (f : Fault) : Option Nat := f.further.map (· + 1)

/-! ## Charges -/

/-- A fault that was injected: how often it may strike, none for always, and how often it has. -/
structure Charge where
  error : Store.Error
  ration : Option Nat
  caused : Nat := 0
  deriving DecidableEq

namespace Charge

/-- The fault has struck as often as it may. -/
def Spent (c : Charge) : Prop := c.ration = some c.caused

instance (c : Charge) : Decidable c.Spent := inferInstanceAs (Decidable (_ = _))

/-- The fault strikes once more. -/
def charged (c : Charge) : Charge := { c with caused := c.caused + 1 }

/-- A fault in a store is what is left of a charge. -/
structure Owes (c : Charge) (f : Fault) : Prop where
  error : f.error = c.error
  ration : c.ration = f.uses.map (c.caused + ·)

end Charge

/-- The charges that are not spent. -/
def due (cs : List Charge) : List Charge := cs.filter fun c => ¬ c.Spent

/-- The first charge that is not spent causes one more failure. -/
def bill : List Charge → List Charge
  | [] => []
  | c :: cs => if c.Spent then c :: bill cs else c.charged :: cs

/-- What an operation makes of the charges for a verb and kind. -/
def account (verb : Verb) (kind : Kind) (cs : List Charge) : Operation → List Charge
  | .fail v k error => if v = verb ∧ k = kind then cs ++ [{ error, ration := none }] else cs
  | .failTimes v k times error =>
    if v = verb ∧ k = kind then cs ++ [{ error, ration := some times }] else cs
  | .clearFaults => []
  | .request r => if r.verb = verb ∧ r.kind = kind then bill cs else cs
  | .insertInstance _ | .insertDeployment _ _ | .insertRun _ _ | .touch _ | .requestDeletion _
  | .setReady _ _ | .setData _ _ | .setPhase _ _ => cs

/-- The charges for a verb and kind after operations in turn. -/
def charges (verb : Verb) (kind : Kind) (operations : List Operation) : List Charge :=
  operations.foldl (account verb kind) []

variable {c : Charge} {cs earlier later : List Charge} {f : Fault} {waiting : List Fault}
  {verb : Verb} {kind : Kind} {s : Store}

theorem charges_concat (verb : Verb) (kind : Kind) (operations : List Operation) (o : Operation) :
    charges verb kind (operations ++ [o]) = account verb kind (charges verb kind operations) o := by
  simp [charges]

theorem due_eq_nil_iff : due cs = [] ↔ ∀ c ∈ cs, c.Spent := by
  simp [due]

theorem due_append (cs cs' : List Charge) : due (cs ++ cs') = due cs ++ due cs' :=
  List.filter_append ..

/-- All charges are spent, or there is a first one that is not. -/
theorem due_cases (cs : List Charge) :
    (∀ c ∈ cs, c.Spent) ∨
      ∃ earlier c later, cs = earlier ++ c :: later ∧ (∀ c' ∈ earlier, c'.Spent) ∧ ¬ c.Spent := by
  induction cs with
  | nil => exact .inl nofun
  | cons c cs ih =>
    by_cases hspent : c.Spent
    · rcases ih with hall | ⟨earlier, d, later, rfl, hearlier, hd⟩
      · exact .inl (List.forall_mem_cons.2 ⟨hspent, hall⟩)
      · exact .inr ⟨c :: earlier, d, later, rfl, List.forall_mem_cons.2 ⟨hspent, hearlier⟩, hd⟩
    · exact .inr ⟨[], c, cs, rfl, nofun, hspent⟩

theorem due_of_first (hearlier : ∀ c' ∈ earlier, c'.Spent) (hc : ¬ c.Spent) (later : List Charge) :
    due (earlier ++ c :: later) = c :: due later := by
  rw [due_append, due_eq_nil_iff.2 hearlier, List.nil_append]
  exact List.filter_cons_of_pos (by simpa using hc)

theorem bill_of_spent (h : ∀ c ∈ cs, c.Spent) : bill cs = cs := by
  induction cs with
  | nil => rfl
  | cons c cs ih =>
    obtain ⟨hc, hcs⟩ := List.forall_mem_cons.1 h
    rw [bill, if_pos hc, ih hcs]

theorem bill_of_first (hearlier : ∀ c' ∈ earlier, c'.Spent) (hc : ¬ c.Spent)
    (later : List Charge) : bill (earlier ++ c :: later) = earlier ++ c.charged :: later := by
  induction earlier with
  | nil => exact if_neg hc
  | cons d earlier ih =>
    obtain ⟨hd, hearlier⟩ := List.forall_mem_cons.1 hearlier
    rw [List.cons_append, bill, if_pos hd, ih hearlier, List.cons_append]

/-! ## Balance -/

/-- A fault strikes on the account of its charge.  It is taken off exactly if the charge is spent
then. -/
theorem Charge.Owes.used (h : c.Owes f) :
    List.Forall₂ Charge.Owes (due [c.charged]) f.used.toList := by
  obtain ⟨herror, hration⟩ := h
  obtain ⟨verb, kind, error, further⟩ := f
  cases further with
  | none =>
    have hlive : ¬ c.charged.Spent := by simp [Charge.Spent, Charge.charged, hration, Fault.uses]
    rw [due, List.filter_cons_of_pos (by simpa using hlive)]
    exact .cons ⟨herror, hration⟩ .nil
  | some n =>
    cases n with
    | zero =>
      have hspent : c.charged.Spent := hration
      rw [due, List.filter_cons_of_neg (by simpa using hspent)]
      exact .nil
    | succ n =>
      have hlive : ¬ c.charged.Spent := by
        simp [Charge.Spent, Charge.charged, hration, Fault.uses]
      rw [due, List.filter_cons_of_pos (by simpa using hlive)]
      refine .cons ⟨herror, hration.trans ?_⟩ .nil
      simp [Fault.uses, Charge.charged]
      omega

/-- A queue of faults is in balance with the charges for its verb and kind. -/
structure Balanced (cs : List Charge) (waiting : List Fault) : Prop where
  /-- No fault strikes more often than it may. -/
  within : ∀ c ∈ cs, ∀ times, c.ration = some times → c.caused ≤ times
  /-- No fault strikes before the faults that were injected before it are spent. -/
  turns : cs.Pairwise fun earlier later => later.caused ≠ 0 → earlier.Spent
  /-- What waits is what is left of the charges that are not spent. -/
  owed : List.Forall₂ Charge.Owes (due cs) waiting

namespace Balanced

theorem nil : Balanced [] [] := ⟨nofun, .nil, .nil⟩

/-- A fault that has not struck yet takes its place behind all others, unless it may never
strike. -/
theorem append (h : Balanced cs waiting) (hfresh : c.caused = 0)
    (howed : List.Forall₂ Charge.Owes (due [c]) left) : Balanced (cs ++ [c]) (waiting ++ left) where
  within := by
    intro d hd times htimes
    rcases List.mem_append.1 hd with hd | hd
    · exact h.within d hd times htimes
    · rw [List.mem_singleton.1 hd, hfresh]
      exact Nat.zero_le times
  turns := by
    refine List.pairwise_append.2 ⟨h.turns, List.pairwise_singleton _ _, ?_⟩
    intro d _ e he hcaused
    rw [List.mem_singleton.1 he] at hcaused
    exact absurd hfresh hcaused
  owed := by
    rw [due_append]
    exact List.rel_append h.owed howed

/-- The first charge that is not spent is the one of the first fault that waits. -/
theorem first (h : Balanced (earlier ++ c :: later) waiting) (hearlier : ∀ c' ∈ earlier, c'.Spent)
    (hc : ¬ c.Spent) :
    ∃ f rest, waiting = f :: rest ∧ c.Owes f ∧ List.Forall₂ Charge.Owes (due later) rest := by
  have howed := h.owed
  rw [due_of_first hearlier hc] at howed
  cases howed with
  | cons hf hrest => exact ⟨_, _, rfl, hf, hrest⟩

/-- The first fault strikes. -/
theorem charged (h : Balanced (earlier ++ c :: later) (f :: waiting))
    (hearlier : ∀ c' ∈ earlier, c'.Spent) (hc : ¬ c.Spent) :
    Balanced (earlier ++ c.charged :: later) (f.used.toList ++ waiting) where
  within := by
    intro d hd times htimes
    rcases List.mem_append.1 hd with hd | hd
    · exact h.within d (List.mem_append_left _ hd) times htimes
    · rcases List.mem_cons.1 hd with rfl | hd
      · have hle : c.caused ≤ times := h.within c (by simp) times htimes
        have hne : c.caused ≠ times := fun he => hc (htimes.trans (congrArg some he.symm))
        exact Nat.lt_of_le_of_ne hle hne
      · exact h.within d (by simp [hd]) times htimes
  turns := by
    obtain ⟨hbefore, hafter, -⟩ := List.pairwise_append.1 h.turns
    obtain ⟨hfirst, hafter⟩ := List.pairwise_cons.1 hafter
    refine List.pairwise_append.2 ⟨hbefore, List.pairwise_cons.2 ⟨?_, hafter⟩, ?_⟩
    · intro d hd hcaused
      exact absurd (hfirst d hd hcaused) hc
    · intro d hd e _ _
      exact hearlier d hd
  owed := by
    obtain ⟨f', rest, hwaiting, hf, hrest⟩ := h.first hearlier hc
    cases hwaiting
    rw [due_append, due_eq_nil_iff.2 hearlier, List.nil_append, ← List.singleton_append, due_append]
    exact List.rel_append hf.used hrest

/-- A fault waits exactly if a charge is not spent. -/
theorem eq_nil_iff (h : Balanced cs waiting) : waiting = [] ↔ ∀ c ∈ cs, c.Spent := by
  rw [← due_eq_nil_iff, ← List.length_eq_zero_iff, ← h.owed.length_eq, List.length_eq_zero_iff]

end Balanced

/-- A request meets the fault of the first charge that is not spent. -/
theorem Balanced.strike {faults : List Fault} (h : Balanced cs (queue verb kind faults)) :
    ((∀ c ∈ cs, c.Spent) ∧ strike verb kind faults = none) ∨
      ∃ earlier c later left, cs = earlier ++ c :: later ∧ (∀ c' ∈ earlier, c'.Spent) ∧ ¬ c.Spent ∧
        strike verb kind faults = some (c.error, left) ∧
        Balanced (earlier ++ c.charged :: later) (queue verb kind left) ∧
        ∀ verb' kind', ¬ (verb = verb' ∧ kind = kind') →
          queue verb' kind' left = queue verb' kind' faults := by
  rcases strike_cases verb kind faults with
    ⟨hqueue, hnone⟩ | ⟨f, waiting, left, hqueue, hsome, hleft, hother⟩
  · exact .inl ⟨h.eq_nil_iff.1 hqueue, hnone⟩
  · rcases due_cases cs with hall | ⟨earlier, c, later, rfl, hearlier, hc⟩
    · cases hqueue.symm.trans (h.eq_nil_iff.2 hall)
    · rw [hqueue] at h
      obtain ⟨f', rest, hwaiting, hf, -⟩ := h.first hearlier hc
      cases hwaiting
      refine .inr ⟨earlier, c, later, left, rfl, hearlier, hc, hf.error ▸ hsome, ?_, hother⟩
      rw [hleft]
      exact h.charged hearlier hc

/-! ## Runs -/

/-- Operations that neither inject nor drop faults nor ask anything leave the faults as they are. -/
theorem faults_perform {o : Operation} (hdisturbs : o.kind? ≠ none) (hr : ∀ r, o ≠ .request r) :
    (s.perform o).faults = s.faults := by
  cases o with
  | insertInstance | insertDeployment | insertRun => exact faults_insert ..
  | touch | requestDeletion | setReady | setData | setPhase =>
    simp only [perform, touch, requestDeletion, setReady, setData, setPhase]
    repeat' split
    all_goals simp
  | fail | failTimes | clearFaults => exact absurd rfl hdisturbs
  | request r => exact absurd rfl (hr r)

theorem queue_inject (verb : Verb) (kind : Kind) (s : Store) (f : Fault) :
    queue verb kind (s.inject f).faults = queue verb kind s.faults ++ queue verb kind [f] :=
  List.filter_append ..

/-- A request leaves the queues of other requests alone. -/
theorem queue_serve_of_ne {r : Request} (hne : ¬ (r.verb = verb ∧ r.kind = kind)) :
    queue verb kind (s.serve r).2.faults = queue verb kind s.faults := by
  unfold serve
  split
  · next hstrike => exact queue_of_strike hstrike hne
  · rw [faults_answer]

/-- A fault that is injected has all its uses left. -/
theorem Balanced.inject (h : Balanced cs (queue verb kind s.faults)) (f : Fault) :
    Balanced
      (if f.verb = verb ∧ f.kind = kind then cs ++ [{ error := f.error, ration := f.uses }] else cs)
      (queue verb kind (s.inject f).faults) := by
  rw [queue_inject]
  split
  · next hf =>
    obtain ⟨rfl, rfl⟩ := hf
    have hlive : ¬ Charge.Spent { error := f.error, ration := f.uses } := by
      simp [Charge.Spent, Fault.uses]
    refine h.append rfl ?_
    rw [queue_cons_self, due, List.filter_cons_of_pos (by simpa using hlive)]
    exact .cons ⟨rfl, by simp⟩ .nil
  · next hne =>
    rw [queue_cons_of_ne hne]
    simpa [queue] using h

/-- An operation keeps each queue in balance with its charges. -/
theorem Balanced.perform (h : Balanced cs (queue verb kind s.faults)) (o : Operation) :
    Balanced (account verb kind cs o) (queue verb kind (s.perform o).faults) := by
  cases o with
  | insertInstance | insertDeployment | insertRun | touch | requestDeletion | setReady | setData
  | setPhase =>
    rw [faults_perform (by simp [Operation.kind?]) (by simp)]
    exact h
  | fail v k error => exact h.inject ⟨v, k, error, none⟩
  | failTimes v k times error =>
    cases times with
    | zero =>
      -- the charge is spent from the start, and no fault waits for it
      simp only [account]
      split
      · rw [← List.append_nil (queue verb kind _)]
        exact h.append rfl .nil
      · exact h
    | succ n => exact h.inject ⟨v, k, error, some n⟩
  | clearFaults => exact .nil
  | request r =>
    by_cases hr : r.verb = verb ∧ r.kind = kind
    · obtain ⟨rfl, rfl⟩ := hr
      simp only [account, Store.perform, and_self, if_true]
      rcases h.strike with
        ⟨hall, hnone⟩ | ⟨earlier, c, later, left, rfl, hearlier, hc, hsome, hleft, -⟩
      · rw [bill_of_spent hall, serve, hnone, faults_answer]
        exact h
      · rw [bill_of_first hearlier hc, serve, hsome]
        exact hleft
    · rw [account, if_neg hr, Store.perform, queue_serve_of_ne hr]
      exact h

theorem Balanced.run (verb : Verb) (kind : Kind) (operations : List Operation) :
    Balanced (charges verb kind operations)
      (queue verb kind (Store.empty.run operations).faults) := by
  have steps : ∀ (operations : List Operation) {cs : List Charge} {s : Store},
      Balanced cs (queue verb kind s.faults) →
      Balanced (operations.foldl (account verb kind) cs)
        (queue verb kind (operations.foldl Store.perform s).faults) := by
    intro operations
    induction operations with
    | nil => exact id
    | cons o operations ih => exact fun h => ih (h.perform o)
  exact steps operations .nil

/-- After any operations, the queue for each verb and kind is in balance with its charges, and a
request of that verb and kind meets a fault exactly if one of these charges is not spent.  Then its
error is that of the first such charge, which has caused one more failure, and nothing else changes,
nor do the queues of other requests.  A request that meets no fault is answered, and the charges are
as they were. -/
theorem struck_in_turn (operations : List Operation) :
    let s := Store.empty.run operations
    (∀ verb kind, Balanced (charges verb kind operations) (queue verb kind s.faults)) ∧
      ∀ r : Request,
        let cs := charges r.verb r.kind operations
        let cs' := charges r.verb r.kind (operations ++ [.request r])
        (s.Faulty r.verb r.kind ↔ ∃ c ∈ cs, ¬ c.Spent) ∧
          ((∀ c ∈ cs, c.Spent) ∧ s.serve r = s.answer r ∧ cs' = cs ∨
            ∃ earlier c later left, cs = earlier ++ c :: later ∧ (∀ c' ∈ earlier, c'.Spent) ∧
              ¬ c.Spent ∧ s.serve r = (.error c.error, { s with faults := left }) ∧
              cs' = earlier ++ c.charged :: later ∧
              ∀ verb kind, ¬ (r.verb = verb ∧ r.kind = kind) →
                queue verb kind left = queue verb kind s.faults) := by
  refine ⟨fun verb kind => Balanced.run verb kind operations, fun r => ?_⟩
  have hbill : charges r.verb r.kind (operations ++ [.request r]) =
      bill (charges r.verb r.kind operations) := by
    rw [charges_concat, account, if_pos ⟨rfl, rfl⟩]
  rcases (Balanced.run r.verb r.kind operations).strike with
    ⟨hall, hnone⟩ | ⟨earlier, c, later, left, hcs, hearlier, hc, hsome, -, hother⟩
  · have hnot : ¬ (Store.empty.run operations).Faulty r.verb r.kind := by simp [Faulty, hnone]
    refine ⟨iff_of_false hnot ?_, .inl ⟨hall, serve_of_not_faulty hnot, ?_⟩⟩
    · rintro ⟨c, hc, hlive⟩
      exact hlive (hall c hc)
    · rw [hbill, bill_of_spent hall]
  · have hfaulty : (Store.empty.run operations).Faulty r.verb r.kind := by simp [Faulty, hsome]
    refine ⟨iff_of_true hfaulty ⟨c, by simp [hcs], hc⟩,
      .inr ⟨earlier, c, later, left, hcs, hearlier, hc, by simp only [serve, hsome], ?_, hother⟩⟩
    rw [hbill, hcs, bill_of_first hearlier hc]

/-- A fault for one request, one for none and one for all of them, and two requests. -/
example (once never always : Store.Error) (ns selector : String) :
    charges .list .run [.failTimes .list .run 1 once, .failTimes .list .run 0 never,
        .fail .list .run always, .request (.listRuns ns selector), .request (.listRuns ns selector)] =
      [⟨once, some 1, 1⟩, ⟨never, some 0, 0⟩, ⟨always, none, 1⟩] :=
  rfl

end Store

end WorkloadOperator
