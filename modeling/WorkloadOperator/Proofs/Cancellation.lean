import WorkloadOperator.Pass.Reconcile
import WorkloadOperator.Proofs.Alone
import WorkloadOperator.Proofs.Filing

/-!
# What a cancelled pass does

A pass that is cancelled before it starts changes nothing as long as it comes to a
checkpoint before its first change.  On one way it does not: the teardown of an
Instance whose workloads are gone looks at the cancellation only after it has
deleted the session stores and the memory store.  `untouched_iff` says that this is
the only way, and what it takes.
-/

namespace WorkloadOperator

namespace Store

/-- Whether the next request of a verb and kind meets a fault. -/
def Faulty (s : Store) (verb : Verb) (kind : Kind) : Prop :=
  (strike verb kind s.faults).isSome = true

instance (s : Store) (verb : Verb) (kind : Kind) : Decidable (s.Faulty verb kind) :=
  inferInstanceAs (Decidable (_ = true))

/-- Whether that many requests of a verb and kind in a row all meet a fault. -/
def allFail (verb : Verb) (kind : Kind) : Nat → List Fault → Bool
  | 0, _ => true
  | n + 1, faults =>
    match strike verb kind faults with
    | none => false
    | some (_, faults) => allFail verb kind n faults

/-- The objects and the journal of a store are those of another one. -/
structure Untouched (s s' : Store) : Prop where
  objects : ∀ κ, s'.table κ = s.table κ
  journal : s'.journal = s.journal

variable {s s' : Store} {verb verb' : Verb} {kind kind' : Kind}

theorem Untouched.refl (s : Store) : Untouched s s := ⟨fun _ => rfl, rfl⟩

theorem untouched_faults (s : Store) (faults : List Fault) : Untouched s { s with faults } :=
  ⟨fun κ => by cases κ <;> rfl, rfl⟩

theorem not_untouched_of_lt (h : s.journal.length < s'.journal.length) : ¬ Untouched s s' :=
  fun hu => Nat.lt_irrefl _ (hu.journal ▸ h)

/-! ## Faults -/

theorem serve_of_faulty {r : Request} (h : s.Faulty r.verb r.kind) :
    ∃ e faults, strike r.verb r.kind s.faults = some (e, faults) ∧
      s.serve r = (.error e, { s with faults }) := by
  obtain ⟨⟨e, faults⟩, hstrike⟩ := Option.isSome_iff_exists.1 h
  exact ⟨e, faults, hstrike, by simp only [serve, hstrike]⟩

theorem serve_of_not_faulty {r : Request} (h : ¬ s.Faulty r.verb r.kind) :
    s.serve r = s.answer r := by
  have hstrike : strike r.verb r.kind s.faults = none := Option.not_isSome_iff_eq_none.1 h
  simp only [serve, hstrike]

theorem isSome_strike (faults : List Fault) :
    (strike verb kind faults).isSome = faults.any fun f => f.verb = verb ∧ f.kind = kind := by
  induction faults with
  | nil => rfl
  | cons f faults ih =>
    unfold strike
    split
    · next h => simp [h]
    · next h => simp [h, ih]

/-- A fault that was used waits for the same requests. -/
theorem mem_used {f g : Fault} (h : g ∈ f.used) : g.verb = f.verb ∧ g.kind = f.kind := by
  unfold Fault.used at h
  split at h
  · cases h
    exact ⟨rfl, rfl⟩
  · cases h
  · cases h
    exact ⟨rfl, rfl⟩

/-- A fault that strikes leaves the faults for other requests. -/
theorem isSome_strike_of_strike {faults faults' : List Fault} {e : Store.Error}
    (h : strike verb kind faults = some (e, faults')) (hne : ¬ (verb' = verb ∧ kind' = kind)) :
    (strike verb' kind' faults').isSome = (strike verb' kind' faults).isSome := by
  induction faults generalizing faults' with
  | nil => cases h
  | cons f faults ih =>
    unfold strike at h
    split at h
    · next hf =>
      cases h
      have hother : ¬ (f.verb = verb' ∧ f.kind = kind') := by
        rintro ⟨rfl, rfl⟩
        exact hne hf
      have hused : (f.used.toList.any fun g => g.verb = verb' ∧ g.kind = kind') = false := by
        refine List.any_eq_false.2 fun g hg => ?_
        obtain ⟨hverb, hkind⟩ := mem_used (Option.mem_toList.1 hg)
        rw [hverb, hkind]
        simpa using hother
      rw [isSome_strike, isSome_strike, List.any_append, hused, List.any_cons, decide_eq_false hother]
    · obtain ⟨⟨e', left⟩, hstrike, he⟩ := Option.map_eq_some_iff.1 h
      cases he
      rw [isSome_strike, isSome_strike, List.any_cons, List.any_cons, ← isSome_strike,
        ← isSome_strike, ih hstrike]

/-- A fault that strikes leaves the other requests as they were. -/
theorem faulty_of_strike {faults : List Fault} {e : Store.Error}
    (h : strike verb kind s.faults = some (e, faults)) (hne : ¬ (verb' = verb ∧ kind' = kind)) :
    ({ s with faults } : Store).Faulty verb' kind' ↔ s.Faulty verb' kind' := by
  rw [Faulty, Faulty, isSome_strike_of_strike h hne]

/-- A child that is there is deleted, and the journal says so. -/
theorem journal_delete {c : Child} {key : Key} (h : ¬ s.Faulty .delete c.kind)
    (hfound : (s.find? c.kind key).isSome = true) :
    (s.serve (.delete c key)).2.journal = s.journal ++ [⟨.delete, c.kind, key.name⟩] := by
  rw [serve_of_not_faulty (r := .delete c key) h]
  simp only [answer, if_pos hfound, journal_record, journal_drop]

theorem delete_of_not_found {c : Child} {key : Key} (h : ¬ s.Faulty .delete c.kind)
    (hfound : ¬ (s.find? c.kind key).isSome = true) : (s.serve (.delete c key)).2 = s := by
  rw [serve_of_not_faulty (r := .delete c key) h]
  simp only [answer, if_neg hfound]

end Store

namespace Pass

open Store

variable {ε : Type} {cancelled : Bool} {s : Store} {ns : String}

theorem run_deleteSessions_cons (c : VolumeClaim) (cs : List VolumeClaim) :
    (deleteSessions (ε := ε) ns (c :: cs)).run (alone cancelled) s =
      (deleteSessions ns cs).run (alone cancelled)
        (s.serve (.delete .volumeClaim ⟨ns, c.metadata.displayName⟩)).2 := by
  show ((discard .volumeClaim ⟨ns, c.metadata.displayName⟩).attempt.bind fun _ =>
    deleteSessions ns cs).run (alone cancelled) s = _
  rw [run_bind, run_attempt, run_discard]

/-- If all deletions fail, then faults are used up, and nothing else happens. -/
theorem run_deleteSessions_of_allFail {cs : List VolumeClaim}
    (h : allFail .delete .volumeClaim cs.length s.faults = true) :
    ∃ faults, ((deleteSessions (ε := ε) ns cs).run (alone cancelled) s).2 = { s with faults } ∧
      ∀ verb kind, ¬ (verb = .delete ∧ kind = .volumeClaim) →
        (({ s with faults } : Store).Faulty verb kind ↔ s.Faulty verb kind) := by
  induction cs generalizing s with
  | nil => exact ⟨s.faults, rfl, fun _ _ _ => Iff.rfl⟩
  | cons c cs ih =>
    rw [List.length_cons, allFail] at h
    split at h
    · cases h
    · next e faults hstrike =>
      have hserve : (s.serve (.delete .volumeClaim ⟨ns, c.metadata.displayName⟩)).2 =
          { s with faults } := by
        simp only [Store.serve, Request.verb, Request.kind, hstrike]
      obtain ⟨faults', hrun, hother⟩ := ih (s := { s with faults }) h
      refine ⟨faults', ?_, ?_⟩
      · rw [run_deleteSessions_cons, hserve, hrun]
      · intro verb kind hne
        exact (hother verb kind hne).trans (faulty_of_strike hstrike hne)

/-- If a deletion does not fail, then it is in the journal. -/
theorem run_deleteSessions_of_not_allFail {cs : List VolumeClaim}
    (h : allFail .delete .volumeClaim cs.length s.faults = false)
    (hfound : ∀ c ∈ cs, (s.find? .volumeClaim ⟨ns, c.metadata.displayName⟩).isSome = true) :
    s.journal.length <
      ((deleteSessions (ε := ε) ns cs).run (alone cancelled) s).2.journal.length := by
  induction cs generalizing s with
  | nil => cases h
  | cons c cs ih =>
    rw [run_deleteSessions_cons]
    rw [List.length_cons, allFail] at h
    split at h
    · next hstrike =>
      have hnot : ¬ s.Faulty .delete Child.volumeClaim.kind := by
        simp [Faulty, hstrike]
      have hjournal := journal_delete hnot (hfound c List.mem_cons_self)
      have hrest := (journal_run cancelled (deleteSessions (ε := ε) ns cs)
        (s.serve (.delete .volumeClaim ⟨ns, c.metadata.displayName⟩)).2).length_le
      rw [hjournal, List.length_append] at hrest
      exact hrest
    · next e faults hstrike =>
      have hserve : (s.serve (.delete .volumeClaim ⟨ns, c.metadata.displayName⟩)).2 =
          { s with faults } := by
        simp only [Store.serve, Request.verb, Request.kind, hstrike]
      rw [hserve]
      refine ih (s := { s with faults }) h fun c' hc' => ?_
      rw [find?_faults]
      exact hfound c' (List.mem_cons_of_mem _ hc')

theorem run_deleteSessions_ok (cs : List VolumeClaim) :
    ((deleteSessions (ε := ε) ns cs).run (alone cancelled) s).1 = .ok () := by
  induction cs generalizing s with
  | nil => rfl
  | cons c cs ih =>
    rw [run_deleteSessions_cons]
    exact ih

end Pass

namespace Store

/-- A cancelled pass that has come so far would delete a session store. -/
def LosesSessions (s : Store) (ns selector : String) : Prop :=
  ¬ s.Faulty .list .volumeClaim ∧
    allFail .delete .volumeClaim (s.select .volumeClaim ns selector).length s.faults = false

/-- A cancelled pass that has come so far would delete the memory store. -/
def LosesMemory (s : Store) (key : Key) : Prop :=
  ¬ s.Faulty .delete .configMap ∧ (s.find? .configMap key).isSome = true

instance (s : Store) (ns selector : String) : Decidable (s.LosesSessions ns selector) :=
  inferInstanceAs (Decidable (_ ∧ _))

instance (s : Store) (key : Key) : Decidable (s.LosesMemory key) :=
  inferInstanceAs (Decidable (_ ∧ _))

end Store

namespace Pass

open Store

variable {ε : Type} {cancelled : Bool} {s : Store} (ns name selector : String)

theorem run_deleteMemory :
    (((discard .configMap ⟨ns, Naming.memoryStore name⟩).attempt.bind fun _ =>
      (done () : Pass ε Unit)).run (alone cancelled) s).2 =
      (s.serve (.delete .configMap ⟨ns, Naming.memoryStore name⟩)).2 := by
  rw [run_bind, run_attempt]
  exact run_discard _ _

theorem run_deleteStores_ok :
    ((deleteStores (ε := ε) ns name selector).run (alone cancelled) s).1 = .ok () := by
  have last (s' : Store) : (((discard .configMap ⟨ns, Naming.memoryStore name⟩).attempt.bind fun _ =>
      (done () : Pass ε Unit)).run (alone cancelled) s').1 = .ok () := by
    rw [run_bind, run_attempt]
    rfl
  unfold deleteStores
  generalize hserve : s.serve (.list .volumeClaim ns selector) = served
  obtain ⟨answer, s'⟩ := served
  rw [run_bind_ok (run_attempt_eq ((run_ask _).trans hserve))]
  cases answer with
  | error e => exact last _
  | ok claims =>
    refine Eq.trans (congrArg Prod.fst (run_bind_ok (Prod.ext (run_deleteSessions_ok _) rfl))) ?_
    exact last _

/-- The store is left as it was, faults apart, until the memory store is deleted, or the
journal has grown by then. -/
theorem run_deleteStores (h : s.Filed) :
    ∃ s', ((deleteStores (ε := ε) ns name selector).run (alone cancelled) s).2 =
        (s'.serve (.delete .configMap ⟨ns, Naming.memoryStore name⟩)).2 ∧
      (s.LosesSessions ns selector → s.journal.length < s'.journal.length) ∧
      (¬ s.LosesSessions ns selector → ∃ faults, s' = { s with faults } ∧
        (({ s with faults } : Store).Faulty .delete .configMap ↔ s.Faulty .delete .configMap)) := by
  unfold deleteStores
  by_cases hlist : s.Faulty .list .volumeClaim
  · obtain ⟨e, faults, hstrike, hserve⟩ :=
      serve_of_faulty (r := .list .volumeClaim ns selector) hlist
    refine ⟨{ s with faults }, ?_, fun hloses => absurd hlist hloses.1, fun _ => ⟨faults, rfl, ?_⟩⟩
    · rw [run_bind_ok (run_attempt_eq ((run_ask _).trans hserve))]
      exact run_deleteMemory ns name
    · refine faulty_of_strike hstrike ?_
      rintro ⟨hverb, _⟩
      cases hverb
  · have hserve := serve_of_not_faulty (r := .list .volumeClaim ns selector) hlist
    have hfound : ∀ c ∈ s.select .volumeClaim ns selector,
        (s.find? .volumeClaim ⟨ns, c.metadata.displayName⟩).isSome = true := by
      intro c hc
      exact Option.isSome_iff_exists.2 ⟨c, h.found hc⟩
    refine ⟨((deleteSessions (ε := ε) ns (s.select .volumeClaim ns selector)).run
      (alone cancelled) s).2, ?_, fun hloses => ?_, fun hkeeps => ?_⟩
    · rw [run_bind_ok (run_attempt_eq ((run_ask _).trans hserve))]
      refine Eq.trans (congrArg Prod.snd (run_bind_ok (Prod.ext (run_deleteSessions_ok _) rfl))) ?_
      exact run_deleteMemory ns name
    · exact run_deleteSessions_of_not_allFail hloses.2 hfound
    · have hall : allFail .delete .volumeClaim (s.select .volumeClaim ns selector).length s.faults =
          true := by
        cases hcase : allFail .delete .volumeClaim (s.select .volumeClaim ns selector).length s.faults
        · exact absurd ⟨hlist, hcase⟩ hkeeps
        · rfl
      obtain ⟨faults, hrun, hother⟩ := run_deleteSessions_of_allFail hall
      exact ⟨faults, hrun, hother _ _ (by decide)⟩

/-- The data of an Instance is left alone exactly if there is none, or faults keep it. -/
theorem untouched_deleteStores_iff (h : s.Filed) :
    Untouched s ((deleteStores (ε := ε) ns name selector).run (alone cancelled) s).2 ↔
      ¬ s.LosesSessions ns selector ∧ ¬ s.LosesMemory ⟨ns, Naming.memoryStore name⟩ := by
  obtain ⟨s', hrun, hloses, hkeeps⟩ :=
    run_deleteStores (ε := ε) ns name selector h
  rw [hrun]
  by_cases hsessions : s.LosesSessions ns selector
  · -- no later deletion takes an entry out of the journal again
    have hlater := (s'.journal_serve (.delete .configMap ⟨ns, Naming.memoryStore name⟩)).length_le
    constructor
    · intro hu
      exact absurd hu (not_untouched_of_lt (Nat.lt_of_lt_of_le (hloses hsessions) hlater))
    · rintro ⟨hnot, _⟩
      exact absurd hsessions hnot
  · obtain ⟨faults, rfl, hfaulty⟩ := hkeeps hsessions
    by_cases hmemory : s.LosesMemory ⟨ns, Naming.memoryStore name⟩
    · have hfound : (({ s with faults } : Store).find? .configMap
          ⟨ns, Naming.memoryStore name⟩).isSome = true := by
        rw [find?_faults]
        exact hmemory.2
      have hjournal := journal_delete (c := .configMap) (fun hf => hmemory.1 (hfaulty.1 hf)) hfound
      constructor
      · intro hu
        refine absurd hu (not_untouched_of_lt ?_)
        rw [hjournal, List.length_append]
        exact Nat.lt_succ_self _
      · rintro ⟨_, hnot⟩
        exact absurd hmemory hnot
    · refine iff_of_true ?_ ⟨hsessions, hmemory⟩
      by_cases hf : s.Faulty .delete .configMap
      · obtain ⟨e, left, _, hserve⟩ := serve_of_faulty (s := { s with faults })
          (r := .delete .configMap ⟨ns, Naming.memoryStore name⟩) (hfaulty.2 hf)
        rw [hserve]
        exact untouched_faults s left
      · have hnone : ¬ (({ s with faults } : Store).find? .configMap
            ⟨ns, Naming.memoryStore name⟩).isSome = true := by
          rw [find?_faults]
          exact fun hfound => hmemory ⟨hf, hfound⟩
        rw [delete_of_not_found (c := .configMap) (fun h => hf (hfaulty.1 h)) hnone]
        exact untouched_faults s faults

/-! ## Whole passes -/

/-- To converge is to come to a checkpoint first. -/
theorem run_converge (cfg : Config) (i : Instance) :
    ((converge cfg ns i).run (alone true) s).2 = s := by
  unfold converge
  split
  · rfl
  · unfold serveChannels
    cases i.spec.channels with
    | nil => rfl
    | cons d ds => rfl

theorem run_teardown_of_faulty (intervals : Config.Intervals) (i : Instance)
    (h : s.Faulty .list .deployment) :
    Untouched s ((teardown intervals ns i).run (alone true) s).2 := by
  obtain ⟨e, faults, _, hserve⟩ := serve_of_faulty (r := .list .deployment ns
    (Naming.componentSelector i.name Naming.channelComponent)) h
  unfold teardown
  rw [run_bind_error (run_askStore_error hserve)]
  exact untouched_faults s faults

/-- The workloads are listed twice, and each one waits for a checkpoint. -/
theorem run_teardown (intervals : Config.Intervals) (i : Instance)
    (h : ¬ s.Faulty .list .deployment) :
    ((teardown intervals ns i).run (alone true) s).2 =
      if s.select .deployment ns (Naming.componentSelector i.name Naming.channelComponent) = [] then
        ((deleteStores (ε := Pass.Error) ns i.name
          (Naming.componentSelector i.name Naming.channelComponent)).run (alone true) s).2
      else s := by
  have hserve := serve_of_not_faulty (r := .list .deployment ns
    (Naming.componentSelector i.name Naming.channelComponent)) h
  have hlist : (askStore (.list .deployment ns
      (Naming.componentSelector i.name Naming.channelComponent))).run (alone true) s =
      (.ok (s.select .deployment ns
        (Naming.componentSelector i.name Naming.channelComponent)), s) := run_askStore_ok hserve
  unfold teardown
  rw [run_bind_ok hlist]
  cases hselect : s.select .deployment ns
      (Naming.componentSelector i.name Naming.channelComponent) with
  | cons d ds => rfl
  | nil =>
    have hnothing : (deleteWorkloads ns []).run (alone true) s = (.ok (), s) := rfl
    rw [run_bind_ok hnothing, run_bind_ok hlist, hselect, if_pos rfl, if_neg (fun h => h rfl),
      run_bind_ok (Prod.ext (run_deleteStores_ok ns i.name _) rfl)]
    split <;> rfl

end Pass

namespace Store

/-- A teardown of the Instance under a key finds its workloads gone, and data of it that
faults do not keep. -/
def Exposed (s : Store) (key : Key) : Prop :=
  let selector := Naming.componentSelector key.name Naming.channelComponent
  (∃ i ∈ s.find? .inst key, i.isDeleting = true) ∧
    ¬ s.Faulty .get .inst ∧ ¬ s.Faulty .list .deployment ∧
    s.select .deployment key.ns selector = [] ∧
    (s.LosesSessions key.ns selector ∨ s.LosesMemory ⟨key.ns, Naming.memoryStore key.name⟩)

instance (s : Store) (key : Key) : Decidable (s.Exposed key) :=
  inferInstanceAs (Decidable ((∃ i ∈ s.find? .inst key, _) ∧ _))

end Store

namespace Pass

open Store

variable {s : Store}

theorem untouched_teardown_iff (h : s.Filed) (intervals : Config.Intervals) {key : Key}
    {i : Instance} (hi : s.find? .inst key = some i) (hdeleting : i.isDeleting = true)
    (hget : ¬ s.Faulty .get .inst) :
    Untouched s ((teardown intervals key.ns i).run (alone true) s).2 ↔ ¬ s.Exposed key := by
  have hname : i.name = key.name := (h .inst key i hi).name
  by_cases hlist : s.Faulty .list .deployment
  · refine iff_of_true (run_teardown_of_faulty _ intervals i hlist) ?_
    rintro ⟨_, _, hnot, _⟩
    exact hnot hlist
  · rw [run_teardown _ intervals i hlist, hname]
    split
    · next hnone =>
      rw [untouched_deleteStores_iff _ _ _ h]
      constructor
      · rintro ⟨hsessions, hmemory⟩ ⟨_, _, _, _, hloses⟩
        exact hloses.elim hsessions hmemory
      · intro hnot
        have hkeeps := fun hloses => hnot ⟨⟨i, hi, hdeleting⟩, hget, hlist, hnone, hloses⟩
        exact ⟨fun hsessions => hkeeps (.inl hsessions), fun hmemory => hkeeps (.inr hmemory)⟩
    · next hsome =>
      refine iff_of_true (Untouched.refl s) ?_
      rintro ⟨_, _, _, hnone, _⟩
      exact hsome hnone

/-- A pass that is cancelled before it starts leaves all objects and the journal as they
are, whatever has happened to the store before and whatever faults wait, unless it tears
down an Instance whose workloads are gone and whose data are not. -/
theorem untouched_iff (operations : List Operation) (cfg : Config) (key : Key) :
    Untouched (Store.empty.run operations)
        ((reconcile cfg key).run (alone true) (Store.empty.run operations)).2 ↔
      ¬ (Store.empty.run operations).Exposed key := by
  have filed := filed_empty.run operations
  generalize Store.empty.run operations = s at filed ⊢
  unfold reconcile
  by_cases hget : s.Faulty .get .inst
  · obtain ⟨e, faults, _, hserve⟩ := serve_of_faulty (r := .getInstance key) hget
    rw [run_bind_error (run_askStore_error hserve)]
    refine iff_of_true (untouched_faults s faults) ?_
    rintro ⟨_, hnot, _⟩
    exact hnot hget
  · have hserve := serve_of_not_faulty (r := .getInstance key) hget
    rw [run_bind_ok (run_askStore_ok hserve)]
    cases hfind : s.find? .inst key with
    | none =>
      refine iff_of_true (Untouched.refl s) ?_
      rintro ⟨⟨i, hi, _⟩, _⟩
      rw [hfind] at hi
      cases hi
    | some i =>
      cases hdeleting : i.isDeleting with
      | true =>
        have hteardown := untouched_teardown_iff filed cfg.intervals hfind hdeleting hget
        rcases Instance.stage_of_isDeleting hdeleting with hstage | hstage
        · simpa only [hstage] using hteardown
        · simpa only [hstage] using hteardown
      | false =>
        refine iff_of_true ?_ ?_
        · rcases Instance.stage_of_not_isDeleting hdeleting with hstage | hstage
          · simp only [hstage]
            exact Untouched.refl s
          · simp only [hstage]
            have hconverge := run_converge (s := s) key.ns cfg i
            exact hconverge.symm ▸ Untouched.refl s
        · rintro ⟨⟨j, hj, hyes⟩, _⟩
          cases hfind.symm.trans hj
          rw [hdeleting] at hyes
          cases hyes

/-- The notes of an Instance without workloads are lost to a cancelled pass. -/
example : (Store.empty.run [
    .insertInstance {
      metadata := {
        name := some "bot"
        ns := some "tenant"
        finalizers := some [Instance.marker] } },
    .request (.create .configMap "tenant" { metadata := { name := some "bot-memory" } }),
    .requestDeletion ⟨"tenant", "bot"⟩]).Exposed ⟨"tenant", "bot"⟩ := by
  decide +kernel

end Pass

end WorkloadOperator
