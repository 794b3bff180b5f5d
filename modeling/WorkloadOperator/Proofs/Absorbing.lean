import WorkloadOperator.Proofs.Asking
import WorkloadOperator.Proofs.Opening
import WorkloadOperator.Proofs.Queueing
import WorkloadOperator.Proofs.Twins

/-!
# Faults that are absorbed

Some requests of a pass may fail and nothing comes of it.  To say so, two runs of one pass are
compared, from stores that differ in the faults that wait for these requests, however many they
are and whatever they say.

The deletion of session stores and of the memory store does not matter to a teardown: it comes
out the same, it publishes the same events, and it leaves the same Instances and the same
workloads (`emptying_absorbed`).  The memory store does not matter to the rest of a pass, either:
it comes out the same, it leaves the same workloads and session stores, and Instances that are
the same apart from their versions (`remembering_absorbed`).
-/

namespace WorkloadOperator

namespace Store

variable {s t : Store} {κ : Kind} {r : Request}

/-! ## What an answer depends on -/

theorem table_eq_iff : s.table κ = t.table κ ↔ ∀ key, s.find? κ key = t.find? κ key :=
  ⟨fun h key => by rw [find?, find?, h], Dict.ext_get?⟩

theorem table_answer_of_kind (h : r.kind ≠ κ) : (s.answer r).2.table κ = s.table κ :=
  table_eq_iff.2 fun _ => find?_answer_of_kind h

theorem table_serve_of_kind (h : r.kind ≠ κ) : (s.serve r).2.table κ = s.table κ :=
  table_eq_iff.2 fun _ => find?_serve_of_kind h

@[simp] theorem table_faults (faults : List Fault) :
    ({ s with faults } : Store).table κ = s.table κ := by
  cases κ <;> rfl

/-- What a request is answered and what it makes of the objects of its kind depends on these
objects and on the number of versions given, and on nothing else. -/
theorem answer_congr (hobjects : s.table r.kind = t.table r.kind) (hversion : s.version = t.version) :
    (s.answer r).1 = (t.answer r).1 ∧ (s.answer r).2.table r.kind = (t.answer r).2.table r.kind ∧
      (s.answer r).2.version = (t.answer r).2.version := by
  have hfind := table_eq_iff.1 hobjects
  have htext : s.bump.versionText = t.bump.versionText := by
    rw [versionText, versionText, version_bump, version_bump, hversion]
  have hselect (ns selector : String) :
      s.select r.kind ns selector = t.select r.kind ns selector := by
    rw [select, select, hobjects]
  cases r with
  | getInstance key => exact ⟨congrArg Except.ok (hfind key), hobjects, hversion⟩
  | get c key => exact ⟨congrArg Except.ok (hfind key), hobjects, hversion⟩
  | list c ns selector => exact ⟨congrArg Except.ok (hselect ns selector), hobjects, hversion⟩
  | listRuns ns selector => exact ⟨congrArg Except.ok (hselect ns selector), hobjects, hversion⟩
  | create c ns o =>
    have hfind : ∀ key, s.find? c.kind key = t.find? c.kind key := hfind
    have hinsert : (s.insert c.kind ns o).1 = (t.insert c.kind ns o).1 := by
      simp only [insert, htext]
    simp only [answer, hfind]
    split
    · exact ⟨rfl, hobjects, hversion⟩
    · split
      · exact ⟨rfl, hobjects, hversion⟩
      · refine ⟨congrArg Except.ok hinsert, table_eq_iff.2 fun key => ?_, ?_⟩
        · show Store.find? _ c.kind key = Store.find? _ c.kind key
          rw [find?_record, find?_record, find?_insert, find?_insert, hinsert, hfind]
        · rw [version_record, version_record, version_insert, version_insert, hversion]
  | delete c key =>
    have hfind : ∀ key, s.find? c.kind key = t.find? c.kind key := hfind
    simp only [answer, hfind]
    split
    · refine ⟨rfl, table_eq_iff.2 fun key' => ?_, ?_⟩
      · show Store.find? _ c.kind key' = Store.find? _ c.kind key'
        rw [find?_record, find?_record, find?_drop, find?_drop, hfind]
      · rw [version_record, version_record, version_drop, version_drop, hversion]
    · exact ⟨rfl, hobjects, hversion⟩
  | patchFinalizers key version finalizers =>
    have hfind : ∀ key, s.find? .inst key = t.find? .inst key := hfind
    simp only [answer, hfind]
    split
    · exact ⟨rfl, hobjects, hversion⟩
    · split
      · split
        · refine ⟨rfl, table_eq_iff.2 fun key' => ?_, hversion⟩
          show Store.find? _ .inst key' = Store.find? _ .inst key'
          rw [find?_drop, find?_drop, find?_record, find?_record, hfind]
        · refine ⟨rfl, table_eq_iff.2 fun key' => ?_, congrArg (· + 1) hversion⟩
          show Store.find? _ .inst key' = Store.find? _ .inst key'
          rw [find?_put, find?_put, find?_bump, find?_bump, find?_record, find?_record, hfind]
          rw [show (s.record .patch .inst key.name).bump.versionText =
            (t.record .patch .inst key.name).bump.versionText from htext]
      · exact ⟨rfl, hobjects, hversion⟩
  | patchStatus key version patch =>
    have hfind : ∀ key, s.find? .inst key = t.find? .inst key := hfind
    simp only [answer, hfind]
    split
    · exact ⟨rfl, hobjects, hversion⟩
    · split
      · split
        · exact ⟨rfl, hobjects, hversion⟩
        · refine ⟨rfl, table_eq_iff.2 fun key' => ?_, congrArg (· + 1) hversion⟩
          show Store.find? _ .inst key' = Store.find? _ .inst key'
          rw [find?_record, find?_record, find?_put, find?_put, find?_bump, find?_bump, hfind, htext]
      · exact ⟨rfl, hobjects, hversion⟩

/-- What a status patch is answered and what it makes of Instances, apart from their versions, does
not depend on the versions given so far. -/
theorem status_congr (h : s.instances = t.instances) (key : Key) (version : Option String)
    (patch : Json) :
    (s.answer (.patchStatus key version patch)).1 = (t.answer (.patchStatus key version patch)).1 ∧
      ∀ k, ((s.answer (.patchStatus key version patch)).2.find? .inst k).map Instance.unversioned =
        ((t.answer (.patchStatus key version patch)).2.find? .inst k).map Instance.unversioned := by
  have hfind (k : Key) : s.find? .inst k = t.find? .inst k := (table_eq_iff (κ := .inst)).1 h k
  have same (k : Key) := congrArg (Option.map Instance.unversioned) (hfind k)
  simp only [answer, hfind]
  split
  · exact ⟨rfl, same⟩
  · split
    · split
      · exact ⟨rfl, same⟩
      · refine ⟨rfl, fun k => ?_⟩
        rw [find?_record, find?_record, find?_put, find?_put, find?_bump, find?_bump]
        split
        · rfl
        · exact same k
    · exact ⟨rfl, same⟩

theorem version_serve (hcreate : r.verb ≠ .create) (hpatch : r.verb ≠ .patch) :
    (s.serve r).2.version = s.version := by
  rcases serve_cases s r with ⟨e, faults, hserve⟩ | hserve
  · rw [hserve]
  · rw [hserve]
    cases r with
    | getInstance | get | list | listRuns => rfl
    | create => exact absurd rfl hcreate
    | patchFinalizers | patchStatus => exact absurd rfl hpatch
    | delete c key =>
      simp only [answer]
      split
      · rw [version_record, version_drop]
      · rfl

end Store

namespace Pass

open Store Request

variable {ε δ α β : Type} {apart : Verb → Kind → Bool} {token : Nat → Bool} {shown : Kind → Bool}

/-! ## A pass that is watched -/

/-- What is seen of a pass that is alone with a store. -/
structure Watch where
  /-- The store that it has come to. -/
  store : Store
  /-- The events that it has published. -/
  events : List Event := []
  /-- How many of its requests counted. -/
  steps : Nat := 0

/-- The surroundings of a pass that is alone with a store.  Requests of some verbs and kinds are
set apart and do not count.  What the pass sees of its cancellation is told by the number of those
that did, so that two runs can look at it at the same time. -/
def watched (apart : Verb → Kind → Bool) (token : Nat → Bool) : Surroundings Watch where
  serve r v := ((v.store.serve r).1, { v with
    store := (v.store.serve r).2
    steps := if apart r.verb r.kind then v.steps else v.steps + 1 })
  isCancelled v := token v.steps
  publish e v := { v with events := v.events ++ [e] }

/-- What comes of a pass that is watched, and what is seen of it in the end. -/
def watch (apart : Verb → Kind → Bool) (token : Nat → Bool) (cfg : Config) (key : Key) (s : Store) :
    Except Pass.Error Action × Watch :=
  (reconcile cfg key).run (watched apart token) ⟨s, [], 0⟩

/-- Two runs agree on what is not set apart, and on the objects of the kinds that are shown. -/
structure Alike (apart : Verb → Kind → Bool) (shown : Kind → Bool) (v w : Watch) : Prop where
  faults : Agree apart v.store.faults w.store.faults
  objects : ∀ κ, shown κ = true → v.store.table κ = w.store.table κ
  steps : v.steps = w.steps

/-- Two runs agree on versions and events, too. -/
structure Level (apart : Verb → Kind → Bool) (shown : Kind → Bool) (v w : Watch) : Prop
    extends Alike apart shown v w where
  version : v.store.version = w.store.version
  events : v.events = w.events

variable {v w v' w' : Watch} {r : Request}

theorem Alike.trans {u : Watch} (h : Alike apart shown u v) (h' : Alike apart shown v w) :
    Alike apart shown u w where
  faults := h.faults.trans h'.faults
  objects κ hκ := (h.objects κ hκ).trans (h'.objects κ hκ)
  steps := h.steps.trans h'.steps

theorem Alike.symm (h : Alike apart shown v w) : Alike apart shown w v where
  faults := h.faults.symm
  objects κ hκ := (h.objects κ hκ).symm
  steps := h.steps.symm

theorem Level.mono {fewer : Kind → Bool} (h : Level apart shown v w)
    (hfewer : ∀ κ, fewer κ = true → shown κ = true) : Level apart fewer v w :=
  { h with objects := fun κ hκ => h.objects κ (hfewer κ hκ) }

/-- Runs that differ in the faults that wait for what is set apart are level in the beginning. -/
theorem level_start {s : Store} {faults : List Fault} (h : Agree apart s.faults faults) :
    Level apart shown ⟨s, [], 0⟩ ⟨{ s with faults }, [], 0⟩ where
  faults := h
  objects _ _ := (table_faults faults).symm
  steps := rfl
  version := rfl
  events := rfl

/-! ## Requests -/

/-- A request that is not set apart meets the same fault in both runs, or none. -/
theorem Alike.serve_cases (h : Alike apart shown v w) (token : Nat → Bool)
    (hshared : apart r.verb r.kind = false) :
    (∃ e left left', v.store.serve r = (.error e, ({ v.store with faults := left } : Store)) ∧
      w.store.serve r = (.error e, ({ w.store with faults := left' } : Store)) ∧
      Alike apart shown ((watched apart token).serve r v).2 ((watched apart token).serve r w).2) ∨
      (v.store.serve r = v.store.answer r ∧ w.store.serve r = w.store.answer r) := by
  rcases h.faults.strike hshared with ⟨hnone, hnone'⟩ | ⟨e, left, left', hsome, hsome', hleft⟩
  · refine .inr ⟨?_, ?_⟩
    · simp only [serve, hnone]
    · simp only [serve, hnone']
  · have hserve : v.store.serve r = (.error e, ({ v.store with faults := left } : Store)) := by
      simp only [serve, hsome]
    have hserve' : w.store.serve r = (.error e, ({ w.store with faults := left' } : Store)) := by
      simp only [serve, hsome']
    refine .inl ⟨e, left, left', hserve, hserve', ?_⟩
    simp only [watched, hserve, hserve', h.steps]
    exact ⟨hleft, fun κ hκ =>
      (table_faults left).trans ((h.objects κ hκ).trans (table_faults left').symm), rfl⟩

/-- Two runs that are level get the same answer to a request for what is shown, and stay level. -/
theorem Level.serve (h : Level apart shown v w) (token : Nat → Bool)
    (hshared : apart r.verb r.kind = false) (hshown : shown r.kind = true) :
    (v.store.serve r).1 = (w.store.serve r).1 ∧
      Level apart shown ((watched apart token).serve r v).2 ((watched apart token).serve r w).2 := by
  rcases h.serve_cases token hshared with
    ⟨e, left, left', hserve, hserve', halike⟩ | ⟨hserve, hserve'⟩
  · refine ⟨by rw [hserve, hserve'], halike, ?_, h.events⟩
    simp only [watched, hserve, hserve', h.version]
  · obtain ⟨hanswer, hobjects, hversion⟩ := answer_congr (h.objects _ hshown) h.version
    simp only [watched, hserve, hserve', h.steps]
    refine ⟨hanswer, ⟨?_, fun κ hκ => ?_, rfl⟩, hversion, h.events⟩
    · rw [faults_answer, faults_answer]
      exact h.faults
    · by_cases hkind : r.kind = κ
      · subst hkind
        exact hobjects
      · rw [table_answer_of_kind hkind, table_answer_of_kind hkind, h.objects κ hκ]

/-- A request that is set apart changes nothing that is shown. -/
theorem alike_serve (hapart : apart r.verb r.kind = true) (hshown : shown r.kind = false) :
    Alike apart shown v ((watched apart token).serve r v).2 where
  faults := by
    show Agree apart v.store.faults (v.store.serve r).2.faults
    unfold Store.serve
    split
    · next hstrike => exact agree_of_strike hstrike hapart
    · rw [faults_answer]
      exact .refl _ _
  objects κ hκ := by
    refine (table_serve_of_kind ?_).symm
    rintro rfl
    exact nomatch hshown.symm.trans hκ
  steps := by simp only [watched, hapart, if_pos]

theorem run_watched_request (r : Request) (next : r.Answer → Pass ε α) (v : Watch) :
    (Pass.request r next).run (watched apart token) v =
      (next (v.store.serve r).1).run (watched apart token) ((watched apart token).serve r v).2 :=
  rfl

theorem run_watched_ask (r : Request) (v : Watch) :
    (ask r).run (watched apart token) v =
      ((v.store.serve r).1, ((watched apart token).serve r v).2) := by
  rw [ask, run_watched_request]
  cases (v.store.serve r).1 <;> rfl

/-! ## Two runs -/

/-- Two runs of a part that begin in relation end in the same way and in relation. -/
def Parallel (apart : Verb → Kind → Bool) (token : Nat → Bool) (R S : Watch → Watch → Prop)
    (p : Pass ε α) : Prop :=
  ∀ v w, R v w → (p.run (watched apart token) v).1 = (p.run (watched apart token) w).1 ∧
    S (p.run (watched apart token) v).2 (p.run (watched apart token) w).2

variable {R S T : Watch → Watch → Prop} {p : Pass ε α}

/-- What follows a part in parallel begins in the relation in which that part has ended. -/
theorem Parallel.bind {f : α → Pass ε β} (h : Parallel apart token R S p)
    (hok : ∀ a, Parallel apart token S T (f a)) (herror : ∀ v w, S v w → T v w) :
    Parallel apart token R T (p.bind f) := by
  intro v w hvw
  obtain ⟨hresult, hend⟩ := h v w hvw
  rw [run_bind, run_bind]
  generalize p.run (watched apart token) v = x, p.run (watched apart token) w = y at hresult hend
  obtain ⟨result, v'⟩ := x
  obtain ⟨result', w'⟩ := y
  cases hresult
  cases result with
  | ok a => exact hok a v' w' hend
  | error e => exact ⟨rfl, herror v' w' hend⟩

theorem Parallel.mono {R' S' : Watch → Watch → Prop} (h : Parallel apart token R S p)
    (hR : ∀ v w, R' v w → R v w) (hS : ∀ v w, S v w → S' v w) : Parallel apart token R' S' p :=
  fun v w hvw => ⟨(h v w (hR v w hvw)).1, hS _ _ (h v w (hR v w hvw)).2⟩

theorem Parallel.mapError (h : Parallel apart token R S p) (g : ε → δ) :
    Parallel apart token R S (p.mapError g) := by
  intro v w hvw
  rw [run_mapError, run_mapError, (h v w hvw).1]
  exact ⟨rfl, (h v w hvw).2⟩

theorem Parallel.attempt (h : Parallel apart token R S p) :
    Parallel (ε := δ) apart token R S p.attempt := by
  intro v w hvw
  rw [run_attempt, run_attempt, (h v w hvw).1]
  exact ⟨rfl, (h v w hvw).2⟩

/-- A part that asks for nothing but what is shown and not set apart keeps two runs level. -/
theorem Asks.parallel {Q : Request → Prop} (h : Asks Q p)
    (hQ : ∀ r, Q r → apart r.verb r.kind = false ∧ shown r.kind = true) :
    Parallel apart token (Level apart shown) (Level apart shown) p := by
  induction p with
  | done a => exact fun v w hvw => ⟨rfl, hvw⟩
  | fail e => exact fun v w hvw => ⟨rfl, hvw⟩
  | request r next ih =>
    intro v w hvw
    obtain ⟨hshared, hshown⟩ := hQ r h.1
    obtain ⟨hsame, hlevel⟩ := hvw.serve token hshared hshown
    have hnext := ih (w.store.serve r).1 (h.2 _ () trivial) _ _ hlevel
    rw [run_watched_request, run_watched_request, hsame]
    exact hnext
  | poll next ih =>
    intro v w hvw
    have hsame : token w.steps = token v.steps := congrArg token hvw.steps.symm
    have hnext := ih (token v.steps) (h _ trivial) v w hvw
    show ((next (token v.steps)).run _ v).1 = ((next (token w.steps)).run _ w).1 ∧
      Level apart shown ((next (token v.steps)).run _ v).2 ((next (token w.steps)).run _ w).2
    rw [hsame]
    exact hnext
  | publish e next ih =>
    intro v w hvw
    refine ih h _ _ { hvw with events := ?_ }
    exact congrArg (· ++ [e]) hvw.events

/-- A part that asks for nothing but what is set apart comes out in one way, and nothing that is
shown is changed by it. -/
theorem Confined.absorbed {Q : Request → Prop} {x : α} (h : Confined Q (· = .ok x) p)
    (token : Nat → Bool) (hQ : ∀ r, Q r → apart r.verb r.kind = true ∧ shown r.kind = false)
    (v : Watch) :
    (p.run (watched apart token) v).1 = .ok x ∧
      Alike apart shown v (p.run (watched apart token) v).2 := by
  induction p generalizing v with
  | done a => exact ⟨h, .refl _ _, fun _ _ => rfl, rfl⟩
  | fail e => exact ⟨h, .refl _ _, fun _ _ => rfl, rfl⟩
  | request r next ih =>
    obtain ⟨hapart, hshown⟩ := hQ r h.1
    obtain ⟨hresult, hend⟩ := ih _ (h.2 (v.store.serve r).1 () trivial)
      ((watched apart token).serve r v).2
    exact ⟨hresult, (alike_serve hapart hshown).trans hend⟩
  | poll next ih => exact ih _ (h _ trivial) v
  | publish e next ih =>
    obtain ⟨hresult, hend⟩ := ih h { v with events := v.events ++ [e] }
    exact ⟨hresult, hend.faults, hend.objects, hend.steps⟩

/-- Such a part makes no difference to what two runs are alike in. -/
theorem Confined.parallel {Q : Request → Prop} {x : α} (h : Confined Q (· = .ok x) p)
    (hQ : ∀ r, Q r → apart r.verb r.kind = true ∧ shown r.kind = false) :
    Parallel apart token (Alike apart shown) (Alike apart shown) p := by
  intro v w hvw
  obtain ⟨hv, hv'⟩ := h.absorbed token hQ v
  obtain ⟨hw, hw'⟩ := h.absorbed token hQ w
  exact ⟨hv.trans hw.symm, hv'.symm.trans (hvw.trans hw')⟩

/-! ## Parts that tell nothing -/

/-- A part publishes no event. -/
def Tacit : Pass ε α → Prop
  | .done _ | .fail _ => True
  | .request _ next => ∀ answer, (next answer).Tacit
  | .poll next => ∀ cancelled, (next cancelled).Tacit
  | .publish _ _ => False

theorem Tacit.resume {f : Except ε α → Pass δ β} (h : p.Tacit) (hf : ∀ result, (f result).Tacit) :
    (p.resume f).Tacit := by
  induction p with
  | done a => exact hf _
  | fail e => exact hf _
  | request r next ih => exact fun answer => ih answer (h answer)
  | poll next ih => exact fun cancelled => ih cancelled (h cancelled)
  | publish e next => exact h.elim

theorem Tacit.bind {f : α → Pass ε β} (h : p.Tacit) (hf : ∀ a, (f a).Tacit) : (p.bind f).Tacit := by
  rw [bind_eq_resume]
  refine h.resume ?_
  rintro (e | a)
  · exact trivial
  · exact hf a

theorem Tacit.mapError (h : p.Tacit) (g : ε → δ) : (p.mapError g).Tacit := by
  rw [mapError_eq_resume]
  refine h.resume ?_
  rintro (e | a) <;> exact trivial

theorem Tacit.attempt (h : p.Tacit) : (p.attempt (δ := δ)).Tacit := by
  rw [attempt_eq_resume]
  exact h.resume fun _ => trivial

theorem Tacit.events (h : p.Tacit) (v : Watch) :
    (p.run (watched apart token) v).2.events = v.events := by
  induction p generalizing v with
  | done a => rfl
  | fail e => rfl
  | request r next ih => exact ih _ (h _) ((watched apart token).serve r v).2
  | poll next ih => exact ih _ (h _) v
  | publish e next => exact h.elim

theorem tacit_ask (r : Request) : (ask r).Tacit := by
  rintro (e | reply) <;> exact trivial

theorem tacit_discard (c : Child) (k : Key) : (discard c k).Tacit := by
  intro answer
  cases h : Store.Error.ignoreMissing answer <;> simp only [h] <;> exact trivial

theorem tacit_deleteSessions (ns : String) (cs : List VolumeClaim) :
    (deleteSessions (ε := ε) ns cs).Tacit := by
  induction cs with
  | nil => exact trivial
  | cons c cs ih => exact (tacit_discard _ _).attempt.bind fun _ => ih

theorem tacit_deleteStores (ns name selector : String) :
    (deleteStores (ε := ε) ns name selector).Tacit := by
  have memory := (tacit_discard .configMap ⟨ns, Naming.memoryStore name⟩).attempt (δ := ε)
  refine (tacit_ask _).attempt.bind ?_
  rintro (e | claims)
  · exact memory.bind fun _ => trivial
  · exact (tacit_deleteSessions ns claims).bind fun _ => memory.bind fun _ => trivial

/-- Only a creation or a patch gives a version. -/
theorem Asks.version {Q : Request → Prop} (h : Asks Q p)
    (hQ : ∀ r, Q r → r.verb ≠ .create ∧ r.verb ≠ .patch) (v : Watch) :
    (p.run (watched apart token) v).2.store.version = v.store.version := by
  induction p generalizing v with
  | done a => rfl
  | fail e => rfl
  | request r next ih =>
    obtain ⟨hcreate, hpatch⟩ := hQ r h.1
    exact (ih _ (h.2 _ () trivial) ((watched apart token).serve r v).2).trans
      (version_serve hcreate hpatch)
  | poll next ih => exact ih _ (h _ trivial) v
  | publish e next ih => exact ih h { v with events := v.events ++ [e] }

/-! ## The data of an Instance that is torn down -/

/-- Requests by which a teardown deletes data. -/
def emptying : Verb → Kind → Bool
  | .list, .volumeClaim | .delete, .volumeClaim | .delete, .configMap => true
  | _, _ => false

/-- What a teardown waits for, and what it lets go of. -/
def heldKinds (κ : Kind) : Bool := κ = .inst ∨ κ = .deployment

theorem emptying_of_empties {ns : String} (h : r.Empties ns) :
    emptying r.verb r.kind = true ∧ heldKinds r.kind = false := by
  cases h <;> exact ⟨rfl, rfl⟩

/-- Two runs stay level, whatever comes of the data. -/
theorem parallel_deleteStores (ns name selector : String) :
    Parallel emptying token (Level emptying heldKinds) (Level emptying heldKinds)
      (deleteStores (ε := ε) ns name selector) := by
  have alike : Parallel emptying token (Alike emptying heldKinds) (Alike emptying heldKinds)
      (deleteStores (ε := ε) ns name selector) :=
    (confined_deleteStores ns name selector).parallel fun _ => emptying_of_empties
  have events (u : Watch) : ((deleteStores (ε := ε) ns name selector).run
      (watched emptying token) u).2.events = u.events :=
    (tacit_deleteStores ns name selector).events u
  have version (u : Watch) : ((deleteStores (ε := ε) ns name selector).run
      (watched emptying token) u).2.store.version = u.store.version :=
    (asks_deleteStores ns name selector).version (by rintro _ ⟨⟩ <;> exact ⟨nofun, nofun⟩) u
  intro v w hvw
  obtain ⟨hresult, hend⟩ := alike v w hvw.toAlike
  refine ⟨hresult, hend, ?_, ?_⟩
  · rw [version, version, hvw.version]
  · rw [events, events, hvw.events]

theorem parallel_teardown (intervals : Config.Intervals) (ns : String) (i : Instance) :
    Parallel emptying token (Level emptying heldKinds) (Level emptying heldKinds)
      (teardown intervals ns i) := by
  have shared {Q : Request → Prop} {α : Type} {p : Pass Pass.Error α} (h : Asks Q p)
      (hQ : ∀ r, Q r → emptying r.verb r.kind = false ∧ heldKinds r.kind = true) :
      Parallel emptying token (Level emptying heldKinds) (Level emptying heldKinds) p := h.parallel hQ
  have list (selector : String) : Parallel emptying token (Level emptying heldKinds)
      (Level emptying heldKinds) (askStore (.list .deployment ns selector)) := by
    refine shared (asks_askStore (Q := (· = .list .deployment ns selector)) rfl) ?_
    rintro _ rfl
    exact ⟨rfl, rfl⟩
  refine (list _).bind (fun workloads => ?_) fun _ _ => id
  refine Parallel.bind (shared (asks_deleteWorkloads ns workloads) ?_) (fun _ => ?_) fun _ _ => id
  · rintro _ ⟨k, rfl⟩
    exact ⟨rfl, rfl⟩
  refine (list _).bind (fun remaining => ?_) fun _ _ => id
  split
  · exact fun v w hvw => ⟨rfl, hvw⟩
  refine (parallel_deleteStores _ _ _).bind (fun _ => ?_) fun _ _ => id
  split
  · exact fun v w hvw => ⟨rfl, hvw⟩
  have release : Asks (· = .patchFinalizers ⟨ns, i.name⟩ i.metadata.resourceVersion
      (i.metadata.finalizerList.filter (· ≠ Instance.marker))) (unmark ns i) := by
    refine ⟨rfl, fun answer _ _ => ?_⟩
    dsimp only
    split <;> rfl
  refine shared (Stays.bind stays_checkpoint fun _ => Stays.bind (stays_tell _) fun _ =>
    Stays.bind release fun _ => rfl) ?_
  rintro _ rfl
  exact ⟨rfl, rfl⟩

theorem emptying_of_converges {adapters : Config.Adapters} {ns : String} {i : Instance}
    (h : r.Converges adapters ns i) : emptying r.verb r.kind = false := by
  cases h with
  | provides uid huid r hr => cases hr <;> rfl
  | listRuns => rfl
  | patchStatus patch => rfl

theorem parallel_reconcile (cfg : Config) (key : Key) (token : Nat → Bool) :
    Parallel emptying token (Level emptying fun _ => true) (Level emptying heldKinds)
      (reconcile cfg key) := by
  have fewer (v w : Watch) (h : Level emptying (fun _ => true) v w) : Level emptying heldKinds v w :=
    h.mono fun _ _ => rfl
  rw [reconcile_eq]
  refine Parallel.bind ((asks_opening key).parallel ?_) (fun found => ?_) fewer
  · intro r hr
    rw [hr]
    exact ⟨by cases r.verb <;> rfl, rfl⟩
  cases found with
  | none => exact fun v w hvw => ⟨rfl, fewer v w hvw⟩
  | some i =>
    show Parallel _ _ _ _ (advance cfg key.ns i)
    unfold advance
    split
    · exact (parallel_teardown _ _ _).mono fewer fun _ _ => id
    · exact ((asks_converge cfg).parallel fun _ hr => ⟨emptying_of_converges hr, rfl⟩).mono
        (fun _ _ => id) fewer

/-- Whatever faults wait for the deletion of data, and whatever store a pass meets, it ends in the
same way, it publishes the same events, and it leaves the same Instances and workloads with the
same versions. -/
theorem emptying_absorbed (cfg : Config) (key : Key) (token : Nat → Bool) (s : Store)
    (faults : List Fault) (h : Agree emptying s.faults faults) :
    let pass := watch emptying token cfg key
    (pass s).1 = (pass { s with faults }).1 ∧
      (pass s).2.events = (pass { s with faults }).2.events ∧
      (pass s).2.store.instances = (pass { s with faults }).2.store.instances ∧
      (pass s).2.store.deployments = (pass { s with faults }).2.store.deployments := by
  intro pass
  obtain ⟨hresult, hend⟩ := parallel_reconcile cfg key token _ _ (level_start h)
  exact ⟨hresult, hend.events, hend.objects .inst rfl, hend.objects .deployment rfl⟩

/-- A run that leaves an Instance to be torn down, with a session store and a memory store. -/
def laden : List Operation :=
  [.insertInstance {
      metadata := {
        name := some "bot"
        ns := some "tenant"
        finalizers := some [Instance.marker] } },
    .request (.create .volumeClaim "tenant" {
      metadata := {
        name := some (Naming.sessionStore "bot" .telegram)
        labels := some (Naming.channelLabels "bot" .telegram) } }),
    .request (.create .configMap "tenant" { metadata := { name := some "bot-memory" } }),
    .requestDeletion ⟨"tenant", "bot"⟩]

theorem emptying_absorbed_laden :
    let key : Key := ⟨"tenant", "bot"⟩
    let s := Store.empty.run laden
    let faults : List Fault := [⟨.delete, .configMap, .unavailable "down", none⟩,
      ⟨.delete, .volumeClaim, .unavailable "down", some 0⟩]
    let pass := watch emptying (fun _ => false) {} key
    (∃ i ∈ s.find? .inst key, i.isDeleting = true) ∧ Agree emptying s.faults faults ∧
      (pass s).2.store.configMaps ≠ (pass { s with faults }).2.store.configMaps ∧
      (pass s).1 = (pass { s with faults }).1 ∧
      (pass s).2.events = (pass { s with faults }).2.events ∧
      (pass s).2.store.instances = (pass { s with faults }).2.store.instances ∧
      (pass s).2.store.deployments = (pass { s with faults }).2.store.deployments := by
  intro key s faults pass
  have deleting : ∃ i ∈ s.find? .inst key, i.isDeleting = true := by decide +kernel
  have agree : Agree emptying s.faults faults := by decide +kernel
  have differ : (pass s).2.store.configMaps ≠ (pass { s with faults }).2.store.configMaps := by
    decide +kernel
  -- the store is not evaluated any further
  clear_value s
  exact ⟨deleting, agree, differ, emptying_absorbed {} key (fun _ => false) s faults agree⟩

/-! ## The memory store of an Instance that is not -/

/-- Requests by which a pass provides the memory store. -/
def remembering : Verb → Kind → Bool
  | .get, .configMap | .create, .configMap => true
  | _, _ => false

/-- What a pass brings about besides the memory store. -/
def servedKinds (κ : Kind) : Bool := κ ≠ .configMap

/-- Two runs have come to the same workloads, session stores and Instances, apart from the
versions of the Instances. -/
structure Even (v w : Watch) : Prop where
  deployments : v.store.deployments = w.store.deployments
  volumeClaims : v.store.volumeClaims = w.store.volumeClaims
  instances : ∀ key, (v.store.find? .inst key).map Instance.unversioned =
    (w.store.find? .inst key).map Instance.unversioned

theorem Alike.even (h : Alike remembering servedKinds v w) : Even v w where
  deployments := h.objects .deployment rfl
  volumeClaims := h.objects .volumeClaim rfl
  instances key := congrArg _ (table_eq_iff.1 (h.objects .inst rfl) key)

/-- Two runs that are alike count the same Runs. -/
theorem parallel_countRuns (ns owner : String) :
    Parallel remembering token (Alike remembering servedKinds) (Alike remembering servedKinds)
      (countRuns ns owner) := by
  refine Parallel.bind (S := Alike remembering servedKinds) ?_ (fun _ v w hvw => ⟨rfl, hvw⟩)
    fun _ _ => id
  intro v w hvw
  rw [run_watched_ask, run_watched_ask]
  rcases hvw.serve_cases (r := .listRuns ns (Naming.instanceSelector owner)) token rfl with
    ⟨e, left, left', hserve, hserve', halike⟩ | ⟨hserve, hserve'⟩
  · exact ⟨by rw [hserve, hserve'], halike⟩
  · simp only [watched, hserve, hserve', answer, select, hvw.objects .run rfl]
    exact ⟨trivial, hvw.faults, hvw.objects, congrArg (· + 1) hvw.steps⟩

/-- Two runs that are alike get the same answer to a status patch, and they are even afterwards. -/
theorem Alike.patchStatus (h : Alike remembering servedKinds v w) (token : Nat → Bool) (key : Key)
    (version : Option String) (patch : Json) :
    (v.store.serve (.patchStatus key version patch)).1 =
        (w.store.serve (.patchStatus key version patch)).1 ∧
      Even ((watched remembering token).serve (.patchStatus key version patch) v).2
        ((watched remembering token).serve (.patchStatus key version patch) w).2 := by
  rcases h.serve_cases (r := .patchStatus key version patch) token rfl with
    ⟨e, left, left', hserve, hserve', halike⟩ | ⟨hserve, hserve'⟩
  · exact ⟨by rw [hserve, hserve'], halike.even⟩
  · obtain ⟨hanswer, hinstances⟩ := status_congr (h.objects .inst rfl) key version patch
    have others {κ : Kind} (hκ : servedKinds κ = true) (hinst : Kind.inst ≠ κ) :
        (v.store.answer (.patchStatus key version patch)).2.table κ =
          (w.store.answer (.patchStatus key version patch)).2.table κ := by
      rw [table_answer_of_kind (r := .patchStatus key version patch) hinst,
        table_answer_of_kind (r := .patchStatus key version patch) hinst, h.objects κ hκ]
    simp only [watched, hserve, hserve']
    exact ⟨hanswer, others (κ := .deployment) rfl nofun, others (κ := .volumeClaim) rfl nofun,
      hinstances⟩

/-- Two runs that are alike write the same status, if under another version. -/
theorem parallel_recordStatus (ns : String) (i : Instance) (desired : Instance.Status) :
    Parallel remembering token (Alike remembering servedKinds) Even (recordStatus ns i desired) := by
  unfold recordStatus
  split
  · refine Parallel.mapError (fun v w hvw => ?_) _
    rw [run_watched_ask, run_watched_ask]
    exact hvw.patchStatus token _ _ _
  · exact fun v w hvw => ⟨rfl, hvw.even⟩

theorem parallel_checkpoint {R : Watch → Watch → Prop} (hR : ∀ v w, R v w → v.steps = w.steps) :
    Parallel apart token R R checkpoint := by
  intro v w hvw
  show ((if token v.steps then _ else _ : Pass Pass.Error Unit).run _ v).1 =
      ((if token w.steps then _ else _ : Pass Pass.Error Unit).run _ w).1 ∧
    R ((if token v.steps then _ else _ : Pass Pass.Error Unit).run _ v).2
      ((if token w.steps then _ else _ : Pass Pass.Error Unit).run _ w).2
  rw [hR v w hvw]
  split <;> exact ⟨rfl, hvw⟩

/-! ### What a pass asks besides -/

theorem remembering_of_kind (h : r.kind ≠ .configMap) : remembering r.verb r.kind = false := by
  generalize r.kind = kind at h
  cases r.verb <;> cases kind <;> first | rfl | exact absurd rfl h

theorem remembering_of_recalls {adapters : Config.Adapters} {i : Instance} {o : Owner}
    (h : r.Recalls adapters i o) : remembering r.verb r.kind = true ∧ servedKinds r.kind = false := by
  obtain ⟨hr, hkind⟩ := h
  rw [hkind]
  cases hr <;> exact ⟨rfl, rfl⟩

/-! ### Whole passes -/

theorem parallel_converge (cfg : Config) (ns : String) (i : Instance) :
    Parallel remembering token (Level remembering fun _ => true) Even (converge cfg ns i) := by
  have fewer (v w : Watch) (h : Level remembering (fun _ => true) v w) :
      Alike remembering servedKinds v w := (h.mono fun _ _ => rfl).toAlike
  have even (v w : Watch) (h : Level remembering (fun _ => true) v w) : Even v w :=
    (fewer v w h).even
  unfold converge
  split
  · exact fun v w hvw => ⟨rfl, even v w hvw⟩
  · next uid huid =>
    have serve : Parallel remembering token (Level remembering fun _ => true)
        (Level remembering fun _ => true) (serveChannels cfg.adapters i ⟨i.name, ns, uid⟩) :=
      asks_serveChannels.parallel fun _ hr => ⟨remembering_of_kind hr.2, rfl⟩
    have failed (e : Pass.Error) : Parallel remembering token (Level remembering fun _ => true) Even
        ((recordFailure ns i e).bind fun _ => (.fail e : Pass Pass.Error Action)) := by
      refine Parallel.bind ((asks_recordFailure e).parallel ?_) (fun _ v w hvw => ⟨rfl, even v w hvw⟩)
        even
      rintro _ ⟨patch, rfl⟩
      exact ⟨rfl, rfl⟩
    refine serve.attempt.bind (fun result => ?_) even
    cases result with
    | error e =>
      cases e with
      | cancelled => exact fun v w hvw => ⟨rfl, even v w hvw⟩
      | store cause => exact failed _
      | channel c cause => exact failed _
      | invariant what => exact failed _
    | ok channels =>
      have recalls (r : Request) (hr : r.Recalls cfg.adapters i ⟨i.name, ns, uid⟩) :=
        remembering_of_recalls hr
      have memory : Parallel (ε := Pass.Error) remembering token (Level remembering fun _ => true)
          (Alike remembering servedKinds) (provideMemory i ⟨i.name, ns, uid⟩) :=
        (confined_provideMemory.parallel recalls).mono fewer fun _ _ => id
      refine (parallel_checkpoint fun _ _ h => h.steps).bind (fun _ => ?_) even
      refine memory.bind (fun _ => ?_) fun _ _ => Alike.even
      refine ((parallel_countRuns ns i.name).mapError _).bind (fun activeRuns => ?_)
        fun _ _ => Alike.even
      refine (parallel_checkpoint fun _ _ h => h.steps).bind (fun _ => ?_) fun _ _ => Alike.even
      exact (parallel_recordStatus ns i _).bind (fun _ v w hvw => ⟨rfl, hvw⟩) fun _ _ => id

theorem remembering_of_tearsDown {ns : String} {i : Instance} (h : r.TearsDown ns i) :
    remembering r.verb r.kind = false := by
  cases h with
  | list c selector => rfl
  | delete c k => rfl
  | unmark hmarked => rfl

theorem parallel_reconcile_even (cfg : Config) (key : Key) (token : Nat → Bool) :
    Parallel remembering token (Level remembering fun _ => true) Even (reconcile cfg key) := by
  have even (v w : Watch) (h : Level remembering (fun _ => true) v w) : Even v w :=
    Alike.even (h.mono fun _ _ => rfl).toAlike
  rw [reconcile_eq]
  refine Parallel.bind ((asks_opening key).parallel ?_) (fun found => ?_) even
  · exact fun r hr => ⟨remembering_of_kind (by rw [hr]; exact nofun), rfl⟩
  cases found with
  | none => exact fun v w hvw => ⟨rfl, even v w hvw⟩
  | some i =>
    show Parallel _ _ _ _ (advance cfg key.ns i)
    unfold advance
    split
    · exact ((asks_teardown cfg.intervals).parallel fun _ hr =>
        ⟨remembering_of_tearsDown hr, rfl⟩).mono (fun _ _ => id) even
    · exact parallel_converge cfg key.ns i

/-- Whatever faults wait for the memory store, and whatever store a pass meets, it ends in the same
way, it leaves the same workloads and session stores with the same versions, and Instances that are
the same apart from their versions. -/
theorem remembering_absorbed (cfg : Config) (key : Key) (token : Nat → Bool) (s : Store)
    (faults : List Fault) (h : Agree remembering s.faults faults) :
    let pass := watch remembering token cfg key
    (pass s).1 = (pass { s with faults }).1 ∧
      (pass s).2.store.deployments = (pass { s with faults }).2.store.deployments ∧
      (pass s).2.store.volumeClaims = (pass { s with faults }).2.store.volumeClaims ∧
      ∀ k, ((pass s).2.store.find? .inst k).map Instance.unversioned =
        ((pass { s with faults }).2.store.find? .inst k).map Instance.unversioned := by
  intro pass
  obtain ⟨hresult, hend⟩ := parallel_reconcile_even cfg key token _ _ (level_start h)
  exact ⟨hresult, hend.deployments, hend.volumeClaims, hend.instances⟩

/-- A run in which an Instance is filed that wants a channel and a memory store. -/
def mindful : List Operation :=
  [.insertInstance {
      metadata := { name := some "bot", ns := some "tenant" }
      spec := { channels := [{ channel := .telegram }], memory := some { enabled := true } } }]

theorem remembering_absorbed_mindful :
    let key : Key := ⟨"tenant", "bot"⟩
    let s := Store.empty.run mindful
    let faults : List Fault := [⟨.get, .configMap, .unavailable "down", none⟩]
    let pass := watch remembering (fun _ => false) {} key
    (∃ i ∈ s.find? .inst key, i.isDeleting = false) ∧ Agree remembering s.faults faults ∧
      (pass s).2.store.instances ≠ (pass { s with faults }).2.store.instances ∧
      (pass s).1 = (pass { s with faults }).1 ∧
      (pass s).2.store.deployments = (pass { s with faults }).2.store.deployments ∧
      (pass s).2.store.volumeClaims = (pass { s with faults }).2.store.volumeClaims ∧
      ∀ k, ((pass s).2.store.find? .inst k).map Instance.unversioned =
        ((pass { s with faults }).2.store.find? .inst k).map Instance.unversioned := by
  intro key s faults pass
  have alive : ∃ i ∈ s.find? .inst key, i.isDeleting = false := by decide +kernel
  have agree : Agree remembering s.faults faults := by decide +kernel
  have differ : (pass s).2.store.instances ≠ (pass { s with faults }).2.store.instances := by
    decide +kernel
  -- the store is not evaluated any further
  clear_value s
  exact ⟨alive, agree, differ, remembering_absorbed {} key (fun _ => false) s faults agree⟩

end Pass

end WorkloadOperator
