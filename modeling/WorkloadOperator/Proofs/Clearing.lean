import WorkloadOperator.Proofs.Asking
import WorkloadOperator.Proofs.Releasing
import WorkloadOperator.Proofs.Reflecting
import WorkloadOperator.Proofs.Retries

/-!
# A teardown comes to its end

An Instance that is being deleted is torn down by as many passes as it takes.  Each of them may
be hit by faults or cancelled, so it may delete some of what it should and leave the rest.  But it
deletes nothing else, and it does not touch the Instance but to take the marker off (`Wanes`).

So nothing that a pass leaves behind is in the way of the next one: if the marker is still there,
then one pass that is not disturbed deletes all that is left, lets go of the Instance and waits for
a change (`teardown_completes`).  Then the workloads, the session stores and the memory store of
the Instance are gone, however many there were, and everything else is as it was in the beginning.
-/

namespace WorkloadOperator

open Naming Selector Store

/-- Whether a child goes with the Instance under a key: it serves a channel of the Instance, or it is
the memory store. -/
def Child.Doomed (key : Key) : (c : Child) → Key → c.Object → Prop
  | .deployment, k, d => k.ns = key.ns ∧ Serves key.name d.metadata
  | .volumeClaim, k, v => k.ns = key.ns ∧ Serves key.name v.metadata
  | .configMap, k, _ => k = ⟨key.ns, memoryStore key.name⟩

instance (key : Key) : (c : Child) → (k : Key) → (o : c.Object) → Decidable (c.Doomed key k o)
  | .deployment, k, d => inferInstanceAs (Decidable (k.ns = key.ns ∧ Serves key.name d.metadata))
  | .volumeClaim, k, v => inferInstanceAs (Decidable (k.ns = key.ns ∧ Serves key.name v.metadata))
  | .configMap, k, _ => inferInstanceAs (Decidable (k = ⟨key.ns, memoryStore key.name⟩))

/-- The beginning of a teardown: an Instance under its key, in a store. -/
structure Outset where
  key : Key
  inst : Instance
  store : Store

namespace Outset

variable {a : Outset} {s s' : Store} {c : Child} {k : Key} {r : Request}

/-- What has become of a store since the beginning of a teardown.  Some children may be gone that go
with the Instance.  The Instance may be gone or have lost the marker.  All else is as it was. -/
structure Wanes (a : Outset) (s : Store) : Prop where
  filed : s.Filed
  grows : s.Grows a.store
  kept : ∀ (c : Child) (k : Key) (o : c.Object), a.store.find? c.kind k = some o →
    ¬ c.Doomed a.key k o → s.find? c.kind k = some o
  runs : s.runs = a.store.runs
  others : ∀ k, k ≠ a.key → s.find? .inst k = a.store.find? .inst k
  inst : ∀ i, s.find? .inst a.key = some i →
    i.isDeleting = true ∧ (i.isMarked = true → i = a.inst)

/-- What is asked to tear down what was there in the beginning. -/
inductive Clears (a : Outset) : Request → Prop where
  | read (r : Request) (hr : r.verb = .get ∨ r.verb = .list) : Clears a r
  | delete (c : Child) (k : Key)
      (hdoomed : ∀ o, a.store.find? c.kind k = some o → c.Doomed a.key k o) :
      Clears a (.delete c k)
  | release (version : Option String) (finalizers : List String)
      (hforeign : finalizers = a.inst.foreign) :
      Clears a (.patchFinalizers a.key version finalizers)

theorem Wanes.faults (h : a.Wanes s) (faults : List Fault) : a.Wanes { s with faults } where
  filed := h.filed.faults faults
  grows c k o ho := h.grows c k o ((find?_faults faults).symm.trans ho)
  kept c k o ho hdoomed := (find?_faults faults).trans (h.kept c k o ho hdoomed)
  runs := h.runs
  others k hk := (find?_faults faults).trans (h.others k hk)
  inst i hi := h.inst i ((find?_faults faults).symm.trans hi)

/-- Requests that tear down create nothing and delete only what is doomed. -/
theorem Clears.find?_child (hr : a.Clears r) (s : Store) (c : Child) (k : Key) :
    (s.serve r).2.find? c.kind k = s.find? c.kind k ∨
      ((s.serve r).2.find? c.kind k = none ∧
        ∀ o, a.store.find? c.kind k = some o → c.Doomed a.key k o) := by
  have tended := tended_serve s r c k
  generalize (s.serve r).2.find? c.kind k = after at tended
  cases tended with
  | kept => exact .inl rfl
  | created version o he hname hbefore =>
    subst he
    cases hr with
    | read _ hr => rcases hr with hr | hr <;> cases hr
  | deleted he =>
    subst he
    cases hr with
    | read _ hr => rcases hr with hr | hr <;> cases hr
    | delete _ _ hdoomed => exact .inr ⟨rfl, hdoomed⟩

theorem Clears.grows (hr : a.Clears r) (s : Store) : (s.serve r).2.Grows s := by
  intro c k o ho
  rcases hr.find?_child s c k with hsame | ⟨hnone, -⟩
  · exact hsame.symm.trans ho
  · cases hnone.symm.trans ho

/-- Of all Instances, only the one that is torn down is let go, or loses the marker. -/
theorem Clears.find?_inst (hr : a.Clears r) (s : Store) (k : Key) :
    (s.serve r).2.find? .inst k = s.find? .inst k ∨ (k = a.key ∧ ∀ i, (s.serve r).2.find? .inst k =
      some i → ∃ j, s.find? .inst k = some j ∧ i.isDeleting = j.isDeleting ∧ i.isMarked = false) := by
  have handled := handled_serve s r k
  generalize (s.serve r).2.find? .inst k = after at handled
  cases handled with
  | kept => exact .inl rfl
  | vanished version j he hj hdeleting =>
    subst he
    cases hr with
    | read _ hr => rcases hr with hr | hr <;> cases hr
    | release => exact .inr ⟨rfl, fun _ hi => nomatch hi⟩
  | finalizers version given finalizers j he hj =>
    subst he
    cases hr with
    | read _ hr => rcases hr with hr | hr <;> cases hr
    | release _ _ hforeign =>
      refine .inr ⟨rfl, fun i hi => ⟨j, hj, ?_⟩⟩
      cases hi
      subst hforeign
      refine ⟨rfl, ?_⟩
      simp [Instance.isMarked, Instance.hasFinalizer, Metadata.finalizerList, Instance.foreign]
  | status version given patch status j he hj =>
    subst he
    cases hr with
    | read _ hr => rcases hr with hr | hr <;> cases hr

theorem Wanes.serve (h : a.Wanes s) (hr : a.Clears r) : a.Wanes (s.serve r).2 where
  filed := h.filed.serve r
  grows := (hr.grows s).trans h.grows
  kept c k o ho hdoomed := by
    rcases hr.find?_child s c k with hsame | ⟨-, hall⟩
    · exact hsame.trans (h.kept c k o ho hdoomed)
    · exact absurd (hall o ho) hdoomed
  runs := (runs_serve s r).trans h.runs
  others k hk := by
    rcases hr.find?_inst s k with hsame | ⟨hkey, -⟩
    · exact hsame.trans (h.others k hk)
    · exact absurd hkey hk
  inst i hi := by
    rcases hr.find?_inst s a.key with hsame | ⟨-, hreleased⟩
    · exact h.inst i (hsame.symm.trans hi)
    · obtain ⟨j, hj, hdeleting, hmarked⟩ := hreleased i hi
      exact ⟨hdeleting.trans (h.inst j hj).1, fun hyes => nomatch hmarked.symm.trans hyes⟩

/-- A child that was listed for the Instance goes with it. -/
theorem Wanes.doomed_of_select (h : a.Wanes s) (hplain : Plain a.key.name) {c : Child}
    (hc : c ≠ .configMap) {o : c.Object}
    (ho : o ∈ s.select c.kind a.key.ns (componentSelector a.key.name channelComponent)) :
    ∀ o', a.store.find? c.kind ⟨a.key.ns, c.kind.nameOf o⟩ = some o' →
      c.Doomed a.key ⟨a.key.ns, c.kind.nameOf o⟩ o' := by
  intro o' ho'
  have hstored := h.grows c _ o (h.filed.found ho)
  cases hstored.symm.trans ho'
  obtain ⟨-, -, -, hadmits⟩ := mem_select.1 ho
  have hserves := (admits_componentSelector hplain _).1 hadmits
  cases c with
  | deployment => exact ⟨rfl, hserves⟩
  | volumeClaim => exact ⟨rfl, hserves⟩
  | configMap => exact absurd rfl hc

end Outset

namespace Pass

open Outset

variable {ε δ α β : Type} {calm : Prop} {a : Outset} {s s' s'' : Store} {c : Child} {k : Key}

/-- The contract of a pass that tears down.  Before each request, any faults may be injected.  If
the pass is calm, then there are none, and it is not cancelled. -/
def clearing (calm : Prop) (a : Outset) : Contract Store where
  grants _ r := a.Clears r
  answers s r answer s' := ∃ faults, (calm → faults = []) ∧
    ({ s with faults } : Store).serve r = (answer, s')
  shows _ cancelled := calm → cancelled = false

/-- A part of a pass has left the Instance alone, and it has filed nothing. -/
structure Dwindles (a : Outset) (s s' : Store) : Prop where
  wanes : a.Wanes s'
  grows : s'.Grows s
  inst : s'.find? .inst a.key = s.find? .inst a.key

/-- What a part of a pass has come to: it has cleared something away, and it has not failed if it
was calm. -/
structure Cleared (calm : Prop) (a : Outset) (s : Store) (now : α → Store → Prop)
    (result : Except ε α) (s' : Store) : Prop where
  dwindles : Dwindles a s s'
  succeeded : calm → result.isOk = true
  now : ∀ x, result = .ok x → now x s'

/-- A part of a pass clears something away. -/
abbrev Sweeps (calm : Prop) (a : Outset) (p : Pass ε α) (s : Store) (now : α → Store → Prop) :
    Prop :=
  p.Keeps (clearing calm a) s (Cleared calm a s now)

theorem ok_of_isOk {result : Except ε α} (h : result.isOk = true) : ∃ x, result = .ok x := by
  cases result with
  | ok x => exact ⟨x, rfl⟩
  | error e => cases h

theorem Dwindles.refl (h : a.Wanes s) : Dwindles a s s := ⟨h, Grows.refl s, rfl⟩

theorem Dwindles.trans (h : Dwindles a s s') (h' : Dwindles a s' s'') : Dwindles a s s'' :=
  ⟨h'.wanes, h'.grows.trans h.grows, h'.inst.trans h.inst⟩

/-- What was cleared away later was cleared away since the beginning. -/
theorem Cleared.since {now : α → Store → Prop} {result : Except ε α}
    (h' : Cleared calm a s' now result s'') (h : Dwindles a s s') : Cleared calm a s now result s'' :=
  ⟨h.trans h'.dwindles, h'.succeeded, h'.now⟩

theorem Sweeps.bind {p : Pass ε α} {f : α → Pass ε β} {now : α → Store → Prop}
    {later : β → Store → Prop} (h : Sweeps calm a p s now)
    (hf : ∀ x s', Dwindles a s s' → now x s' → Sweeps calm a (f x) s' later) :
    Sweeps calm a (p.bind f) s later := by
  refine Keeps.bind h ?_ ?_
  · intro x s' hp
    exact (hf x s' hp.dwindles (hp.now x rfl)).mono fun _ _ hq => hq.since hp.dwindles
  · intro e s' hp
    exact ⟨hp.dwindles, hp.succeeded, fun _ hx => nomatch hx⟩

/-- What follows an attempt goes on, whether or not the attempt has failed. -/
theorem Sweeps.attempt_bind {p : Pass ε α} {f : Except ε α → Pass δ β} {now : α → Store → Prop}
    {later : β → Store → Prop} (h : Sweeps calm a p s now)
    (hf : ∀ result s', Cleared calm a s now result s' → Sweeps calm a (f result) s' later) :
    Sweeps calm a (p.attempt.bind f) s later :=
  Keeps.attempt_bind h fun result s' hp =>
    (hf result s' hp).mono fun _ _ hq => hq.since hp.dwindles

theorem Sweeps.mapError {p : Pass ε α} {now : α → Store → Prop} (h : Sweeps calm a p s now)
    (g : ε → δ) : Sweeps calm a (p.mapError g) s now := by
  refine keeps_mapError.2 (h.mono fun result s' hp => ?_)
  cases result with
  | error e => exact ⟨hp.dwindles, hp.succeeded, fun _ hx => nomatch hx⟩
  | ok x => exact ⟨hp.dwindles, fun _ => rfl, fun y hy => hp.now y (by cases hy; rfl)⟩

theorem sweeps_done (h : a.Wanes s) {x : α} {now : α → Store → Prop} (hx : now x s) :
    Sweeps calm a (done x : Pass ε α) s now :=
  ⟨.refl h, fun _ => rfl, fun y hy => by cases hy; exact hx⟩

theorem sweeps_checkpoint (h : a.Wanes s) : Sweeps calm a checkpoint s fun _ _ => True := by
  refine keeps_checkpoint.2 ⟨fun hshows => ?_, fun _ => sweeps_done h trivial⟩
  exact ⟨.refl h, fun hcalm => (nomatch hshows hcalm), fun _ hx => nomatch hx⟩

/-! ## Requests -/

theorem wanes_answers (h : a.Wanes s) {r : Request} (hr : a.Clears r) {answer : r.Answer}
    (ha : (clearing calm a).answers s r answer s') : a.Wanes s' ∧ s'.Grows s := by
  obtain ⟨faults, -, hserve⟩ := ha
  have hs' : (({ s with faults } : Store).serve r).2 = s' := congrArg Prod.snd hserve
  rw [← hs']
  refine ⟨(h.faults faults).serve hr, fun c k o ho => ?_⟩
  exact (find?_faults faults).symm.trans (hr.grows _ c k o ho)

theorem dwindles_answers (h : a.Wanes s) {r : Request} (hr : a.Clears r) (hpatch : r.verb ≠ .patch)
    {answer : r.Answer} (ha : (clearing calm a).answers s r answer s') : Dwindles a s s' := by
  obtain ⟨wanes, grows⟩ := wanes_answers h hr ha
  obtain ⟨faults, -, hserve⟩ := ha
  have hs' : (({ s with faults } : Store).serve r).2 = s' := congrArg Prod.snd hserve
  refine ⟨wanes, grows, ?_⟩
  rw [← hs']
  exact (find?_serve_of_verb hpatch).trans (find?_faults faults)

/-- A request that is made calmly is answered as if there were no faults. -/
theorem answers_of_calm (hcalm : calm) {r : Request} {answer : r.Answer}
    (ha : (clearing calm a).answers s r answer s') :
    ({ s with faults := [] } : Store).answer r = (answer, s') := by
  obtain ⟨faults, hnone, hserve⟩ := ha
  have faultless : Faultless { s with faults := [] } := rfl
  rw [hnone hcalm] at hserve
  rw [← serve_of_no_faults faultless]
  exact hserve

/-- A read tells what is there. -/
theorem sweeps_read (h : a.Wanes s) {r : Request} (hverb : r.verb = .get ∨ r.verb = .list)
    (found : Store → r.Reply) (hread : ∀ s : Store, s.answer r = (.ok (found s), s)) :
    Sweeps calm a (ask r) s fun x s' => x = found s' := by
  have hr : a.Clears r := .read r hverb
  have hpatch : r.verb ≠ .patch := by
    rintro he
    rcases hverb with hverb | hverb <;> cases hverb.symm.trans he
  refine keeps_ask.2 ⟨hr, fun answer s' ha => ⟨dwindles_answers h hr hpatch ha, ?_, ?_⟩⟩
  · intro hcalm
    have hanswer := answers_of_calm hcalm ha
    rw [hread] at hanswer
    cases hanswer
    rfl
  · rintro x rfl
    obtain ⟨faults, -, hserve⟩ := ha
    rcases serve_cases { s with faults } r with ⟨e, left, herror⟩ | hanswer
    · cases herror.symm.trans hserve
    · rw [hread] at hanswer
      cases hanswer.symm.trans hserve
      rfl

theorem sweeps_list (h : a.Wanes s) (c : Child) (ns selector : String) :
    Sweeps calm a (ask (.list c ns selector)) s fun found s' =>
      found = s'.select c.kind ns selector :=
  sweeps_read (r := .list c ns selector) h (.inr rfl) _ fun _ => rfl

/-- What may be deleted is deleted, or it is gone already. -/
theorem sweeps_discard (h : a.Wanes s)
    (hdoomed : ∀ o, a.store.find? c.kind k = some o → c.Doomed a.key k o) :
    Sweeps calm a (discard c k) s fun _ s' => calm → s'.find? c.kind k = none := by
  have hr : a.Clears (.delete c k) := .delete c k hdoomed
  have hverb : (Request.delete c k).verb ≠ .patch := by rintro ⟨⟩
  refine keeps_discard.2 ⟨hr, fun answer s' ha => ?_⟩
  have gone (hcalm : calm) :
      Store.Error.ignoreMissing answer = .ok () ∧ s'.find? c.kind k = none := by
    have hanswer := answers_of_calm hcalm ha
    simp only [Store.answer] at hanswer
    split at hanswer
    · cases hanswer
      exact ⟨rfl, (find?_record ..).trans find?_drop_self⟩
    · next hmissing =>
      cases hanswer
      exact ⟨rfl, Option.not_isSome_iff_eq_none.1 hmissing⟩
  exact ⟨dwindles_answers h hr hverb ha, fun hcalm => by rw [(gone hcalm).1]; rfl,
    fun _ _ hcalm => (gone hcalm).2⟩

/-! ## Parts of a teardown -/

/-- Workloads are deleted in turn. -/
theorem sweeps_deleteWorkloads (h : a.Wanes s) {ds : List Deployment}
    (hdoomed : ∀ d ∈ ds, ∀ o,
      a.store.find? .deployment ⟨a.key.ns, d.metadata.displayName⟩ = some o →
        Child.Doomed a.key .deployment ⟨a.key.ns, d.metadata.displayName⟩ o) :
    Sweeps calm a (deleteWorkloads a.key.ns ds) s fun _ s' => calm →
      ∀ d ∈ ds, s'.find? .deployment ⟨a.key.ns, d.metadata.displayName⟩ = none := by
  induction ds generalizing s with
  | nil => exact sweeps_done h fun _ _ hd => nomatch hd
  | cons d ds ih =>
    obtain ⟨hd, hds⟩ := List.forall_mem_cons.1 hdoomed
    refine (sweeps_checkpoint h).bind fun _ s₁ h₁ _ => ?_
    refine ((sweeps_discard h₁.wanes hd).mapError _).bind fun _ s₂ h₂ hgone => ?_
    refine (ih h₂.wanes hds).mono fun result s₃ h₃ => ⟨h₃.dwindles, h₃.succeeded, ?_⟩
    intro x hx hcalm
    refine List.forall_mem_cons.2 ⟨?_, h₃.now x hx hcalm⟩
    exact h₃.dwindles.grows.eq_none (hgone hcalm)

/-- Session stores are deleted in turn, as well as may be. -/
theorem sweeps_deleteSessions (h : a.Wanes s) {cs : List VolumeClaim}
    (hdoomed : ∀ v ∈ cs, ∀ o,
      a.store.find? .volumeClaim ⟨a.key.ns, v.metadata.displayName⟩ = some o →
        Child.Doomed a.key .volumeClaim ⟨a.key.ns, v.metadata.displayName⟩ o) :
    Sweeps calm a (deleteSessions (ε := ε) a.key.ns cs) s fun _ s' => calm →
      ∀ v ∈ cs, s'.find? .volumeClaim ⟨a.key.ns, v.metadata.displayName⟩ = none := by
  induction cs generalizing s with
  | nil => exact sweeps_done h fun _ _ hv => nomatch hv
  | cons v cs ih =>
    obtain ⟨hv, hcs⟩ := List.forall_mem_cons.1 hdoomed
    refine (sweeps_discard (c := .volumeClaim) h hv).attempt_bind fun result s₁ h₁ => ?_
    refine (ih h₁.dwindles.wanes hcs).mono fun result' s₂ h₂ => ⟨h₂.dwindles, h₂.succeeded, ?_⟩
    intro x hx hcalm
    obtain ⟨u, rfl⟩ := ok_of_isOk (h₁.succeeded hcalm)
    refine List.forall_mem_cons.2 ⟨?_, h₂.now x hx hcalm⟩
    exact h₂.dwindles.grows.eq_none (c := .volumeClaim) (h₁.now u rfl hcalm)

/-- No object of a kind serves a channel of the Instance. -/
def Unserved (a : Outset) (c : Child) (s : Store) : Prop :=
  ∀ k (o : c.Object), s.find? c.kind k = some o → k.ns = a.key.ns →
    ¬ Serves a.key.name (Resource.metadata o)

theorem Unserved.mono (h : Unserved a c s) (hgrows : s'.Grows s) : Unserved a c s' :=
  fun k o ho => h k o (hgrows c k o ho)

/-- If everything is gone that was listed for the Instance, then nothing serves it. -/
theorem unserved_of_gone (hfiled : s.Filed) (hplain : Plain a.key.name) (hgrows : s'.Grows s)
    (hgone : ∀ o ∈ s.select c.kind a.key.ns (componentSelector a.key.name channelComponent),
      s'.find? c.kind ⟨a.key.ns, c.kind.nameOf o⟩ = none) : Unserved a c s' := by
  intro k o ho hns hserves
  have hbefore := hgrows c k o ho
  have hlisted := mem_select.2 ⟨k, hns, hbefore, (admits_componentSelector hplain _).2 hserves⟩
  have hkey : (⟨a.key.ns, c.kind.nameOf o⟩ : Key) = k := by
    rw [← hns, show c.kind.nameOf o = k.name from (hfiled c.kind k o hbefore).name]
  cases (hkey ▸ hgone o hlisted).symm.trans ho

theorem Unserved.select_eq_nil (h : Unserved a c s) (hplain : Plain a.key.name) :
    s.select c.kind a.key.ns (componentSelector a.key.name channelComponent) = [] := by
  refine List.eq_nil_iff_forall_not_mem.2 fun o ho => ?_
  obtain ⟨k, hns, hfind, hadmits⟩ := mem_select.1 ho
  exact h k o hfind hns ((admits_componentSelector hplain _).1 hadmits)

/-- The data of the Instance is deleted, as well as may be. -/
theorem sweeps_deleteStores (h : a.Wanes s) (hplain : Plain a.key.name) :
    Sweeps calm a (deleteStores (ε := ε) a.key.ns a.key.name
      (componentSelector a.key.name channelComponent)) s fun _ s' => calm →
        Unserved a .volumeClaim s' ∧
          s'.find? .configMap ⟨a.key.ns, memoryStore a.key.name⟩ = none := by
  -- the memory store goes last, whatever has come of the session stores
  have memory {s : Store} (h : a.Wanes s) : Sweeps calm a
      (((discard .configMap ⟨a.key.ns, memoryStore a.key.name⟩).attempt).bind
        fun _ => (.done () : Pass ε Unit)) s fun _ s' => calm →
          s'.find? .configMap ⟨a.key.ns, memoryStore a.key.name⟩ = none := by
    refine (sweeps_discard (c := .configMap) h fun _ _ => rfl).attempt_bind fun result s₁ h₁ => ?_
    refine sweeps_done h₁.dwindles.wanes fun hcalm => ?_
    obtain ⟨u, rfl⟩ := ok_of_isOk (h₁.succeeded hcalm)
    exact h₁.now u rfl hcalm
  refine (sweeps_list h .volumeClaim _ _).attempt_bind fun result s₁ h₁ => ?_
  cases result with
  | error e =>
    refine (memory h₁.dwindles.wanes).mono fun _ _ h₂ => ⟨h₂.dwindles, h₂.succeeded, ?_⟩
    exact fun _ _ hcalm => nomatch h₁.succeeded hcalm
  | ok claims =>
    have hclaims := h₁.now claims rfl
    have hdoomed : ∀ v ∈ claims, ∀ o,
        a.store.find? .volumeClaim ⟨a.key.ns, v.metadata.displayName⟩ = some o →
          Child.Doomed a.key .volumeClaim ⟨a.key.ns, v.metadata.displayName⟩ o := by
      subst hclaims
      exact fun v hv => h₁.dwindles.wanes.doomed_of_select (c := .volumeClaim) hplain nofun hv
    refine (sweeps_deleteSessions h₁.dwindles.wanes hdoomed).bind fun _ s₂ h₂ hgone => ?_
    refine (memory h₂.wanes).mono fun result s₃ h₃ => ⟨h₃.dwindles, h₃.succeeded, ?_⟩
    intro x hx hcalm
    refine ⟨?_, h₃.now x hx hcalm⟩
    have unserved : Unserved a .volumeClaim s₂ := by
      subst hclaims
      exact unserved_of_gone (c := .volumeClaim) h₁.dwindles.wanes.filed hplain h₂.grows (hgone hcalm)
    exact unserved.mono h₃.dwindles.grows

/-! ## Whole passes -/

/-- The Instance has lost the marker and is otherwise as it was, or it is gone if the marker was its
only finalizer. -/
def Released (a : Outset) (s : Store) : Prop :=
  if a.inst.foreign = [] then s.find? .inst a.key = none
  else ∃ version, s.find? .inst a.key = some { a.inst with
    metadata := { a.inst.metadata with
      finalizers := some a.inst.foreign
      resourceVersion := some version } }

/-- Exactly what goes with the Instance is gone, and the Instance is released. -/
structure TornDown (a : Outset) (s : Store) : Prop where
  children : ∀ (c : Child) (k : Key), s.find? c.kind k =
    (a.store.find? c.kind k).filter fun o => ¬ c.Doomed a.key k o
  released : Released a s
  others : ∀ k, k ≠ a.key → s.find? .inst k = a.store.find? .inst k
  runs : s.runs = a.store.runs

/-- What a pass has come to in the end: if it was calm, then it has completed the teardown. -/
structure Concluded (calm : Prop) (a : Outset) (result : Except Pass.Error Action) (s' : Store) :
    Prop where
  wanes : a.Wanes s'
  completes : calm → result = .ok .awaitChange ∧ TornDown a s'

theorem Sweeps.concluded {p : Pass Pass.Error α} {f : α → Pass Pass.Error Action}
    {now : α → Store → Prop} (h : Sweeps calm a p s now)
    (hf : ∀ x s', Dwindles a s s' → now x s' →
      (f x).Keeps (clearing calm a) s' (Concluded calm a)) :
    (p.bind f).Keeps (clearing calm a) s (Concluded calm a) := by
  refine Keeps.bind h (fun x s' hp => hf x s' hp.dwindles (hp.now x rfl)) ?_
  intro e s' hp
  exact ⟨hp.dwindles.wanes, fun hcalm => nomatch hp.succeeded hcalm⟩

/-- If nothing serves the Instance and there is no memory store, then exactly what goes with it is
gone. -/
theorem tornDown_of_unserved (h : a.Wanes s) (hdeployments : Unserved a .deployment s)
    (hclaims : Unserved a .volumeClaim s)
    (hmemory : s.find? .configMap ⟨a.key.ns, memoryStore a.key.name⟩ = none)
    (hreleased : Released a s) : TornDown a s where
  children c k := by
    have gone : ∀ o, s.find? c.kind k = some o → ¬ c.Doomed a.key k o := by
      intro o ho hdoomed
      cases c with
      | deployment => exact hdeployments k o ho hdoomed.1 hdoomed.2
      | volumeClaim => exact hclaims k o ho hdoomed.1 hdoomed.2
      | configMap =>
        cases hdoomed
        cases hmemory.symm.trans ho
    refine Option.ext fun o => ?_
    rw [Option.filter_eq_some_iff, decide_eq_true_iff]
    constructor
    · exact fun ho => ⟨h.grows c k o ho, gone o ho⟩
    · rintro ⟨ho, hkept⟩
      exact h.kept c k o ho hkept
  released := hreleased
  others := h.others
  runs := h.runs

/-- A patch that is made calmly takes the marker off. -/
theorem released_of_calm (hcalm : calm) (hi : s.find? .inst a.key = some a.inst)
    (hdeleting : a.inst.isDeleting = true) {answer : Except Store.Error Unit}
    (ha : (clearing calm a).answers s
      (.patchFinalizers a.key a.inst.metadata.resourceVersion a.inst.foreign) answer s') :
    answer = .ok () ∧ Released a s' := by
  have hanswer := answers_of_calm hcalm ha
  have faultless : Faultless { s with faults := [] } := rfl
  have hi' : ({ s with faults := [] } : Store).find? .inst a.key = some a.inst :=
    (find?_faults []).trans hi
  have hok := ok_patchFinalizers hi' a.inst.foreign
  rw [hanswer] at hok
  refine ⟨hok, ?_⟩
  have accepted : ({ s with faults := [] } : Store).Accepts
      (.patchFinalizers a.key a.inst.metadata.resourceVersion a.inst.foreign) := by
    rw [Accepts, serve_of_no_faults faultless, hanswer, show answer = .ok () from hok]
    rfl
  have hfind := find?_patchFinalizers hi' accepted
  rw [serve_of_no_faults faultless, hanswer] at hfind
  unfold Released
  split
  · next hnone =>
    rw [if_pos ⟨hdeleting, hnone⟩] at hfind
    exact hfind
  · next hsome =>
    rw [if_neg fun hlast => hsome hlast.2] at hfind
    exact ⟨_, hfind⟩

theorem concluded_unmark (h : a.Wanes s) (hi : s.find? .inst a.key = some a.inst)
    (hdeployments : calm → Unserved a .deployment s)
    (hdata : calm → Unserved a .volumeClaim s ∧
      s.find? .configMap ⟨a.key.ns, memoryStore a.key.name⟩ = none) :
    ((unmark a.key.ns a.inst).bind fun _ => (.done .awaitChange : Pass Pass.Error Action)).Keeps
      (clearing calm a) s (Concluded calm a) := by
  have hkey : (⟨a.key.ns, a.inst.name⟩ : Key) = a.key := by
    rw [show a.inst.name = a.key.name from (h.filed .inst _ _ hi).name]
  unfold unmark
  rw [hkey]
  have hr : a.Clears (.patchFinalizers a.key a.inst.metadata.resourceVersion a.inst.foreign) :=
    .release _ _ rfl
  refine ⟨hr, fun answer s' ha => ?_⟩
  obtain ⟨wanes, grows⟩ := wanes_answers h hr ha
  have completes (hcalm : calm) : answer = .ok () ∧ TornDown a s' := by
    obtain ⟨hok, hreleased⟩ := released_of_calm hcalm hi (h.inst _ hi).1 ha
    obtain ⟨hclaims, hmemory⟩ := hdata hcalm
    exact ⟨hok, tornDown_of_unserved wanes ((hdeployments hcalm).mono grows) (hclaims.mono grows)
      (grows.eq_none (c := .configMap) hmemory) hreleased⟩
  cases hfine : Store.Error.ignoreMissing answer with
  | ok u =>
    simp only [hfine]
    exact ⟨wanes, fun hcalm => ⟨rfl, (completes hcalm).2⟩⟩
  | error e =>
    simp only [hfine]
    refine ⟨wanes, fun hcalm => ?_⟩
    rw [(completes hcalm).1] at hfine
    cases hfine

theorem concluded_teardown (intervals : Config.Intervals) (h : a.Wanes s) {i : Instance}
    (hi : s.find? .inst a.key = some i) (hmarked : calm → i.isMarked = true)
    (hplain : Plain a.key.name) :
    (teardown intervals a.key.ns i).Keeps (clearing calm a) s (Concluded calm a) := by
  have hname : i.name = a.key.name := (h.filed .inst _ i hi).name
  have list {s : Store} (h : a.Wanes s) (selector : String) :
      Sweeps calm a (askStore (.list .deployment a.key.ns selector)) s fun found s' =>
        found = s'.select .deployment a.key.ns selector :=
    (sweeps_list h .deployment a.key.ns selector).mapError _
  unfold teardown
  rw [hname]
  refine (list h _).concluded fun workloads s₁ h₁ hworkloads => ?_
  have hdoomed : ∀ d ∈ workloads, ∀ o,
      a.store.find? .deployment ⟨a.key.ns, d.metadata.displayName⟩ = some o →
        Child.Doomed a.key .deployment ⟨a.key.ns, d.metadata.displayName⟩ o := by
    subst hworkloads
    exact fun d hd => h₁.wanes.doomed_of_select (c := .deployment) hplain nofun hd
  refine (sweeps_deleteWorkloads h₁.wanes hdoomed).concluded fun _ s₂ h₂ hgone => ?_
  have unserved (hcalm : calm) : Unserved a .deployment s₂ := by
    subst hworkloads
    exact unserved_of_gone (c := .deployment) h₁.wanes.filed hplain h₂.grows (hgone hcalm)
  refine (list h₂.wanes _).concluded fun remaining s₃ h₃ hremaining => ?_
  split
  · next hleft =>
    refine ⟨h₃.wanes, fun hcalm => absurd ?_ hleft⟩
    rw [hremaining]
    exact ((unserved hcalm).mono h₃.grows).select_eq_nil hplain
  · refine (sweeps_deleteStores h₃.wanes hplain).concluded fun _ s₄ h₄ hdata => ?_
    have hi₄ : s₄.find? .inst a.key = some i :=
      h₄.inst.trans (h₃.inst.trans (h₂.inst.trans (h₁.inst.trans hi)))
    split
    · next hunmarked =>
      refine ⟨h₄.wanes, fun hcalm => ?_⟩
      rw [hmarked hcalm] at hunmarked
      cases hunmarked
    · next hyes =>
      cases (h₄.wanes.inst i hi₄).2 (by simpa using hyes)
      refine (sweeps_checkpoint h₄.wanes).concluded fun _ s₅ h₅ _ => ?_
      refine concluded_unmark h₅.wanes (h₅.inst.trans hi₄) (fun hcalm => ?_) fun hcalm => ?_
      · exact (unserved hcalm).mono ((h₅.grows.trans h₄.grows).trans h₃.grows)
      · obtain ⟨hclaims, hmemory⟩ := hdata hcalm
        exact ⟨hclaims.mono h₅.grows, h₅.grows.eq_none (c := .configMap) hmemory⟩

/-- Every pass goes on with the teardown, and a calm one completes it if the Instance is held. -/
theorem concluded_reconcile (cfg : Config) (h : a.Wanes s)
    (hheld : calm → ∃ i, s.find? .inst a.key = some i ∧ i.isMarked = true)
    (hplain : Plain a.key.name) :
    (reconcile cfg a.key).Keeps (clearing calm a) s (Concluded calm a) := by
  have read : Sweeps calm a (askStore (.getInstance a.key)) s fun found s' =>
      found = s'.find? .inst a.key :=
    (sweeps_read (r := .getInstance a.key) h (.inl rfl) _ fun _ => rfl).mapError _
  unfold reconcile
  refine read.concluded fun found s₁ h₁ hfound => ?_
  have hfind : s.find? .inst a.key = found := h₁.inst.symm.trans hfound.symm
  cases found with
  | none =>
    refine ⟨h₁.wanes, fun hcalm => ?_⟩
    obtain ⟨i, hi, -⟩ := hheld hcalm
    cases hfind.symm.trans hi
  | some i =>
    have hmarked (hcalm : calm) : i.isMarked = true := by
      obtain ⟨j, hj, hmarked⟩ := hheld hcalm
      cases hfind.symm.trans hj
      exact hmarked
    have teardown := concluded_teardown cfg.intervals h₁.wanes hfound.symm hmarked hplain
    rcases Instance.stage_of_isDeleting (h₁.wanes.inst i hfound.symm).1 with hstage | hstage
    · simpa only [hstage] using teardown
    · simpa only [hstage] using teardown

/-! ## Passes in turn -/

theorem run_of_disturbs {operations : List Operation} (h : ∀ o ∈ operations, o.Disturbs)
    (s : Store) : ∃ faults, s.run operations = { s with faults } := by
  induction operations generalizing s with
  | nil => exact ⟨s.faults, rfl⟩
  | cons o operations ih =>
    obtain ⟨faults, hperform⟩ := (h o List.mem_cons_self).perform_eq s
    obtain ⟨faults', hrun⟩ := ih (fun o' ho' => h o' (List.mem_cons_of_mem _ ho')) (s.perform o)
    refine ⟨faults', ?_⟩
    show (s.perform o).run operations = _
    rw [hrun, hperform]

/-- A pass that meets faults or is cancelled takes away nothing but what goes with the Instance. -/
theorem wanes_pass (cfg : Config) (h : a.Wanes s) (hplain : Plain a.key.name) {b : Company}
    (hb : ∀ n, ∀ o ∈ b.others n, o.Disturbs) : a.Wanes (left s (calls cfg a.key b s)) := by
  have keeps : (reconcile cfg a.key).Keeps (clearing False a) (left s []) (Concluded False a) :=
    concluded_reconcile cfg h False.elim hplain
  refine (Keeps.run (w := amid b s) (left s) (fun _ => True) keeps trivial ?_
    (fun _ => False.elim) fun _ _ => rfl).2.wanes
  intro log r _ _
  obtain ⟨faults, hrun⟩ := run_of_disturbs (hb log.length) (left s log)
  have hleft : left s (log ++ [b.call s log r]) = (b.call s log r).after := left_append ..
  refine ⟨trivial, faults, False.elim, ?_⟩
  rw [← hrun]
  exact Prod.ext rfl hleft.symm

/-- A pass that nothing disturbs completes the teardown. -/
theorem tornDown_undisturbed (cfg : Config) (h : a.Wanes s)
    (hheld : ∃ i, s.find? .inst a.key = some i ∧ i.isMarked = true) (hplain : Plain a.key.name) :
    ((reconcile cfg a.key).run (alone false) { s with faults := [] }).1 = .ok .awaitChange ∧
      TornDown a (undisturbed cfg a.key s) := by
  have keeps : (reconcile cfg a.key).Keeps (clearing True a) { s with faults := [] }
      (Concluded True a) := by
    refine concluded_reconcile cfg (h.faults []) (fun _ => ?_) hplain
    obtain ⟨i, hi, hmarked⟩ := hheld
    exact ⟨i, (find?_faults []).trans hi, hmarked⟩
  refine (Keeps.run (w := alone false) id Faultless keeps rfl ?_ (fun _ _ => rfl)
    fun _ _ => rfl).2.completes trivial
  intro s r hs _
  have hsame : ({ s with faults := [] } : Store) = s := by
    rw [← hs]
  refine ⟨?_, [], fun _ => rfl, ?_⟩
  · show Faultless (s.serve r).2
    rw [serve_of_no_faults hs]
    exact (faults_answer s r).trans hs
  · rw [id, hsame]
    rfl

/-- However many passes have met faults or were cancelled, if the marker is still on an Instance that
is being deleted, then one more pass that nothing disturbs completes the teardown, and awaits a
change.  Exactly the workloads, the session stores and the memory store are gone that go with the
Instance, and the Instance is released. -/
theorem teardown_completes (cfg : Config) (key : Key) (operations : List Operation) {i : Instance}
    (hi : (Store.empty.run operations).find? .inst key = some i) (hdeleting : i.isDeleting = true)
    (hplain : Plain key.name) (bs : List Company)
    (hdisturbs : ∀ b ∈ bs, ∀ n, ∀ o ∈ b.others n, o.Disturbs)
    (hheld : ∃ j, (series cfg key bs (Store.empty.run operations)).2.find? .inst key = some j ∧
      j.isMarked = true) :
    let s := (series cfg key bs (Store.empty.run operations)).2
    ((reconcile cfg key).run (alone false) { s with faults := [] }).1 = .ok .awaitChange ∧
      TornDown ⟨key, i, Store.empty.run operations⟩ (undisturbed cfg key s) := by
  let a : Outset := ⟨key, i, Store.empty.run operations⟩
  have outset : a.Wanes a.store := by
    refine ⟨filed_empty.run operations, Grows.refl _, fun _ _ _ ho _ => ho, rfl, fun _ _ => rfl, ?_⟩
    intro j hj
    cases hi.symm.trans hj
    exact ⟨hdeleting, fun _ => rfl⟩
  have wanes : a.Wanes (series cfg key bs (Store.empty.run operations)).2 :=
    series_invariant (fun b hb _ h => wanes_pass cfg h hplain (hdisturbs b hb)) outset
  exact tornDown_undisturbed cfg wanes hheld hplain

/-- A run that leaves an Instance to be torn down that declares no channels, with two workloads and a
session store that are labelled for it, a memory store, and a workload of another Instance. -/
def strewn : List Operation :=
  let labelled (name owner : String) : Metadata :=
    { name := some name, labels := some (channelLabels owner .telegram) }
  [.insertInstance {
      metadata := {
        name := some "bot"
        ns := some "tenant"
        finalizers := some ["first", Instance.marker, "last"] } },
    .insertDeployment "tenant" { metadata := labelled "here" "bot" },
    .insertDeployment "tenant" { metadata := labelled "there" "bot" },
    .insertDeployment "tenant" { metadata := labelled "elsewhere" "other" },
    .request (.create .volumeClaim "tenant" { metadata := labelled "anywhere" "bot" }),
    .request (.create .configMap "tenant" { metadata := { name := some "bot-memory" } }),
    .requestDeletion ⟨"tenant", "bot"⟩]

/-- Two companies for a teardown: in the one a deletion fails, and in the other the pass is cancelled
after it has deleted a workload. -/
def hindrances : List Company :=
  [.once (.failTimes .delete .deployment 1 (.unavailable "down")),
    { cancelled := fun n => 3 ≤ n }]

theorem teardown_completes_strewn :
    let key : Key := ⟨"tenant", "bot"⟩
    let s := (series {} key hindrances (Store.empty.run strewn)).2
    s.names .deployment "tenant" = ["elsewhere", "there"] ∧
      ((reconcile {} key).run (alone false) { s with faults := [] }).1 = .ok .awaitChange ∧
      ∃ i, (Store.empty.run strewn).find? .inst key = some i ∧ i.foreign = ["first", "last"] ∧
        TornDown ⟨key, i, Store.empty.run strewn⟩ (undisturbed {} key s) := by
  intro key s
  have left : s.names .deployment "tenant" = ["elsewhere", "there"] := by decide +kernel
  have held : ∃ j ∈ s.find? .inst key, j.isMarked = true := by decide +kernel
  have deleting : ∃ i ∈ (Store.empty.run strewn).find? .inst key,
      i.isDeleting = true ∧ i.foreign = ["first", "last"] := by decide +kernel
  have plain : Plain key.name := by decide +kernel
  have disturbs : ∀ b ∈ hindrances, ∀ n, ∀ o ∈ b.others n, o.Disturbs := by
    intro b hb n o ho
    rcases List.mem_pair.1 hb with rfl | rfl
    · exact Company.forall_once trivial n o ho
    · cases ho
  obtain ⟨i, hi, hdeleting, hforeign⟩ := deleting
  obtain ⟨hresult, htorn⟩ := teardown_completes {} key strewn hi hdeleting plain hindrances disturbs
    held
  exact ⟨left, hresult, i, hi, hforeign, htorn⟩

end Pass

end WorkloadOperator
