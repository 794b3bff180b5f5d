import WorkloadOperator.Proofs.Amending
import WorkloadOperator.Proofs.Opening
import WorkloadOperator.Proofs.Reflecting
import WorkloadOperator.Proofs.Releasing
import WorkloadOperator.Proofs.Retries
import WorkloadOperator.Proofs.Succeeding

/-!
# Passes that nobody disturbs come to rest

The first pass that nobody disturbs puts the marker on the Instance and creates what is missing.
The second one finds all children there, and it records what it has found.  From then on there is
nothing to do: each pass reads what the one before has read, computes the status that is recorded
already, and leaves the store as it is, with its versions and its journal (`settles`).

It does not matter how often the Instance declares a channel: what is recorded of a channel is
`Pending` only if the workload was created on the way, and no workload is created twice.
-/

namespace WorkloadOperator

open Naming

namespace Pass

variable {ε α β σ : Type}

/-! ## Peaceful passes -/

/-- The surroundings of a pass that nobody disturbs: a store, and the events that the pass has
published. -/
def peaceful : Surroundings (Store × List Event) where
  serve r w := ((w.1.serve r).1, (w.1.serve r).2, w.2)
  isCancelled _ := false
  publish e w := (w.1, w.2 ++ [e])

/-- What comes of a pass that nobody disturbs, the store after it, and its events. -/
def peace (cfg : Config) (key : Key) (s : Store) :
    Except Pass.Error Action × Store × List Event :=
  (reconcile cfg key).run peaceful (s, [])

/-- The store after so many passes in turn that nobody disturbs. -/
def afterPeace (cfg : Config) (key : Key) (s : Store) : Nat → Store
  | 0 => s
  | n + 1 => (peace cfg key (afterPeace cfg key s n)).2.1

theorem afterPeace_succ (cfg : Config) (key : Key) (s : Store) (n : Nat) :
    afterPeace cfg key s (n + 1) = (peace cfg key (afterPeace cfg key s n)).2.1 := rfl

variable {p : Pass ε α} {s s' : Store} {es : List Event} {r : Request}

/-- A pass that nobody disturbs comes out as promised, as far as its store is concerned. -/
theorem Keeps.peaceful {c : Contract Store} {q : Except ε α → Store → Prop} (sound : Store → Prop)
    (h : p.Keeps c s q) (hs : sound s)
    (serves : ∀ s r, sound s → c.grants s r →
      sound (s.serve r).2 ∧ c.answers s r (s.serve r).1 (s.serve r).2)
    (shows : ∀ s, c.shows s false) (es : List Event) :
    q (p.run peaceful (s, es)).1 (p.run peaceful (s, es)).2.1 :=
  (Keeps.run_viewed Prod.fst (fun w => sound w.1) h hs (fun w r => serves w.1 r)
    (fun w => shows w.1) fun _ _ hw => ⟨hw, rfl⟩).2

/-- The contract of a pass that nobody disturbs. -/
def solo : Contract Store where
  grants _ _ := True
  answers s r answer s' := answer = (s.serve r).1 ∧ s' = (s.serve r).2
  shows _ cancelled := cancelled = false

theorem Keeps.solo {q : Except ε α → Store → Prop} (h : p.Keeps solo s q) (es : List Event) :
    q (p.run Pass.peaceful (s, es)).1 (p.run Pass.peaceful (s, es)).2.1 :=
  h.peaceful (fun _ => True) trivial (fun _ _ _ _ => ⟨trivial, rfl, rfl⟩) (fun _ => rfl) es

theorem solo_askStore {q : Except Pass.Error r.Reply → Store → Prop}
    (h : q ((s.serve r).1.mapError .store) (s.serve r).2) : (askStore r).Keeps solo s q := by
  refine keeps_askStore.2 ⟨trivial, ?_⟩
  rintro _ _ ⟨rfl, rfl⟩
  exact h

/-! ## The Instance of a peaceful pass -/

/-- A store without faults has an Instance with an aim. -/
structure Standing (a : Aim) (i : Instance) (s : Store) : Prop where
  filed : s.Filed
  faultless : s.Faultless
  found : s.find? .inst a.key = some i
  declares : a.Declares i

variable {a : Aim} {i i' : Instance}

theorem Standing.key_eq (h : Standing a i s) : (⟨a.key.ns, i.name⟩ : Key) = a.key := by
  rw [h.declares.name]

theorem faultless_serve (h : s.Faultless) (r : Request) : (s.serve r).2.Faultless := by
  rw [Store.serve_of_no_faults h]
  exact (Store.faults_answer s r).trans h

theorem Standing.serve (h : Standing a i s) (hr : r.verb ≠ .patch) :
    Standing a i (s.serve r).2 where
  filed := h.filed.serve r
  faultless := faultless_serve h.faultless r
  found := (Store.find?_serve_of_verb hr).trans h.found
  declares := h.declares

theorem solo_fair (a : Aim) (i : Instance) : solo.Fair (Standing a i) where
  grants _ _ _ _ := trivial
  answers s r := by
    rintro _ _ hs hr ⟨rfl, rfl⟩
    exact ⟨⟨s, by rw [Store.serve_of_no_faults hs.faultless]⟩, hs.serve hr⟩
  shows _ _ hlook := hlook

theorem solo_getInstance (h : Standing a i s) :
    (askStore (.getInstance a.key)).Keeps solo s fun result s' =>
      result = .ok (some i) ∧ Standing a i s' := by
  refine solo_askStore ⟨?_, h.serve nofun⟩
  rw [Store.serve_of_no_faults h.faultless]
  exact congrArg Except.ok h.found

theorem solo_mark (h : Standing a i s) :
    (mark a.key.ns i).Keeps solo s fun result s' =>
      result = .ok () ∧ ∃ i', Standing a i' s' ∧ i'.isMarked = true := by
  let r : Request := .patchFinalizers a.key i.metadata.resourceVersion
    (i.metadata.finalizerList ++ [Instance.marker])
  have hok : (s.serve r).1 = .ok () := by
    rw [Store.serve_of_no_faults h.faultless]
    exact Store.ok_patchFinalizers h.found _
  have accepted : s.Accepts r := congrArg Except.isOk hok
  have hfind := Store.find?_patchFinalizers h.found accepted
  rw [if_neg (by simp [h.declares.alive])] at hfind
  unfold mark
  rw [h.key_eq]
  refine solo_askStore ⟨?_, _, ⟨h.filed.serve r, faultless_serve h.faultless r, hfind, ?_⟩, ?_⟩
  · rw [hok]
    rfl
  · exact ⟨h.declares.name, h.declares.uid, h.declares.spec, h.declares.alive⟩
  · exact Store.isMarked_iff.2 (List.mem_append_right _ (List.mem_singleton_self _))

/-- What is recorded is the status of the Instance afterwards, and nothing else has changed that
a pass looks at. -/
theorem solo_recordStatus (h : Standing a i s) (desired : Instance.Status) :
    (recordStatus a.key.ns i desired).Keeps solo s fun result s' =>
      result = .ok () ∧ (∃ i', Standing a i' s' ∧ i'.isMarked = i.isMarked ∧
        i'.status = some desired) ∧
        (∀ (c : Child) (k : Key), s'.find? c.kind k = s.find? c.kind k) ∧ s'.runs = s.runs := by
  unfold recordStatus
  rw [h.key_eq]
  split
  · next patch hpatch =>
    let r : Request := .patchStatus a.key i.metadata.resourceVersion patch
    have calm : ¬ s.Faulty .patch .inst := by
      intro hfault
      rw [Store.Faulty, show s.faults = [] from h.faultless] at hfault
      cases hfault
    obtain ⟨hok, hfind⟩ := Instance.Status.serve_diff hpatch h.found rfl calm (.inr rfl)
    have declares := h.declares
    refine solo_askStore ⟨?_, ⟨_, ⟨h.filed.serve r, faultless_serve h.faultless r, hfind, ?_⟩,
      rfl, rfl⟩, fun c k => Store.find?_serve_of_kind (r := r) c.kind_ne_inst.symm,
      Store.runs_serve s r⟩
    · rw [hok]
      rfl
    · exact ⟨declares.name, declares.uid, declares.spec, declares.alive⟩
  · next hsame =>
    exact ⟨rfl, ⟨i, h, rfl, Instance.Status.eq_of_diff_eq_none hsame⟩, fun _ _ => rfl, rfl⟩

/-! ## The first pass -/

theorem solo_opening (h : Standing a i s) :
    (opening a.key).Keeps solo s fun result s' =>
      ∃ i', result = .ok (some i') ∧ Standing a i' s' ∧ i'.isMarked = true := by
  unfold opening
  refine Keeps.bind (solo_getInstance h) ?_ fun _ _ he => nomatch he.1
  rintro found s₁ ⟨hfound, h₁⟩
  cases hfound
  dsimp only
  split
  · refine keeps_bind.2 ((solo_fair a i).checkpoint ?_)
    refine Keeps.bind (solo_mark h₁) ?_ fun _ _ he => nomatch he.1
    rintro _ s₂ ⟨-, i', h₂, hmarked⟩
    exact (solo_getInstance h₂).mono fun _ _ h₃ => ⟨i', h₃.1, h₃.2, hmarked⟩
  · next hstage =>
    have hstages := Instance.stage_of_not_isDeleting h.declares.alive
    exact ⟨i, rfl, h₁, Instance.isMarked_of_alive (hstages.resolve_left hstage)⟩

theorem solo_converge (cfg : Config) (h : Standing a i s) (hmarked : i.isMarked = true) :
    (converge cfg a.key.ns i).Keeps solo s fun result s' =>
      result = .ok (.requeue cfg.intervals.steady) ∧
        ∃ i', Standing a i' s' ∧ i'.isMarked = true := by
  have huid : i.metadata.uid.isSome = true := by
    rw [h.declares.uid]
    rfl
  refine (solo_fair a i).converge cfg huid h fun desired s₁ h₁ => ?_
  refine Keeps.bind (solo_recordStatus h₁ desired) ?_ fun _ _ he => nomatch he.1
  rintro _ s₂ ⟨-, ⟨i', h₂, hkept, -⟩, -⟩
  exact ⟨rfl, i', h₂, hkept.trans hmarked⟩

theorem solo_reconcile (cfg : Config) (h : Standing a i s) :
    (reconcile cfg a.key).Keeps solo s fun result s' =>
      result = .ok (.requeue cfg.intervals.steady) ∧
        ∃ i', Standing a i' s' ∧ i'.isMarked = true := by
  refine Keeps.opened (solo_opening h) ?_ ?_ ?_
  · rintro s' ⟨_, he, -⟩
    cases he
  · rintro found s' ⟨i', he, h', hmarked⟩
    cases he
    rw [advance, h'.declares.alive]
    exact solo_converge cfg h' hmarked
  · rintro e s' ⟨_, he, -⟩
    cases he

/-- All is there that a marked Instance wants. -/
structure Furnished (a : Aim) (i : Instance) (s : Store) : Prop extends Standing a i s where
  marked : i.isMarked = true
  complete : a.Complete s

/-- After a pass that nobody disturbs, everything is there. -/
theorem furnished_of_standing (cfg : Config) (hcfg : cfg.adapters = a.adapters)
    (h : Standing a i s) :
    (peace cfg a.key s).1 = .ok (.requeue cfg.intervals.steady) ∧
      ∃ i', Furnished a i' (peace cfg a.key s).2.1 := by
  obtain ⟨hresult, i', h', hmarked⟩ := (solo_reconcile cfg h).solo []
  have pursued : a.Pursued (a.completed s) s := ⟨h.filed, ⟨i, h.found, h.declares⟩, fun _ _ => rfl⟩
  have ended : (reconcile cfg a.key).Keeps (pursuit True a) s fun _ s' =>
      Ended True a (a.completed s) s' := ended_reconcile pursued hcfg
  have complete := (ended.peaceful Store.Faultless h.faultless
    (fun _ r hs _ => answers_faultless hs r) (fun _ _ => rfl) []).complete trivial
  exact ⟨hresult, i', h', hmarked, complete⟩

/-! ## The passes after it -/

/-- How the workload for a declaration is doing. -/
def link (a : Aim) (s : Store) (d : Channel.Declaration) : Channel.Link :=
  ((s.find? .deployment (a.workloadKey d)).map linkOf).getD .pending

/-- The status that a pass finds. -/
def observed (a : Aim) (s : Store) : Instance.Status where
  phase := .running
  channels := a.spec.channels.map fun d => ⟨d.channel, link a s d⟩
  activeRuns :=
    .ofNat ((s.select .run a.key.ns (instanceSelector a.key.name)).countP Run.isRunning)

theorem observed_congr (hchildren : ∀ (c : Child) (k : Key), s'.find? c.kind k = s.find? c.kind k)
    (hruns : s'.runs = s.runs) : observed a s' = observed a s := by
  have hlink (d : Channel.Declaration) : link a s' d = link a s d :=
    congrArg (fun found : Option Deployment => (found.map linkOf).getD .pending)
      (hchildren .deployment (a.workloadKey d))
  have hselect : s'.select .run a.key.ns (instanceSelector a.key.name) =
      s.select .run a.key.ns (instanceSelector a.key.name) := by
    rw [Store.select, Store.select, show s'.table .run = s.table .run from hruns]
  simp only [observed, hlink, hselect]

theorem complete_congr (h : a.Complete s)
    (hchildren : ∀ (c : Child) (k : Key), s'.find? c.kind k = s.find? c.kind k) : a.Complete s' :=
  h.mono fun c k _ ho => (hchildren c k).trans ho

/-- A part that succeeds and leaves everything as it was goes over into the next one. -/
theorem run_bind_of_idle {w : Surroundings σ} {f : α → Pass ε β} {x : α} {t : σ}
    (h : p.run w t = (.ok x, t)) : (p.bind f).run w t = (f x).run w t := by
  rw [run_bind, h]

theorem peaceful_read {x : r.Reply} (hs : s.Faultless) (h : s.answer r = (.ok x, s)) :
    (ask r).run peaceful (s, es) = (.ok x, s, es) := by
  have hserve : peaceful.serve r (s, es) = (.ok x, s, es) := by
    show ((s.serve r).1, (s.serve r).2, es) = _
    rw [Store.serve_of_no_faults hs, h]
  rw [ask, run, hserve]
  rfl

theorem peaceful_askStore {x : r.Reply} (hs : s.Faultless) (h : s.answer r = (.ok x, s)) :
    (askStore r).run peaceful (s, es) = (.ok x, s, es) := by
  rw [askStore, run_mapError, peaceful_read hs h]
  rfl

/-- A child that is there need not be created. -/
theorem peaceful_ensure (hs : s.Faultless) {c : Child} {k : Key} {o x : c.Object}
    (hx : s.find? c.kind k = some x) {present : c.Object → α} {created : Pass Store.Error α}
    {raced : α} : (ensure c k o present created raced).run peaceful (s, es) =
      (.ok (present x), s, es) := by
  have hread : s.answer (.get c k) = (.ok (some x), s) :=
    congrArg (fun found => (Except.ok found, s)) hx
  exact run_bind_of_idle (peaceful_read hs hread)

variable {d : Channel.Declaration} {adapters : Config.Adapters}

theorem peaceful_serveChannel (hs : s.Faultless) (hd : a.Served s d) :
    (serveChannel adapters i a.owner d).run peaceful (s, es) = (.ok (link a s d), s, es) := by
  obtain ⟨workload, hworkload⟩ := Option.isSome_iff_exists.1 hd.workload
  have hlink : link a s d = linkOf workload := by
    rw [link, hworkload]
    rfl
  have hprovided : (provideWorkload adapters i a.owner d).run peaceful (s, es) =
      (.ok (link a s d), s, es) := by
    rw [provideWorkload_eq, hlink]
    exact peaceful_ensure (c := .deployment) hs hworkload
  unfold serveChannel
  split
  · next hkeeps =>
    obtain ⟨session, hsession⟩ := Option.isSome_iff_exists.1 (hd.session hkeeps)
    refine (run_bind_of_idle (x := ()) ?_).trans hprovided
    rw [provideSession_eq]
    exact peaceful_ensure (c := .volumeClaim) hs hsession
  · exact hprovided

theorem peaceful_serveEach (hs : s.Faultless) {ds : List Channel.Declaration}
    (hds : ∀ d ∈ ds, a.Served s d) :
    (serveEach adapters i a.owner ds).run peaceful (s, es) =
      (.ok (ds.map fun d => ⟨d.channel, link a s d⟩), s, es) := by
  induction ds with
  | nil => rfl
  | cons d ds ih =>
    have hchannel : ((serveChannel adapters i a.owner d).mapError
        (Pass.Error.channel d.channel)).run peaceful (s, es) = (.ok (link a s d), s, es) := by
      rw [run_mapError, peaceful_serveChannel hs (hds d List.mem_cons_self)]
      rfl
    refine (run_bind_of_idle (p := checkpoint) rfl).trans ((run_bind_of_idle hchannel).trans ?_)
    exact run_bind_of_idle (ih fun d' hd' => hds d' (List.mem_cons_of_mem _ hd'))

theorem peaceful_provideMemory (hs : s.Faultless)
    (h : i.wantsMemory = true → (s.find? .configMap a.memoryKey).isSome = true) :
    (provideMemory (ε := ε) i a.owner).run peaceful (s, es) = (.ok (), s, es) := by
  unfold provideMemory
  split
  · next hwants =>
    obtain ⟨memory, hmemory⟩ := Option.isSome_iff_exists.1 (h hwants)
    have hcreated : (createMemory a.owner).run peaceful (s, es) = (.ok false, s, es) := by
      rw [createMemory_eq]
      exact peaceful_ensure (c := .configMap) hs hmemory
    have hattempt : ((createMemory a.owner).attempt (δ := ε)).run peaceful (s, es) =
        (.ok (.ok false), s, es) := by
      rw [run_attempt, hcreated]
    exact run_bind_of_idle hattempt
  · rfl

theorem peaceful_countRuns (hs : s.Faultless) (ns owner : String) :
    ((countRuns ns owner).mapError Pass.Error.store).run peaceful (s, es) =
      (.ok (.ofNat ((s.select .run ns (instanceSelector owner)).countP Run.isRunning)), s, es) := by
  have hcount : (countRuns ns owner).run peaceful (s, es) = _ :=
    run_bind_of_idle (peaceful_read (r := .listRuns ns (instanceSelector owner)) hs rfl)
  rw [run_mapError, hcount]
  rfl

theorem peaceful_opening (h : Furnished a i s) :
    (opening a.key).run peaceful (s, es) = (.ok (some i), s, es) := by
  have hread : s.answer (.getInstance a.key) = (.ok (some i), s) :=
    congrArg (fun found => (Except.ok found, s)) h.found
  have hstage : i.stage ≠ .unmarked := fun hstage =>
    Bool.false_ne_true ((Instance.not_isMarked_of_unmarked hstage).symm.trans h.marked)
  refine (run_bind_of_idle (peaceful_askStore h.faultless hread)).trans ?_
  dsimp only
  rw [if_neg hstage]
  rfl

/-- What is left to do of a pass that has found everything there. -/
def recordAndRest (cfg : Config) (a : Aim) (i : Instance) (s : Store) : Pass Pass.Error Action :=
  (recordStatus a.key.ns i (observed a s)).bind fun _ => .done (.requeue cfg.intervals.steady)

/-- A pass that finds everything there has only the status to record. -/
theorem peaceful_converge (cfg : Config) (h : Furnished a i s) :
    (converge cfg a.key.ns i).run peaceful (s, es) =
      (recordAndRest cfg a i s).run peaceful (s, es) := by
  have declares := h.declares
  have howner : (⟨i.name, a.key.ns, a.uid⟩ : Owner) = a.owner := by
    rw [declares.name]
    rfl
  have hserved : ((serveChannels cfg.adapters i a.owner).attempt (δ := Pass.Error)).run peaceful
      (s, es) = (.ok (.ok (observed a s).channels), s, es) := by
    rw [run_attempt, serveChannels, declares.spec,
      peaceful_serveEach h.faultless fun d hd => Aim.served_of_complete h.complete hd]
    rfl
  have hmemory : (provideMemory (ε := Pass.Error) i a.owner).run peaceful (s, es) =
      (.ok (), s, es) := by
    refine peaceful_provideMemory h.faultless fun hwants => ?_
    refine h.complete .configMap a.memoryKey _ (Aim.wanted_memory ?_)
    rw [Aim.wantsMemory, Instance.wantsMemory, ← declares.spec]
    exact hwants
  unfold converge
  rw [declares.uid]
  dsimp only
  rw [howner, declares.name]
  refine (run_bind_of_idle hserved).trans ?_
  refine (run_bind_of_idle (p := checkpoint) rfl).trans ?_
  refine (run_bind_of_idle hmemory).trans ?_
  refine (run_bind_of_idle (peaceful_countRuns h.faultless a.key.ns a.key.name)).trans ?_
  exact run_bind_of_idle (p := checkpoint) rfl

theorem peace_of_furnished (cfg : Config) (h : Furnished a i s) :
    peace cfg a.key s = (recordAndRest cfg a i s).run peaceful (s, []) := by
  rw [peace, reconcile_eq, run_bind_of_idle (peaceful_opening h)]
  show (advance cfg a.key.ns i).run peaceful (s, []) = _
  rw [advance, h.declares.alive]
  exact peaceful_converge cfg h

/-- Nothing is left to do: everything is there, and so is the status that a pass finds. -/
def Settled (a : Aim) (s : Store) : Prop :=
  ∃ i, Furnished a i s ∧ i.status = some (observed a s)

/-- The second pass records what it finds. -/
theorem settled_of_furnished (cfg : Config) (h : Furnished a i s) :
    (peace cfg a.key s).1 = .ok (.requeue cfg.intervals.steady) ∧
      Settled a (peace cfg a.key s).2.1 := by
  have recorded : (recordAndRest cfg a i s).Keeps solo s fun result s' =>
      result = .ok (.requeue cfg.intervals.steady) ∧ Settled a s' := by
    refine Keeps.bind (solo_recordStatus h.toStanding _) ?_ fun _ _ he => nomatch he.1
    rintro _ s' ⟨-, ⟨i', h', hmarked, hstatus⟩, hchildren, hruns⟩
    refine ⟨rfl, i', ⟨h', hmarked.trans h.marked, complete_congr h.complete hchildren⟩, ?_⟩
    rw [hstatus, observed_congr hchildren hruns]
  have hrun := recorded.solo []
  rwa [← peace_of_furnished cfg h] at hrun

/-- A pass that finds what is recorded already does nothing. -/
theorem Settled.idle (cfg : Config) (h : Settled a s) :
    peace cfg a.key s = (.ok (.requeue cfg.intervals.steady), s, []) := by
  obtain ⟨i, furnished, hstatus⟩ := h
  rw [peace_of_furnished cfg furnished, recordAndRest, recordStatus, hstatus,
    Instance.Status.diff_self]
  rfl

/-- What is settled after some passes is settled after all later ones, which change nothing. -/
theorem Settled.afterPeace {cfg : Config} {n : Nat} (h : Settled a (afterPeace cfg a.key s n))
    (m : Nat) : Settled a (Pass.afterPeace cfg a.key s (n + m)) := by
  induction m with
  | zero => exact h
  | succ m ih =>
    rw [Nat.add_succ, afterPeace_succ, ih.idle]
    exact ih

/-- What comes of the first pass, of the second one, and of each pass after them. -/
theorem peace_afterPeace (cfg : Config) (hcfg : cfg.adapters = a.adapters) (h : Standing a i s)
    (n : Nat) :
    (peace cfg a.key (afterPeace cfg a.key s n)).1 = .ok (.requeue cfg.intervals.steady) ∧
      (2 ≤ n →
        (peace cfg a.key (afterPeace cfg a.key s n)).2 = (afterPeace cfg a.key s n, [])) := by
  obtain ⟨hfirst, i', furnished⟩ := furnished_of_standing cfg hcfg h
  obtain ⟨hsecond, settled⟩ := settled_of_furnished cfg furnished
  match n with
  | 0 => exact ⟨hfirst, nofun⟩
  | 1 => exact ⟨hsecond, fun hn => absurd hn (by decide)⟩
  | m + 2 =>
    have later : Settled a (afterPeace cfg a.key s (2 + m)) := Settled.afterPeace settled m
    rw [Nat.add_comm m 2, later.idle]
    exact ⟨rfl, fun _ => rfl⟩

/-- A pass over an Instance that is not being deleted, in a store without faults, always succeeds
if nobody disturbs it.  From the third one on it leaves the store as it is, with all versions and
the journal, and it publishes nothing. -/
theorem settles (cfg : Config) (key : Key) (operations : List Operation) {i : Instance}
    (hfaultless : (Store.empty.run operations).Faultless)
    (hi : (Store.empty.run operations).find? .inst key = some i) (halive : i.isDeleting = false)
    (n : Nat) :
    let s := afterPeace cfg key (Store.empty.run operations) n
    (peace cfg key s).1 = .ok (.requeue cfg.intervals.steady) ∧
      (2 ≤ n → (peace cfg key s).2 = (s, [])) := by
  have filed := Store.filed_empty.run operations
  have hfiled := filed .inst key i hi
  obtain ⟨uid, huid⟩ := Option.isSome_iff_exists.1 hfiled.uid
  have standing : Standing ⟨key, uid, i.spec, cfg.adapters⟩ i (Store.empty.run operations) :=
    ⟨filed, hfaultless, hi, ⟨hfiled.name, huid, rfl, halive⟩⟩
  exact peace_afterPeace cfg rfl standing n

/-- A run in which an Instance is filed that declares a channel twice, wants a memory store, and has
reported an error, and one of its Runs is going on. -/
def unsettled : List Operation :=
  [.insertInstance {
      metadata := { name := some "bot", ns := some "tenant", finalizers := some ["other"] }
      spec := {
        channels := [{ channel := .whatsapp }, { channel := .telegram }, { channel := .whatsapp }]
        memory := some { enabled := true } }
      status := some { phase := .error } },
    .insertRun "tenant" {
      metadata := { name := some "first", labels := some (.ofList [(instanceKey, "bot")]) }
      spec := { owner := "bot" }
      status := some { phase := some .running } }]

theorem settles_after_two_passes :
    let key : Key := ⟨"tenant", "bot"⟩
    let s := Store.empty.run unsettled
    s.Faultless ∧ (∃ i, s.find? .inst key = some i ∧ i.isDeleting = false) ∧
      (peace {} key s).2.1 ≠ s ∧
      (peace {} key (afterPeace {} key s 1)).2.1 ≠ afterPeace {} key s 1 ∧
      (peace {} key (afterPeace {} key s 2)).1 = .ok (.requeue 60) ∧
      (peace {} key (afterPeace {} key s 2)).2 = (afterPeace {} key s 2, []) := by
  intro key s
  have faultless : s.Faultless := by decide +kernel
  have alive : ∃ i ∈ s.find? .inst key, i.isDeleting = false := by decide +kernel
  have first : (peace {} key s).2.1 ≠ s := by decide +kernel
  have second : (peace {} key (afterPeace {} key s 1)).2.1 ≠ afterPeace {} key s 1 := by
    decide +kernel
  obtain ⟨i, hi, halive⟩ := alive
  obtain ⟨hresult, hidle⟩ := settles {} key unsettled faultless hi halive 2
  exact ⟨faultless, ⟨i, hi, halive⟩, first, second, hresult, hidle (Nat.le_refl 2)⟩

end Pass

end WorkloadOperator
