import WorkloadOperator.Pass.Reconcile
import WorkloadOperator.Proofs.Providing

/-!
# What a pass may ask

A part of a pass asks some requests and no others, whatever it is answered.  The requests
of each part are told here once, and `Asks` says that they are all.  What a part may ask is
often all that matters of it: `Asks.keeps` brings it to any contract that grants these
requests.
-/

namespace WorkloadOperator

open Naming

/-! ## Requests -/

/-- The children that an Instance declares, for the owner that it is to them. -/
inductive Instance.Wants (i : Instance) (adapters : Config.Adapters) (o : Owner) :
    (c : Child) → c.Object → Prop where
  | session (d : Channel.Declaration) (hd : d ∈ i.spec.channels)
      (hkeeps : d.channel.keepsSession = true) :
      Wants i adapters o .volumeClaim (o.sessionStore d adapters)
  | workload (d : Channel.Declaration) (hd : d ∈ i.spec.channels) :
      Wants i adapters o .deployment (o.workload d adapters)
  | memory (hwants : i.wantsMemory = true) : Wants i adapters o .configMap o.memoryStore

namespace Request

/-- What is asked to provide children of an Instance. -/
inductive Provides (adapters : Config.Adapters) (i : Instance) (o : Owner) : Request → Prop where
  | get (c : Child) (k : Key) : Provides adapters i o (.get c k)
  | create (c : Child) (object : c.Object) (hwants : i.Wants adapters o c object) :
      Provides adapters i o (.create c o.ns object)

/-- What is asked to serve the channels of an Instance: not the memory store. -/
def Equips (adapters : Config.Adapters) (i : Instance) (o : Owner) (r : Request) : Prop :=
  r.Provides adapters i o ∧ r.kind ≠ .configMap

/-- What is asked to provide the memory store of an Instance, and nothing else. -/
def Recalls (adapters : Config.Adapters) (i : Instance) (o : Owner) (r : Request) : Prop :=
  r.Provides adapters i o ∧ r.kind = .configMap

/-- What is asked to bring an Instance to what it declares. -/
inductive Converges (adapters : Config.Adapters) (ns : String) (i : Instance) : Request → Prop where
  | provides (uid : String) (huid : i.metadata.uid = some uid) (r : Request)
      (hr : r.Provides adapters i ⟨i.name, ns, uid⟩) : Converges adapters ns i r
  | listRuns : Converges adapters ns i (.listRuns ns (instanceSelector i.name))
  | patchStatus (patch : Json) :
      Converges adapters ns i (.patchStatus ⟨ns, i.name⟩ i.metadata.resourceVersion patch)

/-- What is asked to delete what holds data of an Instance. -/
inductive Empties (ns : String) : Request → Prop where
  | list (selector : String) : Empties ns (.list .volumeClaim ns selector)
  | session (k : Key) : Empties ns (.delete .volumeClaim k)
  | memory (k : Key) : Empties ns (.delete .configMap k)

/-- What is asked to tear an Instance down. -/
inductive TearsDown (ns : String) (i : Instance) : Request → Prop where
  | list (c : Child) (selector : String) : TearsDown ns i (.list c ns selector)
  | delete (c : Child) (k : Key) : TearsDown ns i (.delete c k)
  | unmark (hmarked : i.isMarked = true) :
      TearsDown ns i (.patchFinalizers ⟨ns, i.name⟩ i.metadata.resourceVersion
        (i.metadata.finalizerList.filter (· ≠ Instance.marker)))

/-- What is asked for an Instance that was read. -/
inductive Advances (adapters : Config.Adapters) (ns : String) (i : Instance) : Request → Prop where
  | converge (halive : i.isDeleting = false) (r : Request) (hr : r.Converges adapters ns i) :
      Advances adapters ns i r
  | teardown (hdeleting : i.isDeleting = true) (r : Request) (hr : r.TearsDown ns i) :
      Advances adapters ns i r

/-- Whether a request deletes a workload or replaces finalizers. -/
def Weighty : Request → Prop
  | .delete .deployment _ | .patchFinalizers _ _ _ => True
  | .delete .volumeClaim _ | .delete .configMap _ | .getInstance _ | .get _ _ | .create _ _ _
  | .list _ _ _ | .listRuns _ _ | .patchStatus _ _ _ => False

variable {adapters : Config.Adapters} {ns : String} {i : Instance} {r : Request}

theorem Converges.not_weighty (h : r.Converges adapters ns i) : ¬ r.Weighty := by
  cases h with
  | provides uid huid r hr => cases hr <;> exact id
  | listRuns => exact id
  | patchStatus patch => exact id

theorem Empties.not_weighty (h : r.Empties ns) : ¬ r.Weighty := by
  cases h <;> exact id

theorem Empties.tearsDown (h : r.Empties ns) : r.TearsDown ns i := by
  cases h with
  | list selector => exact .list _ selector
  | session k => exact .delete _ k
  | memory k => exact .delete _ k

end Request

namespace Pass

open Request

variable {ε δ α β σ : Type} {Q Q' : Request → Prop}

/-- The contract of a part that asks nothing else. -/
def asking (Q : Request → Prop) : Contract Unit where
  grants _ := Q
  answers _ _ _ _ := True
  shows _ _ := True

/-- Whatever a part of a pass is answered, it asks nothing else. -/
abbrev Asks (Q : Request → Prop) (p : Pass ε α) : Prop := p.Stays (asking Q) ()

/-- Whatever a part of a pass is answered, it asks nothing else, and it comes out so. -/
abbrev Confined (Q : Request → Prop) (P : Except ε α → Prop) (p : Pass ε α) : Prop :=
  p.Keeps (asking Q) () fun result _ => P result

/-- A part keeps to a contract that grants what it asks, and it keeps what these requests
keep. -/
theorem Confined.keeps {c : Contract σ} {p : Pass ε α} {P : Except ε α → Prop} {inv : σ → Prop}
    {s : σ} (h : Confined Q P p) (hs : inv s)
    (hQ : ∀ s r, inv s → Q r → c.grants s r ∧ ∀ answer s', c.answers s r answer s' → inv s') :
    p.Keeps c s fun result s' => P result ∧ inv s' := by
  induction p generalizing s with
  | done a => exact ⟨h, hs⟩
  | fail e => exact ⟨h, hs⟩
  | request r next ih =>
    obtain ⟨hr, hnext⟩ := h
    obtain ⟨hgrants, hanswers⟩ := hQ s r hs hr
    exact ⟨hgrants, fun answer s' ha => ih answer (hnext answer () trivial) (hanswers answer s' ha)⟩
  | poll next ih => exact fun cancelled _ => ih cancelled (h cancelled trivial) hs
  | publish e next ih => exact ih h hs

theorem Asks.keeps {c : Contract σ} {p : Pass ε α} {inv : σ → Prop} {s : σ} (h : Asks Q p)
    (hs : inv s)
    (hQ : ∀ s r, inv s → Q r → c.grants s r ∧ ∀ answer s', c.answers s r answer s' → inv s') :
    p.Keeps c s fun _ s' => inv s' :=
  (Confined.keeps (P := fun _ => True) (h.mono fun _ _ _ => trivial) hs hQ).mono fun _ _ h => h.2

/-- A part teaches nothing if none of its requests does. -/
theorem Asks.stays {c : Contract σ} {p : Pass ε α} {s : σ} (h : Asks Q p)
    (hQ : ∀ r, Q r → c.Idle s r) : p.Stays c s := by
  refine h.keeps rfl ?_
  rintro _ r rfl hr
  exact hQ r hr

theorem Asks.imp {p : Pass ε α} (h : Asks Q p) (hQ : ∀ r, Q r → Q' r) : Asks Q' p :=
  h.stays fun r hr => ⟨hQ r hr, fun _ _ _ => rfl⟩

theorem asks_ask {r : Request} (h : Q r) : Asks Q (ask r) := stays_ask ⟨h, fun _ _ _ => rfl⟩

theorem asks_askStore {r : Request} (h : Q r) : Asks Q (askStore r) :=
  stays_askStore ⟨h, fun _ _ _ => rfl⟩

theorem asks_discard {c : Child} {k : Key} (h : Q (.delete c k)) : Asks Q (discard c k) :=
  stays_discard ⟨h, fun _ _ _ => rfl⟩

theorem asks_ensure {c : Child} {k : Key} {object : c.Object} {present : c.Object → α}
    {created : Pass Store.Error α} {raced : α} (hquiet : Quiet created) (hget : Q (.get c k))
    (hcreate : Q (.create c k.ns object)) :
    Asks Q (ensure c k object present created raced) :=
  keeps_ensure hquiet hget (fun _ _ _ => rfl) (fun _ _ _ => rfl) fun _ _ =>
    ⟨hcreate, fun _ _ _ _ => rfl, fun _ _ _ => rfl, fun _ _ _ _ => rfl⟩

/-! ## Converging -/

variable {adapters : Config.Adapters} {ns : String} {i : Instance} {o : Owner}

theorem verb_of_provides {r : Request} (h : r.Provides adapters i o) : r.verb ≠ .patch := by
  cases h <;> exact nofun

theorem asks_provideSession {d : Channel.Declaration} (hd : d ∈ i.spec.channels)
    (hkeeps : d.channel.keepsSession = true) :
    Asks (Equips adapters i o) (provideSession adapters i o d) := by
  rw [provideSession_eq]
  exact asks_ensure (quiet_publish _ _) ⟨.get _ _, nofun⟩
    ⟨.create _ _ (.session d hd hkeeps), nofun⟩

theorem asks_provideWorkload {d : Channel.Declaration} (hd : d ∈ i.spec.channels) :
    Asks (Equips adapters i o) (provideWorkload adapters i o d) := by
  rw [provideWorkload_eq]
  exact asks_ensure (quiet_publish _ _) ⟨.get _ _, nofun⟩ ⟨.create _ _ (.workload d hd), nofun⟩

theorem asks_serveChannel {d : Channel.Declaration} (hd : d ∈ i.spec.channels) :
    Asks (Equips adapters i o) (serveChannel adapters i o d) := by
  unfold serveChannel
  split
  · next hkeeps => exact (asks_provideSession hd hkeeps).bind fun _ => asks_provideWorkload hd
  · exact asks_provideWorkload hd

/-- Channels are served one after the other, until one of them fails or the pass is seen to be
cancelled. -/
theorem confined_serveEach {ds : List Channel.Declaration} (hds : ds ⊆ i.spec.channels) :
    Confined (Equips adapters i o)
      (fun result => ∀ e, result = .error e → e = .cancelled ∨ ∃ c cause, e = .channel c cause)
      (serveEach adapters i o ds) := by
  induction ds with
  | nil => exact fun _ he => nomatch he
  | cons d ds ih =>
    obtain ⟨hd, hds⟩ := List.cons_subset.1 hds
    refine keeps_bind.2 (keeps_checkpoint.2 ⟨fun _ _ he => .inl (Except.error.inj he).symm, ?_⟩)
    refine fun _ => keeps_bind.2 (keeps_mapError.2 ((asks_serveChannel hd).mono ?_))
    rintro result - -
    cases result with
    | ok link => exact Keeps.bind (ih hds) (fun _ _ _ _ he => nomatch he) fun _ _ he => he
    | error cause => exact fun _ he => .inr ⟨d.channel, cause, (Except.error.inj he).symm⟩

theorem asks_serveChannels : Asks (Equips adapters i o) (serveChannels adapters i o) :=
  (confined_serveEach (List.Subset.refl _)).mono fun _ _ _ => rfl

/-- A memory store that cannot be provided does not matter. -/
theorem confined_provideMemory :
    Confined (Recalls adapters i o) (· = .ok ()) (provideMemory (ε := ε) i o) := by
  unfold provideMemory
  split
  · next hwants =>
    have created : Asks (Recalls adapters i o) (createMemory o) := by
      rw [createMemory_eq]
      exact asks_ensure (quiet_done _) ⟨.get _ _, rfl⟩ ⟨.create _ _ (.memory hwants), rfl⟩
    refine Keeps.attempt_bind created ?_
    rintro (e | _ | _) _ _ <;> rfl
  · rfl

theorem asks_provideMemory : Asks (Recalls adapters i o) (provideMemory (ε := ε) i o) :=
  confined_provideMemory.mono fun _ _ _ => rfl

theorem asks_countRuns (ns owner : String) :
    Asks (· = .listRuns ns (instanceSelector owner)) (countRuns ns owner) :=
  Stays.bind (asks_ask rfl) fun _ => rfl

theorem asks_recordStatus (desired : Instance.Status) :
    Asks (Converges adapters ns i) (recordStatus ns i desired) := by
  unfold recordStatus
  split
  · exact asks_askStore (.patchStatus _)
  · rfl

/-- A failure that cannot be recorded does not matter. -/
theorem confined_recordFailure (cause : Pass.Error) :
    Confined (∃ patch, · = .patchStatus ⟨ns, i.name⟩ i.metadata.resourceVersion patch)
      (· = .ok ()) (recordFailure (ε := ε) ns i cause) := by
  simp only [recordFailure]
  split
  · rfl
  · exact Keeps.attempt_bind (asks_ask ⟨_, rfl⟩) fun _ _ _ => rfl

theorem asks_recordFailure (cause : Pass.Error) :
    Asks (∃ patch, · = .patchStatus ⟨ns, i.name⟩ i.metadata.resourceVersion patch)
      (recordFailure (ε := ε) ns i cause) :=
  (confined_recordFailure cause).mono fun _ _ _ => rfl

theorem asks_converge (cfg : Config) :
    Asks (Converges cfg.adapters ns i) (converge cfg ns i) := by
  unfold converge
  split
  · rfl
  · next uid huid =>
    have provides (r : Request) (hr : r.Provides cfg.adapters i ⟨i.name, ns, uid⟩) :
        r.Converges cfg.adapters ns i := .provides uid huid r hr
    have failed (e : Pass.Error) : Asks (Converges cfg.adapters ns i)
        ((recordFailure ns i e).bind fun _ => (.fail e : Pass Pass.Error Action)) := by
      refine Stays.bind ((asks_recordFailure e).imp ?_) fun _ => rfl
      rintro _ ⟨patch, rfl⟩
      exact .patchStatus patch
    refine Stays.bind (asks_serveChannels.imp fun r hr => provides r hr.1).attempt ?_
    rintro (e | channels)
    · cases e with
      | cancelled => rfl
      | store cause => exact failed _
      | channel c cause => exact failed _
      | invariant what => exact failed _
    · refine Stays.bind stays_checkpoint fun _ => ?_
      refine Stays.bind (asks_provideMemory.imp fun r hr => provides r hr.1) fun _ => ?_
      refine Stays.bind (((asks_countRuns ns i.name).imp ?_).mapError _) fun activeRuns => ?_
      · rintro _ rfl
        exact .listRuns
      refine Stays.bind stays_checkpoint fun _ => ?_
      exact Stays.bind (asks_recordStatus _) fun _ => rfl

/-! ## Tearing down -/

theorem asks_deleteWorkloads (ns : String) (ds : List Deployment) :
    Asks (∃ k, · = .delete .deployment k) (deleteWorkloads ns ds) := by
  induction ds with
  | nil => rfl
  | cons d ds ih =>
    refine Stays.bind stays_checkpoint fun _ => ?_
    exact Stays.bind ((asks_discard ⟨_, rfl⟩).mapError _) fun _ => ih

/-- Session stores that cannot be deleted do not matter. -/
theorem confined_deleteSessions (ns : String) (cs : List VolumeClaim) :
    Confined (Empties ns) (· = .ok ()) (deleteSessions (ε := ε) ns cs) := by
  induction cs with
  | nil => rfl
  | cons c cs ih => exact Keeps.attempt_bind (asks_discard (.session _)) fun _ _ _ => ih

/-- Data that cannot be deleted does not matter. -/
theorem confined_deleteStores (ns name selector : String) :
    Confined (Empties ns) (· = .ok ()) (deleteStores (ε := ε) ns name selector) := by
  have memory : Confined (Empties ns) (· = .ok ())
      (((discard .configMap ⟨ns, memoryStore name⟩).attempt).bind
        fun _ => (.done () : Pass ε Unit)) :=
    Keeps.attempt_bind (asks_discard (.memory _)) fun _ _ _ => rfl
  refine Keeps.attempt_bind (asks_ask (.list selector)) ?_
  rintro (e | claims) _ _
  · exact memory
  · exact Keeps.bind (confined_deleteSessions ns claims) (fun _ _ _ => memory)
      fun _ _ he => nomatch he

theorem asks_deleteStores (ns name selector : String) :
    Asks (Empties ns) (deleteStores (ε := ε) ns name selector) :=
  (confined_deleteStores ns name selector).mono fun _ _ _ => rfl

theorem asks_teardown (intervals : Config.Intervals) :
    Asks (TearsDown ns i) (teardown intervals ns i) := by
  have unmarks (hmarked : i.isMarked = true) : Asks (TearsDown ns i) (unmark ns i) := by
    refine ⟨.unmark hmarked, fun answer _ _ => ?_⟩
    dsimp only
    split <;> rfl
  refine Stays.bind (asks_askStore (.list _ _)) fun workloads => ?_
  refine Stays.bind ((asks_deleteWorkloads ns workloads).imp ?_) fun _ => ?_
  · rintro _ ⟨k, rfl⟩
    exact .delete _ k
  refine Stays.bind (asks_askStore (.list _ _)) fun remaining => ?_
  split
  · rfl
  refine Stays.bind ((asks_deleteStores _ _ _).imp fun _ hr => hr.tearsDown) fun _ => ?_
  split
  · rfl
  · next hmarked =>
    refine Stays.bind stays_checkpoint fun _ => Stays.bind (stays_tell _) fun _ => ?_
    exact Stays.bind (unmarks (by simpa using hmarked)) fun _ => rfl

end Pass

end WorkloadOperator
