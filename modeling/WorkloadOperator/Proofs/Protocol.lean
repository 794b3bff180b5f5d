import WorkloadOperator.Pass.Reconcile
import WorkloadOperator.Proofs.Ownership
import WorkloadOperator.Proofs.Providing

/-!
# The protocol of a pass

What a pass asks next depends on what it was answered before, and on nothing else.  Its
lore is what it keeps of the answers: how it has found the Instance, which children it
knows to be there, what it has listed, and what has failed.

The protocol says which requests go with which lore.  It makes no assumption on the
answers, so that every pass follows it in every world (`follows_reconcile`), and it says
what the lore is like when a pass ends.  What the answers are worth in a world is the
matter of those who use it.
-/

namespace WorkloadOperator

open Naming

namespace Pass

/-! ## What a pass learns -/

/-- How a pass has found the Instance. -/
inductive Sight where
  | unseen
  | absent
  | seen (i : Instance)

/-- What a pass has learned. -/
structure Lore where
  sight : Sight := .unseen
  /-- Whether the marker was put on the Instance. -/
  marked : Bool := false
  /-- The children that were there, or were created. -/
  there : List (Child × Key) := []
  /-- The child that was missed when it was read last. -/
  missing : Option (Child × Key) := none
  /-- What was listed last. -/
  listed : List (Child × Key) := []
  /-- Whether no workload was listed last. -/
  cleared : Bool := false
  /-- The errors of all requests but patches, unless they did not matter. -/
  slips : List Store.Error := []
  /-- The answer to a patch after which the Instance is not read again. -/
  patched : Option (Except Store.Error Unit) := none

namespace Lore

/-- The lore after the Instance was read. -/
def look (l : Lore) (sight : Sight) : Lore :=
  { sight, marked := l.marked, slips := l.slips, patched := l.patched }

/-- The lore after a child was found or created. -/
def meet (l : Lore) (c : Child) (k : Key) : Lore :=
  { l with there := (c, k) :: l.there, missing := none }

/-- The lore after an error. -/
def slip (l : Lore) (e : Store.Error) : Lore := { l with slips := e :: l.slips }

/-- The lore after an answer. -/
def learn (l : Lore) : (r : Request) → r.Answer → Lore
  | .getInstance _, .ok none => l.look .absent
  | .getInstance _, .ok (some i) => l.look (.seen i)
  | .get c k, .ok (some _) => l.meet c k
  | .get c k, .ok none => { l with missing := some (c, k) }
  | .create c ns o, .ok _ | .create c ns o, .error (.alreadyExists _) =>
    l.meet c ⟨ns, c.kind.nameOf o⟩
  | .list .deployment ns _, .ok ds =>
    { l with
      listed := ds.map fun d => (.deployment, ⟨ns, Kind.deployment.nameOf d⟩)
      cleared := ds.isEmpty }
  | .list c ns _, .ok os => { l with listed := os.map fun o => (c, ⟨ns, c.kind.nameOf o⟩) }
  | .delete _ _, .ok _ | .listRuns _ _, .ok _ => l
  | .patchFinalizers _ _ finalizers, .ok _ =>
    if Instance.marker ∈ finalizers then { marked := true, slips := l.slips }
    else { l with patched := some (.ok ()) }
  | .patchFinalizers _ _ _, .error e => { l with patched := some (.error e) }
  | .patchStatus _ _ _, answer => { l with patched := some answer }
  | .getInstance _, .error e | .get _ _, .error e | .create _ _ _, .error e | .list _ _ _, .error e
  | .delete _ _, .error e | .listRuns _ _, .error e => l.slip e

/-- The children of an Instance that a declaration asks for are there. -/
structure Serves (l : Lore) (owner : Key) (d : Channel.Declaration) : Prop where
  workload : (.deployment, ⟨owner.ns, workload owner.name d.channel⟩) ∈ l.there
  session : d.channel.keepsSession = true →
    (.volumeClaim, ⟨owner.ns, sessionStore owner.name d.channel⟩) ∈ l.there

end Lore

/-- An Instance that was read in a namespace is the owner of children. -/
structure Owns (o : Owner) (ns : String) (i : Instance) : Prop where
  name : o.name = i.name
  ns : o.ns = ns
  uid : i.metadata.uid = some o.uid

/-- It is the turn of a child: what goes before it is there. -/
inductive Due (adapters : Config.Adapters) (i : Instance) (o : Owner) (l : Lore) :
    (c : Child) → c.Object → Prop where
  | session {served later : List Channel.Declaration} (d : Channel.Declaration)
      (hchannels : i.spec.channels = served ++ d :: later)
      (hserved : ∀ d' ∈ served, l.Serves o.key d') (hkeeps : d.channel.keepsSession = true) :
      Due adapters i o l .volumeClaim (o.sessionStore d adapters)
  | workload {served later : List Channel.Declaration} (d : Channel.Declaration)
      (hchannels : i.spec.channels = served ++ d :: later)
      (hserved : ∀ d' ∈ served, l.Serves o.key d')
      (hsession : d.channel.keepsSession = true →
        (.volumeClaim, ⟨o.ns, sessionStore o.name d.channel⟩) ∈ l.there) :
      Due adapters i o l .deployment (o.workload d adapters)
  | memory (hserved : ∀ d ∈ i.spec.channels, l.Serves o.key d) (hwants : i.wantsMemory = true) :
      Due adapters i o l .configMap o.memoryStore

namespace Lore

/-- What may be asked for an Instance that was read in a namespace. -/
def Allows (adapters : Config.Adapters) (ns : String) (l : Lore) (i : Instance) : Request → Prop
  | .getInstance _ => False
  | .get c k => i.isDeleting = false ∧ c.Belongs ⟨ns, i.name⟩ k
  | .create c ns' object => i.isDeleting = false ∧ ns' = ns ∧
      l.missing = some (c, ⟨ns, c.kind.nameOf object⟩) ∧
      ∃ o, Owns o ns i ∧ Due adapters i o l c object
  | .list _ ns' selector =>
    i.isDeleting = true ∧ ns' = ns ∧ selector = componentSelector i.name channelComponent
  | .delete .deployment k => i.isDeleting = true ∧ (.deployment, k) ∈ l.listed
  | .delete .volumeClaim k =>
    i.isDeleting = true ∧ l.cleared = true ∧ (.volumeClaim, k) ∈ l.listed
  | .delete .configMap k => i.isDeleting = true ∧ l.cleared = true ∧ k = ⟨ns, memoryStore i.name⟩
  | .listRuns ns' selector =>
    i.isDeleting = false ∧ ns' = ns ∧ selector = instanceSelector i.name
  | .patchFinalizers k version finalizers =>
    k = ⟨ns, i.name⟩ ∧ version = i.metadata.resourceVersion ∧
      ((i.stage = .unmarked ∧ finalizers = i.metadata.finalizerList ++ [Instance.marker]) ∨
        (i.isDeleting = true ∧ l.cleared = true ∧
          finalizers = i.metadata.finalizerList.filter (· ≠ Instance.marker)))
  | .patchStatus k version patch =>
    k = ⟨ns, i.name⟩ ∧ version = i.metadata.resourceVersion ∧ i.isDeleting = false ∧
      ∃ after, Instance.Status.diff i.status after = some patch

/-- What may be asked in a pass for the Instance under a key: it is read first, and nothing
is asked after the last patch. -/
def Grants (adapters : Config.Adapters) (key : Key) (l : Lore) : Request → Prop
  | .getInstance k => l.patched = none ∧ l.sight = .unseen ∧ k = key
  | r => l.patched = none ∧ ∃ i, l.sight = .seen i ∧ l.Allows adapters key.ns i r

end Lore

/-- The protocol of a pass for the Instance under a key, which may be cancelled or not. -/
def protocol (adapters : Config.Adapters) (key : Key) (mayCancel : Prop) : Contract Lore where
  grants := Lore.Grants adapters key
  answers l r answer l' := l.learn r answer = l'
  shows _ cancelled := cancelled = true → mayCancel

/-! ## How a pass ends -/

/-- Why a pass may fail. -/
def Excused (mayCancel : Prop) (l : Lore) : Pass.Error → Prop
  | .store e => e ∈ l.slips ∨ l.patched = some (.error e)
  | .channel _ e => e ∈ l.slips
  | .cancelled => mayCancel
  | .invariant _ => ∃ i, l.sight = .seen i ∧ i.metadata.uid = none

/-- What a pass has brought about for an Instance that is not being deleted. -/
structure Accomplished (l : Lore) (ns : String) (i : Instance) : Prop where
  channels : ∀ d ∈ i.spec.channels, l.Serves ⟨ns, i.name⟩ d
  memory : i.wantsMemory = true → (.configMap, ⟨ns, memoryStore i.name⟩) ∈ l.there ∨ l.slips ≠ []
  marked : i.isMarked = true ∨ l.marked = true
  recorded : ∀ e, l.patched ≠ some (.error e)

/-- What the lore is like when a pass ends. -/
structure Ends (key : Key) (mayCancel : Prop) (result : Except Pass.Error Action) (l : Lore) :
    Prop where
  excused : ∀ e, result = .error e → Excused mayCancel l e
  accomplished : result.isOk = true → l.sight = .absent ∨
    ∃ i, l.sight = .seen i ∧ (i.isDeleting = true ∨ Accomplished l key.ns i)

/-! ## Parts of passes -/

/-- Nothing has happened but that children were found or created, or that a request has
failed. -/
structure Onward (l l' : Lore) : Prop where
  sight : l'.sight = l.sight
  marked : l'.marked = l.marked
  patched : l'.patched = l.patched
  there : ∀ x ∈ l.there, x ∈ l'.there

theorem Onward.refl (l : Lore) : Onward l l := ⟨rfl, rfl, rfl, fun _ h => h⟩

theorem Onward.trans {l l' l'' : Lore} (h : Onward l l') (h' : Onward l' l'') : Onward l l'' :=
  ⟨h'.sight.trans h.sight, h'.marked.trans h.marked, h'.patched.trans h.patched,
    fun x hx => h'.there x (h.there x hx)⟩

/-- What a part of a pass has come to: it has gone on and brought something about, or it
may be excused. -/
structure Fared {ε α : Type} (excuse : Lore → ε → Prop) (l : Lore) (now : Lore → Prop)
    (result : Except ε α) (l' : Lore) : Prop where
  onward : Onward l l'
  excused : ∀ e, result = .error e → excuse l' e
  now : result.isOk = true → now l'

variable {adapters : Config.Adapters} {key : Key} {mayCancel : Prop} {ε δ α β : Type}
  {excuse : Lore → ε → Prop} {l l' : Lore} {now later : Lore → Prop}

/-- A part of a pass fares well. -/
abbrev Fares (adapters : Config.Adapters) (key : Key) (mayCancel : Prop)
    (excuse : Lore → ε → Prop) (p : Pass ε α) (l : Lore) (now : Lore → Prop) : Prop :=
  p.Keeps (protocol adapters key mayCancel) l (Fared excuse l now)

theorem fared_ok (h : Onward l l') (hnow : now l') (a : α) :
    Fared excuse l now (.ok a) l' :=
  ⟨h, fun _ he => (nomatch he), fun _ => hnow⟩

theorem fared_error (h : Onward l l') {e : ε} (he : excuse l' e) :
    Fared (α := α) excuse l now (.error e) l' :=
  ⟨h, fun _ h' => by cases h'; exact he, fun h' => (nomatch h')⟩

theorem Fares.bind {p : Pass ε α} {f : α → Pass ε β}
    (h : Fares adapters key mayCancel excuse p l now)
    (hf : ∀ a l', Onward l l' → now l' → Fares adapters key mayCancel excuse (f a) l' later) :
    Fares adapters key mayCancel excuse (p.bind f) l later := by
  refine Keeps.bind h ?_ ?_
  · intro a l' hp
    refine (hf a l' hp.onward (hp.now rfl)).mono ?_
    intro result l'' hq
    exact ⟨hp.onward.trans hq.onward, hq.excused, hq.now⟩
  · intro e l' hp
    exact fared_error hp.onward (hp.excused e rfl)

theorem Fares.mapError {excuse' : Lore → δ → Prop} {p : Pass ε α}
    (h : Fares adapters key mayCancel excuse p l now) {g : ε → δ}
    (hg : ∀ l e, excuse l e → excuse' l (g e)) :
    Fares adapters key mayCancel excuse' (p.mapError g) l now := by
  refine keeps_mapError.2 (Keeps.mono h ?_)
  intro result l' hp
  cases result with
  | ok a => exact fared_ok hp.onward (hp.now rfl) a
  | error e => exact fared_error hp.onward (hg l' e (hp.excused e rfl))

/-- The request of a part has failed. -/
def Slipped (l : Lore) (e : Store.Error) : Prop := e ∈ l.slips

theorem onward_meet (l : Lore) (c : Child) (k : Key) : Onward l (l.meet c k) :=
  ⟨rfl, rfl, rfl, fun _ h => List.mem_cons_of_mem _ h⟩

theorem onward_slip (l : Lore) (e : Store.Error) : Onward l (l.slip e) :=
  ⟨rfl, rfl, rfl, fun _ h => h⟩

theorem slipped_slip (l : Lore) (e : Store.Error) : Slipped (l.slip e) e := List.mem_cons_self

theorem Lore.Serves.onward {owner : Key} {d : Channel.Declaration} (h : l.Serves owner d)
    (ho : Onward l l') : l'.Serves owner d :=
  ⟨ho.there _ h.workload, fun hkeeps => ho.there _ (h.session hkeeps)⟩

/-! ## Converging -/

/-- A pass is at work for an Instance that is not being deleted. -/
structure AtWork (key : Key) (i : Instance) (o : Owner) (l : Lore) : Prop where
  seen : l.sight = .seen i
  alive : i.isDeleting = false
  owns : Owns o key.ns i
  unpatched : l.patched = none

variable {i : Instance} {o : Owner} {d : Channel.Declaration}

theorem AtWork.onward (h : AtWork key i o l) (ho : Onward l l') : AtWork key i o l' :=
  ⟨ho.sight.trans h.seen, h.alive, h.owns, ho.patched.trans h.unpatched⟩

theorem AtWork.ownerKey (h : AtWork key i o l) : o.key = ⟨key.ns, i.name⟩ := by
  rw [Owner.key, h.owns.name, h.owns.ns]

/-- A child whose turn it is may be read and created. -/
theorem fares_ensure (h : AtWork key i o l) {c : Child} {k : Key} {object : c.Object}
    (hbelongs : c.Belongs o.key k) (hname : c.kind.nameOf object = k.name)
    (hdue : ∀ l', Onward l l' → Due adapters i o l' c object) {present : c.Object → α}
    {created : Pass Store.Error α} {raced : α} (hquiet : Quiet created) :
    Fares adapters key mayCancel Slipped (ensure c k object present created raced) l
      fun l' => (c, k) ∈ l'.there := by
  have hns : k.ns = key.ns := hbelongs.ns.trans h.owns.ns
  have hk : (⟨k.ns, c.kind.nameOf object⟩ : Key) = k := by rw [hname]
  refine keeps_ensure hquiet ⟨h.unpatched, i, h.seen, h.alive, h.ownerKey ▸ hbelongs⟩ ?_ ?_ ?_
  · rintro x l' rfl
    exact ⟨onward_meet l c k, fun _ he => (nomatch he), fun _ => List.mem_cons_self⟩
  · rintro e l' rfl
    exact fared_error (onward_slip l e) (slipped_slip l e)
  · rintro l' rfl
    -- to miss the child is all that was learned
    have hmiss : Onward l { l with missing := some (c, k) } := ⟨rfl, rfl, rfl, fun _ hx => hx⟩
    have hthere : ∀ a : α, Fared Slipped l (fun l' => (c, k) ∈ l'.there) (.ok a)
        (({ l with missing := some (c, k) } : Lore).meet c ⟨k.ns, c.kind.nameOf object⟩) := by
      rw [hk]
      exact fared_ok (hmiss.trans (onward_meet _ c k)) List.mem_cons_self
    refine ⟨⟨h.unpatched, i, h.seen, h.alive, hns, ?_, o, h.owns, hdue _ hmiss⟩, ?_, ?_, ?_⟩
    · show some (c, k) = some (c, (⟨key.ns, c.kind.nameOf object⟩ : Key))
      rw [← hns, hk]
    · rintro x l'' rfl
      exact hthere
    · rintro what l'' rfl
      exact hthere raced
    · intro e l'' he ha
      cases e with
      | alreadyExists what => cases he
      | notFound | conflict | unavailable | invalid =>
        cases ha
        exact fared_error (hmiss.trans (onward_slip _ _)) (slipped_slip _ _)

section Channels

variable {served rest : List Channel.Declaration}

theorem fares_provideSession (h : AtWork key i o l)
    (hchannels : i.spec.channels = served ++ d :: rest)
    (hserved : ∀ d' ∈ served, l.Serves o.key d') (hkeeps : d.channel.keepsSession = true) :
    Fares adapters key mayCancel Slipped (provideSession adapters i o d) l
      fun l' => (.volumeClaim, ⟨o.ns, sessionStore o.name d.channel⟩) ∈ l'.there := by
  rw [provideSession_eq]
  refine fares_ensure h ?_ ?_ ?_ (quiet_publish _ _)
  · exact ⟨rfl, d.channel, rfl⟩
  · rfl
  · intro l' ho
    exact .session d hchannels (fun d' hd' => (hserved d' hd').onward ho) hkeeps

theorem fares_provideWorkload (h : AtWork key i o l)
    (hchannels : i.spec.channels = served ++ d :: rest)
    (hserved : ∀ d' ∈ served, l.Serves o.key d')
    (hsession : d.channel.keepsSession = true →
      (.volumeClaim, ⟨o.ns, sessionStore o.name d.channel⟩) ∈ l.there) :
    Fares adapters key mayCancel Slipped (provideWorkload adapters i o d) l
      fun l' => (.deployment, ⟨o.ns, workload o.name d.channel⟩) ∈ l'.there := by
  rw [provideWorkload_eq]
  refine fares_ensure h ?_ ?_ ?_ (quiet_publish _ _)
  · exact ⟨rfl, d.channel, rfl⟩
  · rfl
  · intro l' ho
    exact .workload d hchannels (fun d' hd' => (hserved d' hd').onward ho)
      fun hkeeps => ho.there _ (hsession hkeeps)

/-- The session store of a channel is there before it is the turn of the workload. -/
theorem fares_serveChannel (h : AtWork key i o l)
    (hchannels : i.spec.channels = served ++ d :: rest)
    (hserved : ∀ d' ∈ served, l.Serves o.key d') :
    Fares adapters key mayCancel Slipped (serveChannel adapters i o d) l
      fun l' => l'.Serves o.key d := by
  unfold serveChannel
  split
  · next hkeeps =>
    refine Fares.bind (fares_provideSession h hchannels hserved hkeeps) ?_
    intro _ l' ho hsession
    refine Keeps.mono (fares_provideWorkload (h.onward ho) hchannels
      (fun d' hd' => (hserved d' hd').onward ho) fun _ => hsession) ?_
    intro result l'' hp
    exact ⟨hp.onward, hp.excused, fun hok => ⟨hp.now hok, fun _ => hp.onward.there _ hsession⟩⟩
  · next hnot =>
    refine Keeps.mono
      (fares_provideWorkload h hchannels hserved fun hkeeps => absurd hkeeps hnot) ?_
    intro result l'' hp
    exact ⟨hp.onward, hp.excused, fun hok => ⟨hp.now hok, fun hkeeps => absurd hkeeps hnot⟩⟩

theorem fares_checkpoint : Fares adapters key mayCancel (Excused mayCancel) checkpoint l
    fun l' => l' = l :=
  keeps_checkpoint.2 ⟨fun hshows => fared_error (.refl l) (hshows rfl),
    fun _ => ⟨.refl l, fun _ he => (nomatch he), fun _ => rfl⟩⟩

theorem fares_serveEach (h : AtWork key i o l) (hchannels : i.spec.channels = served ++ rest)
    (hserved : ∀ d ∈ served, l.Serves o.key d) :
    Fares adapters key mayCancel (Excused mayCancel) (serveEach adapters i o rest) l
      fun l' => ∀ d ∈ i.spec.channels, l'.Serves o.key d := by
  induction rest generalizing l served with
  | nil =>
    rw [List.append_nil] at hchannels
    exact fared_ok (.refl l) (hchannels ▸ hserved) _
  | cons d rest ih =>
    refine Fares.bind fares_checkpoint ?_
    rintro _ l' _ rfl
    refine Fares.bind (Fares.mapError (fares_serveChannel h hchannels hserved) fun _ _ he => he) ?_
    intro link l'' ho hd
    -- this declaration counts as served from now on
    have hchannels' : i.spec.channels = (served ++ [d]) ++ rest := by
      rw [hchannels, List.append_assoc, List.singleton_append]
    refine Fares.bind (ih (h.onward ho) hchannels' ?_) ?_
    · intro d' hd'
      rcases List.mem_append.1 hd' with hold | hnew
      · exact (hserved d' hold).onward ho
      · cases List.mem_singleton.1 hnew
        exact hd
    · intro reports l''' _ hall
      exact fared_ok (.refl l''') hall _

end Channels

theorem fares_createMemory (h : AtWork key i o l)
    (hserved : ∀ d ∈ i.spec.channels, l.Serves o.key d)
    (hwants : i.wantsMemory = true) :
    Fares adapters key mayCancel Slipped (createMemory o) l
      fun l' => (.configMap, ⟨o.ns, memoryStore o.name⟩) ∈ l'.there := by
  rw [createMemory_eq]
  refine fares_ensure h ?_ ?_ ?_ (quiet_done _)
  · exact ⟨rfl, rfl⟩
  · rfl
  · intro l' ho
    exact .memory (fun d hd => (hserved d hd).onward ho) hwants

/-- A pass goes on without the memory store, but not without having failed to provide
it. -/
theorem fares_provideMemory (h : AtWork key i o l)
    (hserved : ∀ d ∈ i.spec.channels, l.Serves o.key d) :
    Fares adapters key mayCancel excuse (provideMemory i o) l fun l' =>
      i.wantsMemory = true →
        (.configMap, ⟨o.ns, memoryStore o.name⟩) ∈ l'.there ∨ l'.slips ≠ [] := by
  unfold provideMemory
  split
  · next hwants =>
    refine Keeps.attempt_bind (fares_createMemory h hserved hwants) ?_
    intro result l' hp
    cases result with
    | error e =>
      exact fared_ok hp.onward (fun _ => .inr (List.ne_nil_of_mem (hp.excused e rfl))) ()
    | ok created =>
      cases created <;> exact fared_ok hp.onward (fun _ => .inl (hp.now rfl)) ()
  · next hnot => exact fared_ok (.refl l) (fun hwants => absurd hwants hnot) ()

theorem fares_countRuns (h : AtWork key i o l) :
    Fares adapters key mayCancel Slipped (countRuns key.ns i.name) l fun l' => l' = l := by
  refine keeps_bind.2 (keeps_ask.2 ⟨⟨h.unpatched, i, h.seen, h.alive, rfl, rfl⟩, ?_⟩)
  rintro answer l' rfl
  cases answer with
  | ok runs => exact ⟨.refl l, fun _ he => (nomatch he), fun _ => rfl⟩
  | error e => exact fared_error (onward_slip l e) (slipped_slip l e)

/-! ## The status -/

/-- The answer to a patch is all that was learned. -/
def Patched (l l' : Lore) : Prop := ∃ answer, l' = { l with patched := answer }

theorem Excused.patched {e : Pass.Error} (h : Excused mayCancel l e) (hnone : l.patched = none)
    (hp : Patched l l') : Excused mayCancel l' e := by
  obtain ⟨answer, rfl⟩ := hp
  cases e with
  | store cause =>
    rcases h with hslip | hpatch
    · exact .inl hslip
    · rw [hnone] at hpatch
      cases hpatch
  | channel c cause => exact h
  | cancelled => exact h
  | invariant what => exact h

/-- The status of an Instance that is not being deleted may be patched once. -/
theorem grants_patchStatus (hseen : l.sight = .seen i) (halive : i.isDeleting = false)
    (hnone : l.patched = none) {after : Instance.Status} {patch : Json}
    (hpatch : Instance.Status.diff i.status after = some patch) :
    Lore.Grants adapters key l
      (.patchStatus ⟨key.ns, i.name⟩ i.metadata.resourceVersion patch) :=
  ⟨hnone, i, hseen, rfl, rfl, halive, after, hpatch⟩

theorem keeps_recordStatus (hseen : l.sight = .seen i) (halive : i.isDeleting = false)
    (hnone : l.patched = none) (desired : Instance.Status) :
    (recordStatus key.ns i desired).Keeps (protocol adapters key mayCancel) l fun result l' =>
      Patched l l' ∧ (∀ e, result = .error e → Excused mayCancel l' e) ∧
        (result.isOk = true → ∀ e, l'.patched ≠ some (.error e)) := by
  unfold recordStatus
  split
  · next patch hpatch =>
    refine keeps_askStore.2 ⟨grants_patchStatus hseen halive hnone hpatch, ?_⟩
    rintro answer l' rfl
    cases answer with
    | ok reply => exact ⟨⟨_, rfl⟩, fun _ he => (nomatch he), fun _ e he => nomatch he⟩
    | error e =>
      refine ⟨⟨_, rfl⟩, fun _ he => ?_, fun hok => nomatch hok⟩
      cases he
      exact .inr rfl
  · refine ⟨⟨l.patched, rfl⟩, fun _ he => (nomatch he), fun _ e he => ?_⟩
    rw [hnone] at he
    cases he

theorem keeps_recordFailure (hseen : l.sight = .seen i) (halive : i.isDeleting = false)
    (hnone : l.patched = none) (cause : Pass.Error) :
    (recordFailure (ε := ε) key.ns i cause).Keeps (protocol adapters key mayCancel) l
      fun result l' => result.isOk = true ∧ Patched l l' := by
  simp only [recordFailure]
  split
  · exact ⟨rfl, l.patched, rfl⟩
  · next patch hpatch =>
    refine keeps_bind.2 (keeps_attempt.2 (keeps_ask.2
      ⟨grants_patchStatus hseen halive hnone hpatch, ?_⟩))
    rintro answer l' rfl
    exact ⟨rfl, _, rfl⟩

/-! ## Whole passes -/

theorem ends_error {e : Pass.Error} (h : Excused mayCancel l e) :
    Ends key mayCancel (.error e) l :=
  ⟨fun _ he => by cases he; exact h, fun hok => nomatch hok⟩

theorem ends_failing (hseen : l.sight = .seen i) (halive : i.isDeleting = false)
    (hnone : l.patched = none) {e : Pass.Error} (excused : Excused mayCancel l e) :
    ((recordFailure key.ns i e).bind fun _ => (.fail e : Pass Pass.Error Action)).Keeps
      (protocol adapters key mayCancel) l (Ends key mayCancel) := by
  refine Keeps.bind (keeps_recordFailure hseen halive hnone e) ?_ ?_
  · rintro _ l' ⟨_, hp⟩
    exact ends_error (excused.patched hnone hp)
  · rintro _ l' ⟨hok, _⟩
    cases hok

theorem ends_converge (cfg : Config) (hseen : l.sight = .seen i) (halive : i.isDeleting = false)
    (hnone : l.patched = none) (hmarked : i.isMarked = true ∨ l.marked = true) :
    (converge cfg key.ns i).Keeps (protocol cfg.adapters key mayCancel) l (Ends key mayCancel) := by
  unfold converge
  split
  · next huid => exact ends_error ⟨i, hseen, huid⟩
  · next uid huid =>
    have work : AtWork key i ⟨i.name, key.ns, uid⟩ l := ⟨hseen, halive, ⟨rfl, rfl, huid⟩, hnone⟩
    have hchannels : Fares cfg.adapters key mayCancel (Excused mayCancel)
        (serveChannels cfg.adapters i ⟨i.name, key.ns, uid⟩) l fun l' =>
          ∀ d ∈ i.spec.channels, l'.Serves ⟨key.ns, i.name⟩ d :=
      fares_serveEach work (List.nil_append _).symm fun d hd => nomatch hd
    refine Keeps.attempt_bind hchannels ?_
    intro result l₁ h₁
    have work₁ := work.onward h₁.onward
    cases result with
    | error e =>
      have excused := h₁.excused e rfl
      cases e with
      | cancelled => exact ends_error excused
      | store | channel | invariant => exact ends_failing work₁.seen halive work₁.unpatched excused
    | ok channels =>
      have hserved := h₁.now rfl
      refine Keeps.bind fares_checkpoint ?_ (fun e l₂ h₂ => ends_error (h₂.excused e rfl))
      intro _ l₂ h₂
      cases h₂.now rfl
      refine Keeps.bind (fares_provideMemory work₁ hserved) ?_ (fun e l₃ h₃ =>
        ends_error (h₃.excused e rfl))
      intro _ l₃ h₃
      have work₃ := work₁.onward h₃.onward
      have hmemory := h₃.now rfl
      have hruns : Fares cfg.adapters key mayCancel (Excused mayCancel)
          ((countRuns key.ns i.name).mapError .store) l₃ fun l' => l' = l₃ :=
        Fares.mapError (fares_countRuns work₃) fun _ _ he => .inl he
      refine Keeps.bind hruns ?_ (fun e l₄ h₄ => ends_error (h₄.excused e rfl))
      intro activeRuns l₄ h₄
      cases h₄.now rfl
      refine Keeps.bind fares_checkpoint ?_ (fun e l₅ h₅ => ends_error (h₅.excused e rfl))
      intro _ l₅ h₅
      cases h₅.now rfl
      refine Keeps.bind (keeps_recordStatus work₃.seen halive work₃.unpatched _) ?_
        (fun e l₆ h₆ => ends_error (h₆.2.1 e rfl))
      rintro _ l₆ ⟨⟨answer, rfl⟩, _, hrecorded⟩
      refine ⟨fun _ he => (nomatch he), fun _ => .inr ⟨i, work₃.seen, .inr ?_⟩⟩
      have hserved₃ : ∀ d ∈ i.spec.channels, l₃.Serves ⟨key.ns, i.name⟩ d :=
        fun d hd => (hserved d hd).onward h₃.onward
      refine ⟨fun d hd => ⟨(hserved₃ d hd).workload, (hserved₃ d hd).session⟩, hmemory, ?_,
        hrecorded rfl⟩
      rw [← h₁.onward.marked, ← h₃.onward.marked] at hmarked
      exact hmarked

/-! ## Tearing down -/

/-- A pass is at work for an Instance that is being deleted. -/
structure Leaving (i : Instance) (l : Lore) : Prop where
  seen : l.sight = .seen i
  deleting : i.isDeleting = true
  unpatched : l.patched = none

theorem Leaving.slip (h : Leaving i l) (e : Store.Error) : Leaving i (l.slip e) :=
  ⟨h.seen, h.deleting, h.unpatched⟩

theorem Leaving.ends (h : Leaving i l) (a : Action) : Ends key mayCancel (.ok a) l :=
  ⟨fun _ he => (nomatch he), fun _ => .inr ⟨i, h.seen, .inl h.deleting⟩⟩

/-- A deletion teaches nothing but that it has failed. -/
theorem learn_delete (l : Lore) (c : Child) (k : Key) (answer : (Request.delete c k).Answer) :
    l.learn (.delete c k) answer = l ∨
      ∃ e, answer = .error e ∧ l.learn (.delete c k) answer = l.slip e := by
  cases answer with
  | ok reply => exact .inl rfl
  | error e => exact .inr ⟨e, rfl, rfl⟩

theorem keeps_deleteWorkloads {ds : List Deployment} (h : Leaving i l)
    (hlisted : ∀ d ∈ ds, (.deployment, ⟨key.ns, d.metadata.displayName⟩) ∈ l.listed) :
    (deleteWorkloads key.ns ds).Keeps (protocol adapters key mayCancel) l fun result l' =>
      Leaving i l' ∧ ∀ e, result = .error e → Excused mayCancel l' e := by
  induction ds generalizing l with
  | nil => exact ⟨h, fun _ he => nomatch he⟩
  | cons d ds ih =>
    refine Keeps.bind fares_checkpoint ?_ ?_
    · intro _ l₁ h₁
      cases h₁.now rfl
      refine keeps_bind.2 (keeps_mapError.2 (keeps_discard.2
        ⟨⟨h.unpatched, i, h.seen, h.deleting, hlisted d List.mem_cons_self⟩, ?_⟩))
      rintro answer l₂ rfl
      have hrest : ∀ d' ∈ ds, (.deployment, ⟨key.ns, d'.metadata.displayName⟩) ∈ l.listed :=
        fun d' hd' => hlisted d' (List.mem_cons_of_mem _ hd')
      cases answer with
      | ok reply => exact ih h hrest
      | error e =>
        cases e with
        | notFound what => exact ih (h.slip _) hrest
        | alreadyExists | conflict | unavailable | invalid =>
          refine ⟨h.slip _, fun _ he => ?_⟩
          cases he
          exact .inl List.mem_cons_self
    · intro e l₁ h₁
      refine ⟨⟨h₁.onward.sight.trans h.seen, h.deleting, h₁.onward.patched.trans h.unpatched⟩, ?_⟩
      intro _ he
      cases he
      exact h₁.excused e rfl

/-- The stores of an Instance whose workloads are gone may be deleted. -/
theorem keeps_discardStore (h : Leaving i l) {c : Child} {k : Key}
    (hgrants : l.Allows adapters key.ns i (.delete c k)) {f : Pass ε α}
    {q : Except ε α → Lore → Prop}
    (hf : ∀ slips, f.Keeps (protocol adapters key mayCancel) { l with slips } q) :
    ((discard c k).attempt.bind fun _ => f).Keeps (protocol adapters key mayCancel) l q := by
  refine keeps_bind.2 (keeps_attempt.2 (keeps_discard.2 ⟨⟨h.unpatched, i, h.seen, hgrants⟩, ?_⟩))
  rintro answer l' rfl
  rcases learn_delete l c k answer with he | ⟨e, rfl, he⟩
  · rw [he]
    exact hf l.slips
  · rw [he]
    exact hf (e :: l.slips)

theorem keeps_deleteSessions {cs : List VolumeClaim} (h : Leaving i l) (hcleared : l.cleared = true)
    (hlisted : ∀ c ∈ cs, (.volumeClaim, ⟨key.ns, c.metadata.displayName⟩) ∈ l.listed) :
    (deleteSessions (ε := ε) key.ns cs).Keeps (protocol adapters key mayCancel) l
      fun result l' => result.isOk = true ∧ Leaving i l' ∧ l'.cleared = true := by
  induction cs generalizing l with
  | nil => exact ⟨rfl, h, hcleared⟩
  | cons c cs ih =>
    refine keeps_discardStore h ?_ fun slips => ?_
    · exact ⟨h.deleting, hcleared, hlisted c List.mem_cons_self⟩
    · exact ih ⟨h.seen, h.deleting, h.unpatched⟩ hcleared
        fun c' hc' => hlisted c' (List.mem_cons_of_mem _ hc')

theorem keeps_deleteStores (h : Leaving i l) (hcleared : l.cleared = true) :
    (deleteStores (ε := ε) key.ns i.name (componentSelector i.name channelComponent)).Keeps
      (protocol adapters key mayCancel) l
        fun result l' => result.isOk = true ∧ Leaving i l' ∧ l'.cleared = true := by
  have memory {l : Lore} (h : Leaving i l) (hcleared : l.cleared = true) :
      ((discard .configMap ⟨key.ns, memoryStore i.name⟩).attempt.bind fun _ =>
        (.done () : Pass ε Unit)).Keeps (protocol adapters key mayCancel) l
          fun result l' => result.isOk = true ∧ Leaving i l' ∧ l'.cleared = true := by
    refine keeps_discardStore h ?_ fun slips => ?_
    · exact ⟨h.deleting, hcleared, rfl⟩
    · exact ⟨rfl, ⟨h.seen, h.deleting, h.unpatched⟩, hcleared⟩
  refine keeps_bind.2 (keeps_attempt.2 (keeps_ask.2
    ⟨⟨h.unpatched, i, h.seen, h.deleting, rfl, rfl⟩, ?_⟩))
  rintro answer l' rfl
  cases answer with
  | error e => exact memory (h.slip e) hcleared
  | ok claims =>
    refine Keeps.bind (keeps_deleteSessions ⟨h.seen, h.deleting, h.unpatched⟩ hcleared ?_) ?_ ?_
    · intro c hc
      exact List.mem_map.2 ⟨c, hc, rfl⟩
    · rintro _ l₁ ⟨_, h₁, hcleared₁⟩
      exact memory h₁ hcleared₁
    · rintro _ l₁ ⟨hok, _⟩
      cases hok

/-- What a pass learns from a list of the workloads. -/
theorem keeps_listDeployments (h : Leaving i l) :
    (askStore (.list .deployment key.ns (componentSelector i.name channelComponent))).Keeps
      (protocol adapters key mayCancel) l fun result l' => Leaving i l' ∧
        (∀ e, result = .error e → Excused mayCancel l' e) ∧
        ∀ ds, result = .ok ds → l'.cleared = ds.isEmpty ∧
          ∀ d ∈ ds, (.deployment, ⟨key.ns, d.metadata.displayName⟩) ∈ l'.listed := by
  refine keeps_askStore.2 ⟨⟨h.unpatched, i, h.seen, h.deleting, rfl, rfl⟩, ?_⟩
  rintro answer l' rfl
  cases answer with
  | error e =>
    refine ⟨h.slip e, fun _ he => ?_, fun _ hok => nomatch hok⟩
    cases he
    exact .inl List.mem_cons_self
  | ok ds =>
    refine ⟨⟨h.seen, h.deleting, h.unpatched⟩, fun _ he => (nomatch he), fun _ hok => ?_⟩
    cases hok
    exact ⟨rfl, fun d hd => List.mem_map.2 ⟨d, hd, rfl⟩⟩

theorem not_mem_filter_marker (finalizers : List String) :
    Instance.marker ∉ finalizers.filter (· ≠ Instance.marker) := by
  intro hmem
  simpa using (List.mem_filter.1 hmem).2

theorem keeps_unmarking (h : Leaving i l) (hcleared : l.cleared = true) (a : Action) :
    ((unmark key.ns i).bind fun _ => (.done a : Pass Pass.Error Action)).Keeps
      (protocol adapters key mayCancel) l (Ends key mayCancel) := by
  refine keeps_bind.2 ⟨⟨h.unpatched, i, h.seen, rfl, rfl, .inr ⟨h.deleting, hcleared, rfl⟩⟩, ?_⟩
  rintro answer l' rfl
  have patched (answer : Except Store.Error Unit) (a : Action) :
      Ends key mayCancel (.ok a) { l with patched := some answer } :=
    ⟨fun _ he => (nomatch he), fun _ => .inr ⟨i, h.seen, .inl h.deleting⟩⟩
  cases answer with
  | ok reply =>
    have hlearn : l.learn (.patchFinalizers ⟨key.ns, i.name⟩ i.metadata.resourceVersion
        (i.metadata.finalizerList.filter (· ≠ Instance.marker))) (.ok reply) =
          { l with patched := some (.ok ()) } := if_neg (not_mem_filter_marker _)
    rw [hlearn]
    exact patched _ a
  | error e =>
    cases e with
    | notFound what => exact patched _ a
    | alreadyExists | conflict | unavailable | invalid => exact ends_error (.inr rfl)

theorem ends_teardown (intervals : Config.Intervals) (h : Leaving i l) :
    (teardown intervals key.ns i).Keeps (protocol adapters key mayCancel) l
      (Ends key mayCancel) := by
  unfold teardown
  refine Keeps.bind (keeps_listDeployments h) ?_ (fun e l₁ h₁ => ends_error (h₁.2.1 e rfl))
  rintro workloads l₁ ⟨h₁, _, hlisted⟩
  refine Keeps.bind (keeps_deleteWorkloads h₁ (hlisted workloads rfl).2) ?_
    (fun e l₂ h₂ => ends_error (h₂.2 e rfl))
  rintro _ l₂ ⟨h₂, _⟩
  refine Keeps.bind (keeps_listDeployments h₂) ?_ (fun e l₃ h₃ => ends_error (h₃.2.1 e rfl))
  rintro remaining l₃ ⟨h₃, _, hlisted₃⟩
  have hcleared := (hlisted₃ remaining rfl).1
  split
  · exact h₃.ends _
  · next hnone =>
    cases Classical.not_not.1 hnone
    refine Keeps.bind (keeps_deleteStores h₃ hcleared) ?_ ?_
    · rintro _ l₄ ⟨_, h₄, hcleared₄⟩
      split
      · exact h₄.ends _
      · refine Keeps.bind fares_checkpoint ?_ (fun e l₅ h₅ => ends_error (h₅.excused e rfl))
        intro _ l₅ h₅
        cases h₅.now rfl
        exact keeps_unmarking h₄ hcleared₄ _
    · rintro _ l₄ ⟨hok, _⟩
      cases hok

/-! ## Whole passes -/

/-- What a pass learns when it reads the Instance. -/
theorem keeps_look (hunseen : l.sight = .unseen) (hnone : l.patched = none) :
    (askStore (.getInstance key)).Keeps (protocol adapters key mayCancel) l fun result l' =>
      (∀ e, result = .error e → Excused mayCancel l' e) ∧
      (result = .ok none → l' = l.look .absent) ∧
      ∀ i, result = .ok (some i) → l' = l.look (.seen i) := by
  refine keeps_askStore.2 ⟨⟨hnone, hunseen, rfl⟩, ?_⟩
  rintro answer l' rfl
  cases answer with
  | error e =>
    refine ⟨fun _ he => ?_, fun h => (nomatch h), fun _ h => nomatch h⟩
    cases he
    exact .inl List.mem_cons_self
  | ok found =>
    cases found with
    | none => exact ⟨fun _ he => (nomatch he), fun _ => rfl, fun _ h => nomatch h⟩
    | some i =>
      refine ⟨fun _ he => (nomatch he), fun h => (nomatch h), fun _ h => ?_⟩
      cases h
      rfl

theorem ends_absent : Ends key mayCancel (.ok .awaitChange) (l.look .absent) :=
  ⟨fun _ he => (nomatch he), fun _ => .inl rfl⟩

theorem keeps_marking (hseen : l.sight = .seen i) (hstage : i.stage = .unmarked)
    (hnone : l.patched = none) :
    (mark key.ns i).Keeps (protocol adapters key mayCancel) l fun result l' =>
      (∀ e, result = .error e → Excused mayCancel l' e) ∧
      (result.isOk = true → l' = { marked := true, slips := l.slips }) := by
  have hmarker : Instance.marker ∈ i.metadata.finalizerList ++ [Instance.marker] :=
    List.mem_append_right _ (List.mem_singleton_self _)
  refine keeps_askStore.2 ⟨⟨hnone, i, hseen, rfl, rfl, .inl ⟨hstage, rfl⟩⟩, ?_⟩
  rintro answer l' rfl
  cases answer with
  | error e =>
    refine ⟨fun _ he => ?_, fun hok => nomatch hok⟩
    cases he
    exact .inr rfl
  | ok reply => exact ⟨fun _ he => (nomatch he), fun _ => if_pos hmarker⟩

theorem ends_advance (cfg : Config) (hseen : l.sight = .seen i) (hnone : l.patched = none)
    (hmarked : l.marked = true) :
    (advance cfg key.ns i).Keeps (protocol cfg.adapters key mayCancel) l (Ends key mayCancel) := by
  unfold advance
  split
  · next hdeleting => exact ends_teardown _ ⟨hseen, hdeleting, hnone⟩
  · next halive => exact ends_converge cfg hseen (Bool.eq_false_iff.2 halive) hnone (.inr hmarked)

/-- Every pass follows the protocol, whatever it is answered and wherever it is cancelled. -/
theorem follows_reconcile (cfg : Config) (key : Key) (mayCancel : Prop) :
    (reconcile cfg key).Keeps (protocol cfg.adapters key mayCancel) {} (Ends key mayCancel) := by
  refine Keeps.bind (keeps_look rfl rfl) ?_ (fun e l₁ h₁ => ends_error (h₁.1 e rfl))
  rintro found l₁ ⟨_, habsent, hread⟩
  cases found with
  | none =>
    cases habsent rfl
    exact ends_absent
  | some i =>
    cases hread i rfl
    dsimp only
    split
    · next hstage => exact ends_teardown _ ⟨rfl, Instance.isDeleting_of_stage (.inl hstage), rfl⟩
    · next hstage => exact ends_teardown _ ⟨rfl, Instance.isDeleting_of_stage (.inr hstage), rfl⟩
    · next hstage =>
      exact ends_converge cfg rfl (Instance.not_isDeleting_of_stage (.inr hstage)) rfl
        (.inl (Instance.isMarked_of_alive hstage))
    · next hstage =>
      refine Keeps.bind fares_checkpoint ?_ (fun e l₂ h₂ => ends_error (h₂.excused e rfl))
      intro _ l₂ h₂
      cases h₂.now rfl
      refine Keeps.bind (keeps_marking rfl hstage rfl) ?_ (fun e l₃ h₃ => ends_error (h₃.1 e rfl))
      rintro _ l₃ ⟨_, hmarked⟩
      cases hmarked rfl
      refine Keeps.bind (keeps_look rfl rfl) ?_ (fun e l₄ h₄ => ends_error (h₄.1 e rfl))
      rintro found l₄ ⟨_, habsent, hread⟩
      cases found with
      | none =>
        cases habsent rfl
        exact ends_absent
      | some fresh =>
        cases hread fresh rfl
        exact ends_advance cfg rfl rfl rfl

end Pass

end WorkloadOperator
