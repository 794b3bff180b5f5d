import WorkloadOperator.Proofs.Absorbing
import WorkloadOperator.Proofs.Parenting
import WorkloadOperator.Proofs.Recording
import WorkloadOperator.Proofs.Sparing

/-!
# The events of a pass

What is seen of a pass is what it calls and what it publishes, in one order.  A call that creates a
child owes an event, and no other call does.  A pass pays what it owes at once, before it calls or
ends, and for nothing else it says that a child was created (`Pays`, `Paid`).

So what is seen of a pass that brings its Instance to what it declares is determined by its calls
and by how it ends: after each creation that succeeded comes its event, and after all that the event
of the failure, if a channel has failed for the first time (`announced`).
-/

namespace WorkloadOperator

/-- The event that tells of a child of an Instance that was created. -/
def Child.creation (i : Instance) : Child → String → Event
  | .volumeClaim, name => .sessionStoreCreated i name
  | .deployment, name => .workloadCreated i name
  | .configMap, name => .memoryStoreCreated i name

/-- The event that a request owes with an answer: a child was created. -/
def Request.owed (i : Instance) : (r : Request) → r.Answer → Option Event
  | .create c _ o, .ok _ => some (c.creation i (c.kind.nameOf o))
  | .create _ _ _, .error _ => none
  | .getInstance _, _ | .get _ _, _ | .list _ _ _, _ | .listRuns _ _, _ | .delete _ _, _
  | .patchFinalizers _ _ _, _ | .patchStatus _ _ _, _ => none

theorem Request.owed_of_verb {i : Instance} {r : Request} (h : r.verb ≠ .create)
    (answer : r.Answer) : r.owed i answer = none := by
  cases r with
  | create => exact absurd rfl h
  | getInstance | get | list | listRuns | delete | patchFinalizers | patchStatus => rfl

namespace Pass

/-! ## What is seen of a pass -/

/-- What is seen of a pass: a call, or an event that it publishes. -/
inductive Act where
  | call (c : Call)
  | event (e : Event)

/-- The call that is seen. -/
def Act.call? : Act → Option Call
  | .call c => some c
  | .event _ => none

/-- The event that is seen. -/
def Act.event? : Act → Option Event
  | .call _ => none
  | .event e => some e

/-- The calls among what is seen. -/
def callsOf (seen : List Act) : List Call := seen.filterMap Act.call?

/-- The surroundings of a pass in company, of which all is seen. -/
def overheard (b : Company) (s : Store) : Surroundings (List Act) where
  serve r acts :=
    let c := b.call s (callsOf acts) r
    (c.answer, acts ++ [.call c])
  isCancelled acts := b.cancelled (callsOf acts).length
  publish e acts := acts ++ [.event e]

/-- The event that is owed after a call. -/
def Call.owed (c : Call) (i : Instance) : Option Event := c.request.owed i c.answer

/-- What is seen of calls if what is owed after each of them is paid at once. -/
def script (i : Instance) (log : List Call) : List Act :=
  log.flatMap fun c => .call c :: ((c.owed i).map Act.event).toList

variable {ε δ α β : Type} {b : Company} {s : Store} {i : Instance} {P : Event → Prop}
  {owed : Option Event} {acts later : List Act} {key : Key}

theorem callsOf_append (acts later : List Act) :
    callsOf (acts ++ later) = callsOf acts ++ callsOf later :=
  List.filterMap_append

/-- A pass comes out in the same way, and makes the same calls, whether or not its events are
seen. -/
theorem run_overheard (p : Pass ε α) (acts : List Act) :
    p.run (amid b s) (callsOf acts) =
      ((p.run (overheard b s) acts).1, callsOf (p.run (overheard b s) acts).2) := by
  refine (Keeps.run_viewed (w := overheard b s) callsOf (fun _ => True)
    (keeps_run b s p (callsOf acts)) trivial ?_ (fun _ => rfl) ?_).2
  · intro acts r _ _
    refine ⟨trivial, ?_⟩
    rw [show callsOf ((overheard b s).serve r acts).2 = callsOf acts ++ [b.call s (callsOf acts) r]
      from callsOf_append ..]
    rfl
  · intro e acts _
    exact ⟨trivial, (callsOf_append ..).trans (List.append_nil _)⟩

/-! ## What is owed is paid -/

/-- What is owed is paid at once, and all other events are of some kind. -/
def Paid (i : Instance) (P : Event → Prop) : Option Event → List Act → Prop
  | owed, [] => owed = none
  | owed, .call c :: acts => owed = none ∧ Paid i P (c.owed i) acts
  | owed, .event e :: acts => (owed = some e ∨ owed = none ∧ P e) ∧ Paid i P none acts

theorem Paid.append (h : Paid i P owed acts) (hlater : Paid i P none later) :
    Paid i P owed (acts ++ later) := by
  induction acts generalizing owed with
  | nil =>
    cases h
    exact hlater
  | cons x acts ih =>
    cases x with
    | call c => exact ⟨h.1, ih h.2⟩
    | event e => exact ⟨h.1, ih h.2⟩

/-- If nothing else is paid, then the calls tell what is seen. -/
theorem Paid.eq_script (h : Paid i (fun _ => False) owed acts) :
    acts = (owed.map Act.event).toList ++ script i (callsOf acts) := by
  induction acts generalizing owed with
  | nil =>
    cases h
    rfl
  | cons x acts ih =>
    cases x with
    | call c =>
      obtain ⟨rfl, hrest⟩ := h
      exact congrArg (Act.call c :: ·) (ih hrest)
    | event e =>
      obtain ⟨rfl | ⟨-, hfalse⟩, hrest⟩ := h
      · exact congrArg (Act.event e :: ·) (ih hrest)
      · exact hfalse.elim

/-- If nothing is created, then only the other events are seen. -/
theorem Paid.of_event (h : Paid i P none acts)
    (hcalls : ∀ c ∈ callsOf acts, c.request.verb ≠ .create) {e : Event}
    (he : .event e ∈ acts) : P e := by
  induction acts with
  | nil => cases he
  | cons x acts ih =>
    cases x with
    | call c =>
      obtain ⟨hverb, hcalls⟩ := List.forall_mem_cons.1 hcalls
      have hrest : Paid i P none acts := by
        have hrest := h.2
        rwa [Call.owed, Request.owed_of_verb hverb] at hrest
      exact ih hrest hcalls (by simpa using he)
    | event e' =>
      obtain ⟨hevent | ⟨-, hother⟩, hrest⟩ := h
      · cases hevent
      · rcases List.mem_cons.1 he with heq | he
        · cases heq
          exact hother
        · exact ih hrest hcalls he

/-- Whatever a part of a pass is answered, it pays at once what is owed, it publishes other events
of some kind only, and it comes out so. -/
def Pays (i : Instance) (P : Event → Prop) (R : Except ε α → Prop) :
    Option Event → Pass ε α → Prop
  | owed, .done a => owed = none ∧ R (.ok a)
  | owed, .fail e => owed = none ∧ R (.error e)
  | owed, .request r next => owed = none ∧ ∀ answer, Pays i P R (r.owed i answer) (next answer)
  | owed, .poll next => owed = none ∧ ∀ cancelled, Pays i P R none (next cancelled)
  | owed, .publish e next => (owed = some e ∨ owed = none ∧ P e) ∧ Pays i P R none next

section Parts

variable {R : Except ε α → Prop} {p : Pass ε α} {Q : Request → Prop} {r : Request}

/-- What a part pays is what is seen of it. -/
theorem Pays.run (h : Pays i P R owed p) (b : Company) (s : Store) (acts : List Act) :
    ∃ during, (p.run (overheard b s) acts).2 = acts ++ during ∧ Paid i P owed during ∧
      R (p.run (overheard b s) acts).1 := by
  induction p generalizing owed acts with
  | done a => exact ⟨[], by simp [Pass.run], h⟩
  | fail e => exact ⟨[], by simp [Pass.run], h⟩
  | request r next ih =>
    let c := b.call s (callsOf acts) r
    obtain ⟨during, hrun, hpaid, hresult⟩ := ih c.answer (h.2 c.answer) (acts ++ [.call c])
    exact ⟨.call c :: during, hrun.trans (by simp), ⟨h.1, hpaid⟩, hresult⟩
  | poll next ih =>
    obtain ⟨rfl, hnext⟩ := h
    exact ih _ (hnext _) acts
  | publish e next ih =>
    obtain ⟨during, hrun, hpaid, hresult⟩ := ih h.2 (acts ++ [.event e])
    exact ⟨.event e :: during, hrun.trans (by simp), ⟨h.1, hpaid⟩, hresult⟩

/-- What follows a part owes nothing, and it may rely on how that part came out. -/
theorem Pays.resume {f : Except ε α → Pass δ β} {R' : Except δ β → Prop} (h : Pays i P R owed p)
    (hf : ∀ result, R result → Pays i P R' none (f result)) : Pays i P R' owed (p.resume f) := by
  induction p generalizing owed with
  | done a =>
    obtain ⟨rfl, ha⟩ := h
    exact hf _ ha
  | fail e =>
    obtain ⟨rfl, he⟩ := h
    exact hf _ he
  | request r next ih => exact ⟨h.1, fun answer => ih answer (h.2 answer)⟩
  | poll next ih => exact ⟨h.1, fun cancelled => ih cancelled (h.2 cancelled)⟩
  | publish e next ih => exact ⟨h.1, ih h.2⟩

theorem Pays.bind {f : α → Pass ε β} {R' : Except ε β → Prop} (h : Pays i P R owed p)
    (hok : ∀ a, R (.ok a) → Pays i P R' none (f a)) (herror : ∀ e, R (.error e) → R' (.error e)) :
    Pays i P R' owed (p.bind f) := by
  rw [bind_eq_resume]
  refine h.resume ?_
  rintro (e | a) hresult
  · exact ⟨rfl, herror e hresult⟩
  · exact hok a hresult

theorem Pays.mapError {g : ε → δ} {R : Except δ α → Prop}
    (h : Pays i P (fun result => R (result.mapError g)) owed p) :
    Pays i P R owed (p.mapError g) := by
  rw [mapError_eq_resume]
  refine h.resume ?_
  rintro (e | a) hresult <;> exact ⟨rfl, hresult⟩

theorem Pays.attempt {R : Except δ (Except ε α) → Prop}
    (h : Pays i P (fun result => R (.ok result)) owed p) : Pays i P R owed p.attempt := by
  rw [attempt_eq_resume]
  exact h.resume fun _ hresult => ⟨rfl, hresult⟩

/-- A part that comes out as is known of it. -/
theorem Pays.confined (h : Pays i P (fun _ => True) owed p) (hp : Confined Q R p) :
    Pays i P R owed p := by
  induction p generalizing owed with
  | done a => exact ⟨h.1, hp⟩
  | fail e => exact ⟨h.1, hp⟩
  | request r next ih => exact ⟨h.1, fun answer => ih answer (h.2 answer) (hp.2 answer () trivial)⟩
  | poll next ih => exact ⟨h.1, fun cancelled => ih cancelled (h.2 cancelled) (hp _ trivial)⟩
  | publish e next ih => exact ⟨h.1, ih h.2 hp⟩

/-- A part that creates nothing and publishes nothing owes nothing. -/
theorem Tacit.pays (h : p.Tacit) (hp : Confined Q R p) (hQ : ∀ r, Q r → r.verb ≠ .create) :
    Pays i P R none p := by
  induction p with
  | done a => exact ⟨rfl, hp⟩
  | fail e => exact ⟨rfl, hp⟩
  | request r next ih =>
    refine ⟨rfl, fun answer => ?_⟩
    rw [Request.owed_of_verb (hQ r hp.1)]
    exact ih answer (h answer) (hp.2 answer () trivial)
  | poll next ih => exact ⟨rfl, fun cancelled => ih cancelled (h cancelled) (hp cancelled trivial)⟩
  | publish e next => exact h.elim

end Parts

/-! ## Parts of passes -/

/-- A pass does not end because of a channel. -/
def Spared (result : Except Pass.Error α) : Prop := ∀ c cause, result ≠ .error (.channel c cause)

theorem spared_ok (a : α) : Spared (.ok a) := nofun

theorem Spared.error {e : Pass.Error} (h : Spared (.error e : Except Pass.Error α)) :
    Spared (.error e : Except Pass.Error β) :=
  fun c cause he => h c cause (congrArg Except.error (Except.error.inj he))

theorem spared_store (result : Except Store.Error α) :
    Spared (result.mapError Pass.Error.store) := by
  cases result <;> exact nofun

theorem pays_done (a : α) : Pays i P Spared none (.done a) := ⟨rfl, spared_ok a⟩

/-- Nothing in two parts ends because of a channel. -/
theorem Pays.andThen {p : Pass Pass.Error α} {f : α → Pass Pass.Error β}
    (h : Pays i P Spared owed p) (hf : ∀ a, Pays i P Spared none (f a)) :
    Pays i P Spared owed (p.bind f) :=
  h.bind (fun a _ => hf a) fun _ he => he.error

/-- A part that meets nothing but a failing store owes nothing, if it creates and publishes
nothing. -/
theorem Tacit.pays_store {p : Pass Store.Error α} {Q : Request → Prop} (h : p.Tacit)
    (hp : Asks Q p) (hQ : ∀ r, Q r → r.verb ≠ .create) : Pays i P Spared none (p.mapError .store) :=
  (h.mapError _).pays (keeps_mapError.2 (hp.mono fun result _ _ => spared_store result)) hQ

theorem pays_checkpoint : Pays i P Spared none checkpoint := by
  refine ⟨rfl, fun cancelled => ?_⟩
  cases cancelled with
  | false => exact pays_done ()
  | true => exact ⟨rfl, nofun⟩

theorem pays_askStore (r : Request) (hr : r.verb ≠ .create) :
    Pays i P Spared none (askStore r) := by
  refine (tacit_ask r).pays_store (Q := (· = r)) (asks_ask rfl) ?_
  rintro _ rfl
  exact hr

/-- A child that is provided is told of if it was created. -/
theorem pays_ensure {c : Child} {k : Key} {o : c.Object} {present : c.Object → α} {created : α}
    {raced : α} : Pays i P (fun _ => True) none
      (ensure c k o present (.publish (c.creation i (c.kind.nameOf o)) (.done created)) raced) := by
  refine ⟨rfl, ?_⟩
  rintro (e | _ | found)
  · exact ⟨rfl, trivial⟩
  · refine ⟨rfl, ?_⟩
    rintro (e | x)
    · cases e <;> exact ⟨rfl, trivial⟩
    · exact ⟨.inl rfl, rfl, trivial⟩
  · exact ⟨rfl, trivial⟩

theorem pays_serveChannel (adapters : Config.Adapters) (o : Owner) (d : Channel.Declaration) :
    Pays i P (fun _ => True) none (serveChannel adapters i o d) := by
  have workload : Pays i P (fun _ => True) none (provideWorkload adapters i o d) := by
    rw [provideWorkload_eq]
    exact pays_ensure
  unfold serveChannel
  split
  · refine Pays.bind (R := fun _ => True) ?_ (fun _ _ => workload) fun _ h => h
    rw [provideSession_eq]
    exact pays_ensure
  · exact workload

theorem pays_serveEach (adapters : Config.Adapters) (o : Owner) (ds : List Channel.Declaration) :
    Pays i P (fun _ => True) none (serveEach adapters i o ds) := by
  induction ds with
  | nil => exact ⟨rfl, trivial⟩
  | cons d ds ih =>
    refine pays_checkpoint.bind (fun _ _ => ?_) fun _ _ => trivial
    have served := pays_serveChannel (i := i) (P := P) adapters o d
    refine (served.mapError (R := fun _ => True)).bind (fun link _ => ?_) fun _ h => h
    exact ih.bind (fun _ _ => ⟨rfl, trivial⟩) fun _ h => h

theorem pays_provideMemory (o : Owner) : Pays i P (fun _ => True) none
    (provideMemory (ε := ε) i o) := by
  unfold provideMemory
  split
  · refine ⟨rfl, ?_⟩
    rintro (e | _ | found)
    · exact ⟨rfl, trivial⟩
    · refine ⟨rfl, ?_⟩
      rintro (e | x)
      · cases e <;> exact ⟨rfl, trivial⟩
      · exact ⟨.inl rfl, rfl, trivial⟩
    · exact ⟨rfl, trivial⟩
  · exact ⟨rfl, trivial⟩

/-! ## Converging -/

/-- The event of a channel that has failed, unless the Instance was read in the error phase. -/
def failure (i : Instance) : Except Pass.Error α → Option Event
  | .error (.channel c cause) =>
    if i.status.map (·.phase) = some .error then none
    else some (.convergeFailed i (Pass.Error.channel c cause).message)
  | .error (.store _) | .error .cancelled | .error (.invariant _) | .ok _ => none

theorem failure_of_spared {result : Except Pass.Error α} (h : Spared result) :
    failure i result = none := by
  rcases result with (_ | ⟨c, cause⟩ | _ | _) | a
  case error.channel => exact absurd rfl (h c cause)
  all_goals rfl

/-- A pass has shown what its calls and its end ask for, and no more. -/
def Scripted (i : Instance) (acts : List Act) (x : Except Pass.Error α × List Act) : Prop :=
  ∃ during, x.2 = acts ++ during ++ ((failure i x.1).map Act.event).toList ∧
    Paid i (fun _ => False) none during

/-- A part that does not end because of a channel. -/
theorem Pays.scripted {p : Pass Pass.Error α} (h : Pays i (fun _ => False) Spared none p)
    (b : Company) (s : Store) (acts : List Act) : Scripted i acts (p.run (overheard b s) acts) := by
  obtain ⟨during, hrun, hpaid, hspared⟩ := h.run b s acts
  exact ⟨during, by rw [hrun, failure_of_spared hspared]; simp, hpaid⟩

/-- What follows a part that owes nothing goes on from what was shown. -/
theorem Pays.scripted_bind {p : Pass Pass.Error α} {f : α → Pass Pass.Error β}
    {R : Except Pass.Error α → Prop} (h : Pays i (fun _ => False) R none p)
    {acts : List Act} (hok : ∀ a acts', R (.ok a) → p.run (overheard b s) acts = (.ok a, acts') →
      Scripted i acts' ((f a).run (overheard b s) acts'))
    (herror : ∀ e, R (.error e) → Spared (.error e : Except Pass.Error β)) :
    Scripted i acts ((p.bind f).run (overheard b s) acts) := by
  obtain ⟨during, hrun, hpaid, hresult⟩ := h.run b s acts
  rw [run_bind]
  generalize p.run (overheard b s) acts = x at hrun hresult hok
  obtain ⟨result, after⟩ := x
  obtain rfl : after = acts ++ during := hrun
  cases result with
  | error e => exact ⟨during, by simp [failure_of_spared (herror e hresult)], hpaid⟩
  | ok a =>
    obtain ⟨rest, hrest, hpaid'⟩ := hok a (acts ++ during) hresult rfl
    exact ⟨during ++ rest, by simpa using hrest, hpaid.append hpaid'⟩

/-- The failure is told of exactly if there is something to record. -/
theorem failure_channel (c : Channel) (cause : Store.Error) :
    failure i (.error (.channel c cause) : Except Pass.Error α) =
      (Instance.Status.diff i.status { i.status.getD {} with phase := .error }).map
        fun _ => .convergeFailed i (Pass.Error.channel c cause).message := by
  cases hdiff : Instance.Status.diff i.status { i.status.getD {} with phase := .error } with
  | none =>
    have hstatus := Instance.Status.eq_of_diff_eq_none hdiff
    exact if_pos (by rw [hstatus]; rfl)
  | some patch =>
    refine if_neg fun hphase => ?_
    obtain ⟨status, hstatus, herror⟩ := Option.map_eq_some_iff.1 hphase
    have hsame : ({ i.status.getD {} with phase := .error } : Instance.Status) = status := by
      rw [hstatus, ← herror]
      rfl
    rw [hsame, hstatus, Instance.Status.diff_self] at hdiff
    cases hdiff

theorem scripted_recordFailure (ns : String) (c : Channel) (cause : Store.Error) (acts : List Act) :
    Scripted i acts (((recordFailure ns i (.channel c cause)).bind
      fun _ => (.fail (.channel c cause) : Pass Pass.Error α)).run (overheard b s) acts) := by
  have told := failure_channel (α := α) (i := i) c cause
  simp only [recordFailure]
  generalize Instance.Status.diff i.status _ = patch at told
  cases patch with
  | none => exact ⟨[], by rw [Pass.bind, Pass.run, told]; simp, rfl⟩
  | some patch =>
    let r : Request := .patchStatus ⟨ns, i.name⟩ i.metadata.resourceVersion patch
    let e : Pass.Error := .channel c cause
    -- whether or not the patch is refused, the event comes next
    have hpass : (((ask r).attempt.bind fun _ => tell (.convergeFailed i e.message)).bind
        fun _ => (.fail e : Pass Pass.Error α)) =
          .request r fun _ => .publish (.convergeFailed i e.message) (.fail e) := by
      refine congrArg (Pass.request r) (funext fun answer => ?_)
      cases answer <;> rfl
    show Scripted i acts ((((ask r).attempt.bind fun _ => tell (.convergeFailed i e.message)).bind
        fun _ => (.fail e : Pass Pass.Error α)).run (overheard b s) acts)
    rw [hpass]
    refine ⟨[.call (b.call s (callsOf acts) r)], ?_, rfl, rfl⟩
    show _ = acts ++ [.call (b.call s (callsOf acts) r)] ++ ((failure i (.error e)).map _).toList
    rw [told]
    rfl

/-- What is left to do when all channels are served. -/
theorem pays_completed (cfg : Config) (ns : String) (o : Owner) (channels : List Channel.Report) :
    Pays i (fun _ => False) Spared none (checkpoint.bind fun _ => (provideMemory i o).bind fun _ =>
      ((countRuns ns i.name).mapError .store).bind fun activeRuns => checkpoint.bind fun _ =>
        (recordStatus ns i { phase := .running, channels, activeRuns }).bind fun _ =>
          (.done (.requeue cfg.intervals.steady) : Pass Pass.Error Action)) := by
  have counted : Pays i (fun _ => False) Spared none ((countRuns ns i.name).mapError .store) := by
    have silent : (countRuns ns i.name).Tacit := (tacit_ask _).bind fun _ => trivial
    refine silent.pays_store (asks_countRuns ns i.name) ?_
    rintro _ rfl
    exact nofun
  have recorded (activeRuns : Int64) : Pays i (fun _ => False) Spared none
      (recordStatus ns i { phase := .running, channels, activeRuns }) := by
    unfold recordStatus
    split
    · exact pays_askStore _ nofun
    · exact pays_done ()
  have remembered : Confined (Request.Recalls cfg.adapters i o) (· = .ok ())
      (provideMemory (ε := Pass.Error) i o) :=
    confined_provideMemory
  refine pays_checkpoint.andThen fun _ => ?_
  refine ((pays_provideMemory o).confined remembered).bind (fun _ _ => ?_) nofun
  refine counted.andThen fun activeRuns => ?_
  refine pays_checkpoint.andThen fun _ => ?_
  exact (recorded activeRuns).andThen fun _ => pays_done _

/-- What may come of an attempt to serve channels. -/
def Attempted : Except Pass.Error (Except Pass.Error α) → Prop
  | .ok outcome => ∀ e, outcome = .error e → e = .cancelled ∨ ∃ c cause, e = .channel c cause
  | .error _ => False

/-- A pass that brings its Instance to what it declares shows what its calls and its end ask for. -/
theorem scripted_converge (cfg : Config) (ns : String) (acts : List Act) :
    Scripted i acts ((converge cfg ns i).run (overheard b s) acts) := by
  unfold converge
  split
  · exact ⟨[], by simp [Pass.run, failure], rfl⟩
  · next uid _ =>
    let o : Owner := ⟨i.name, ns, uid⟩
    have served : Pays i (fun _ => False) (fun result => Attempted (.ok result)) none
        (serveChannels cfg.adapters i o) :=
      (pays_serveEach cfg.adapters o i.spec.channels).confined
        (confined_serveEach (List.Subset.refl _))
    refine served.attempt.scripted_bind (fun outcome acts h _ => ?_) fun _ h => h.elim
    cases outcome with
    | ok channels => exact (pays_completed cfg ns o channels).scripted b s acts
    | error e =>
      rcases h e rfl with rfl | ⟨c, cause, rfl⟩
      · exact ⟨[], by simp [Pass.run, failure], rfl⟩
      · exact scripted_recordFailure ns c cause acts

/-! ## Whole passes -/

theorem pays_opening (key : Key) : Pays i P Spared none (opening key) := by
  unfold opening
  refine (pays_askStore (.getInstance key) nofun).andThen fun found => ?_
  cases found with
  | none => exact pays_done none
  | some j =>
    dsimp only
    split
    · refine pays_checkpoint.andThen fun _ => ?_
      have marked : Pays i P Spared none (mark key.ns j) := pays_askStore _ nofun
      exact marked.andThen fun _ => pays_askStore _ nofun
    · exact pays_done _

/-- The last thing that a teardown tells of. -/
def Farewell (e : Event) : Prop :=
  ∃ (i : Instance) (workloads : Nat), e = .cleanupComplete i workloads

theorem pays_teardown (intervals : Config.Intervals) (ns : String) (j : Instance) :
    Pays i Farewell Spared none (teardown intervals ns j) := by
  have deleted (ds : List Deployment) : Pays i Farewell Spared none (deleteWorkloads ns ds) := by
    induction ds with
    | nil => exact pays_done ()
    | cons d ds ih =>
      have discarded : Pays i Farewell Spared none
          ((discard .deployment ⟨ns, d.metadata.displayName⟩).mapError Pass.Error.store) := by
        refine (tacit_discard _ _).pays_store (Q := (· = .delete .deployment _))
          (asks_discard rfl) ?_
        rintro _ rfl
        exact nofun
      exact pays_checkpoint.andThen fun _ => discarded.andThen fun _ => ih
  have emptied (name selector : String) : Pays i Farewell Spared none
      (deleteStores (ε := Pass.Error) ns name selector) := by
    refine (tacit_deleteStores ns name selector).pays
      ((confined_deleteStores ns name selector).mono ?_) ?_
    · rintro _ _ rfl
      exact nofun
    · rintro _ ⟨⟩ <;> exact nofun
  have unmarked : Pays i Farewell Spared none (unmark ns j) := by
    refine ⟨rfl, fun answer => ?_⟩
    dsimp only
    split
    · exact pays_done ()
    · exact ⟨rfl, nofun⟩
  have listed (selector : String) : Pays i Farewell Spared none
      (askStore (.list .deployment ns selector)) :=
    pays_askStore _ nofun
  unfold teardown
  refine (listed _).andThen fun workloads => ?_
  refine (deleted workloads).andThen fun _ => ?_
  refine (listed _).andThen fun remaining => ?_
  split
  · exact pays_done _
  refine (emptied _ _).andThen fun _ => ?_
  split
  · exact pays_done _
  refine pays_checkpoint.andThen fun _ => ?_
  refine ⟨.inr ⟨rfl, j, workloads.length, rfl⟩, ?_⟩
  exact unmarked.andThen fun _ => pays_done _

/-! ## The Instance that was read last -/

variable {adapters : Config.Adapters} {cfg : Config} {j : Instance} {log : List Call}

theorem Advancing.readLast (h : Advancing adapters key i log) : ReadLast key log i := by
  obtain ⟨before, r, rest, rfl, -, hr, hrest⟩ := h.split
  exact ⟨before, r, rest, rfl, hr, fun c hc k => not_getInstance_of_advances (hrest c hc) k⟩

theorem ReadLast.append (h : ReadLast key log i) {rest : List Call}
    (hrest : ∀ c ∈ rest, ∀ k, c.request ≠ .getInstance k) : ReadLast key (log ++ rest) i := by
  obtain ⟨before, r, between, rfl, hr, hbetween⟩ := h
  refine ⟨before, r, between ++ rest, by simp, hr, fun c hc => ?_⟩
  exact (List.mem_append.1 hc).elim (hbetween c) (hrest c)

/-- The calls that read an Instance. -/
def readings (log : List Call) : List Call :=
  log.filter fun c => c.request.verb = .get ∧ c.request.kind = .inst

theorem readings_of_reads {before rest : List Call} {r : Call} (hr : r.Reads key i)
    (hrest : ∀ c ∈ rest, ∀ k, c.request ≠ .getInstance k) :
    readings (before ++ r :: rest) = readings before ++ [r] := by
  have hnone : readings rest = [] := by
    refine List.filter_eq_nil_iff.2 fun c hc => ?_
    have hno := hrest c hc
    generalize c.request = request at hno
    cases request with
    | getInstance k => exact absurd rfl (hno k)
    | get child k => simpa [Request.verb, Request.kind] using child.kind_ne_inst
    | create | list | listRuns | delete | patchFinalizers | patchStatus => simp [Request.verb]
  rw [readings, List.filter_append, ← readings, List.filter_cons_of_pos, ← readings, hnone]
  simp [hr.request, Request.verb, Request.kind]

theorem ReadLast.unique (h : ReadLast key log i) (h' : ReadLast key log j) : i = j := by
  obtain ⟨before, r, rest, rfl, hr, hrest⟩ := h
  obtain ⟨before', r', rest', hlog, hr', hrest'⟩ := h'
  have hsame := congrArg readings hlog
  rw [readings_of_reads hr hrest, readings_of_reads hr' hrest'] at hsame
  obtain ⟨-, hlast⟩ := List.append_inj' hsame rfl
  cases hlast
  exact Option.some.inj (Except.ok.inj (hr.found.symm.trans hr'.found))

theorem asks_advance (cfg : Config) (ns : String) :
    Asks (Request.Advances cfg.adapters ns j) (advance cfg ns j) := by
  unfold advance
  split
  · next hdeleting => exact (asks_teardown _).imp fun r hr => .teardown hdeleting r hr
  · next halive =>
    exact (asks_converge cfg).imp fun r hr => .converge (Bool.not_eq_true _ ▸ halive) r hr

theorem run_opening {acts : List Act} {found : Except Pass.Error (Option Instance)}
    (h : (opening key).run (overheard b s) [] = (found, acts)) :
    (opening key).run (amid b s) [] = (found, callsOf acts) := by
  have hrun := run_overheard (b := b) (s := s) (opening key) []
  rwa [h] at hrun

/-- The Instance that the opening has found is the one that a pass has read last. -/
theorem readLast_calls {acts : List Act}
    (h : (opening key).run (overheard b s) [] = (.ok (some j), acts)) :
    ReadLast key (calls cfg key b s) j := by
  have hadvancing : Advancing cfg.adapters key j (callsOf acts) := by
    have kept : (opening key).Keeps (within b s fun _ _ => True) [] fun found log =>
        ∀ i, found = .ok (some i) → Advancing cfg.adapters key i log :=
      next_opening fun _ _ _ => trivial
    have hopened := kept.result
    rw [run_opening h] at hopened
    exact hopened j rfl
  obtain ⟨rest, hrest, hasked⟩ := (asks_advance (j := j) cfg key.ns).since b s (callsOf acts)
  rw [calls, reconcile_eq, run_bind, run_opening h]
  show ReadLast key ((advance cfg key.ns j).run (amid b s) (callsOf acts)).2 j
  rw [hrest]
  exact hadvancing.readLast.append fun c hc k => not_getInstance_of_advances (hasked c hc) k

/-! ## Whole passes -/

/-- The first call of a pass reads the Instance. -/
theorem calls_eq_cons (cfg : Config) (key : Key) (b : Company) (s : Store) :
    ∃ rest, calls cfg key b s = ⟨s.run (b.others 0), .getInstance key⟩ :: rest := by
  have hfirst {next : (Request.getInstance key).Answer → Pass Pass.Error Action}
      (h : reconcile cfg key = .request (.getInstance key) next) :
      ∃ rest, calls cfg key b s = [⟨s.run (b.others 0), .getInstance key⟩] ++ rest := by
    rw [calls, h]
    let c := b.call s [] (.getInstance key)
    exact extends_run b s (next c.answer) [c]
  exact hfirst rfl

/-- The calls of a pass are among what is seen of it. -/
theorem calls_eq (cfg : Config) (key : Key) (b : Company) (s : Store) :
    calls cfg key b s = callsOf ((reconcile cfg key).run (overheard b s) []).2 :=
  congrArg Prod.snd (run_overheard (reconcile cfg key) [])

/-- A pass for an Instance that is not being deleted shows what its calls and its end ask for. -/
theorem scripted_reconcile (hread : ReadLast key (calls cfg key b s) i)
    (halive : i.isDeleting = false) :
    Scripted i [] ((reconcile cfg key).run (overheard b s) []) := by
  rw [reconcile_eq]
  refine (pays_opening key).scripted_bind (fun found acts _ hrun => ?_) fun _ h => h.error
  cases found with
  | none => exact ⟨[], by simp [proceed, Pass.run, failure], rfl⟩
  | some j =>
    obtain rfl : i = j := hread.unique (readLast_calls hrun)
    rw [proceed, advance, if_neg (by simp [halive])]
    exact scripted_converge cfg key.ns acts

theorem verb_of_tearsDown {ns : String} {r : Request} (h : r.TearsDown ns j) :
    r.verb ≠ .create := by
  cases h <;> exact nofun

/-- A pass that brings no Instance to what it declares creates nothing, says so of nothing, and does
not end because of a channel. -/
theorem silent_of_deleting
    (hdeleting : ∀ j, ReadLast key (calls cfg key b s) j → j.isDeleting = true) :
    (∀ c ∈ calls cfg key b s, c.request.verb ≠ .create) ∧
      Paid i Farewell none ((reconcile cfg key).run (overheard b s) []).2 ∧
      Spared ((reconcile cfg key).run (overheard b s) []).1 := by
  have plain : ∀ c ∈ ((opening key).run (amid b s) []).2, c.request.verb ≠ .create := by
    intro c hc hverb
    rcases (asks_opening key).mem_run hc with hnil | hkind
    · cases hnil
    · generalize c.request = r at hverb hkind
      cases r with
      | create child ns object => exact child.kind_ne_inst hkind
      | getInstance | get | list | listRuns | delete | patchFinalizers | patchStatus => cases hverb
  obtain ⟨during, hopened, hpaid, hspared⟩ :=
    (pays_opening (i := i) (P := Farewell) key).run b s []
  cases hrun : (opening key).run (overheard b s) [] with
  | mk found acts =>
    rw [hrun] at hopened hspared
    obtain rfl : acts = during := hopened
    rw [calls, reconcile_eq, run_bind, run_bind, hrun, run_opening hrun]
    rw [run_opening hrun] at plain
    rcases found with e | _ | j
    · exact ⟨plain, hpaid, hspared.error⟩
    · exact ⟨plain, hpaid, spared_ok _⟩
    · have hj : j.isDeleting = true := hdeleting j (readLast_calls hrun)
      have hproceed : proceed cfg key (some j) = teardown cfg.intervals key.ns j := by
        rw [proceed, advance, if_pos hj]
      obtain ⟨rest, hrest, hpaid', hspared'⟩ :=
        (pays_teardown (i := i) cfg.intervals key.ns j).run b s acts
      dsimp only
      rw [hproceed]
      refine ⟨fun c hc => ?_, hrest ▸ hpaid.append hpaid', hspared'⟩
      rcases (asks_teardown cfg.intervals).mem_run hc with hold | hnew
      · exact plain c hold
      · exact verb_of_tearsDown hnew

/-- Whatever others do, and wherever requests fail and a pass is cancelled, what is seen of a pass
that brings its Instance to what it declares is determined by its calls and by how it ends.
Directly after each creation that was answered without an error comes the event that tells of the
child, and there is no other event, but that of the failure in the end, if the pass ends because of
a channel and the Instance was not read in the error phase.  Other passes create nothing and tell of
no creation and no failure. -/
theorem announced (cfg : Config) (key : Key) (b : Company) (s : Store) :
    let pass := (reconcile cfg key).run (overheard b s) []
    let log := calls cfg key b s
    (∀ i, ReadLast key log i → i.isDeleting = false →
        pass.2 = script i log ++ ((failure i pass.1).map Act.event).toList) ∧
      ((∀ i, ReadLast key log i → i.isDeleting = true) →
        (∀ c ∈ log, c.request.verb ≠ .create) ∧ (∀ e, .event e ∈ pass.2 → Farewell e) ∧
          Spared pass.1) := by
  refine ⟨fun i hread halive => ?_, fun hdeleting => ?_⟩
  · obtain ⟨during, hacts, hpaid⟩ := scripted_reconcile hread halive
    have hcalls : calls cfg key b s = callsOf during := by
      rw [calls_eq, hacts, callsOf_append]
      cases failure i ((reconcile cfg key).run (overheard b s) []).1 <;> simp [callsOf, Act.call?]
    have hscript : during = script i (callsOf during) := hpaid.eq_script
    rw [hcalls, ← hscript]
    exact hacts
  · obtain ⟨hcalls, hpaid, hspared⟩ := silent_of_deleting (i := default) hdeleting
    refine ⟨hcalls, fun e he => hpaid.of_event ?_ he, hspared⟩
    rwa [← calls_eq]

/-- A run that leaves an Instance with two channels, one of them with a session. -/
def twofold : List Operation :=
  [.insertInstance {
      metadata := {
        name := some "bot"
        ns := some "tenant"
        finalizers := some [Instance.marker] }
      spec := { channels := [{ channel := .whatsapp }, { channel := .slack }] } }]

/-- Somebody who creates the session store first, and a fault for the second workload. -/
def meddler : Company where
  others n :=
    if n = 2 then [.request (.create .volumeClaim "tenant"
      { metadata := { name := some (Naming.sessionStore "bot" .whatsapp) } })]
    else if n = 6 then [.failTimes .create .deployment 1 (.unavailable "down")]
    else []

/-- A session store that somebody else has created is not told of, the first workload is, and so is
the failure of the second channel. -/
theorem announced_amid_meddling :
    let key : Key := ⟨"tenant", "bot"⟩
    let s := Store.empty.run twofold
    let pass := (reconcile {} key).run (overheard meddler s) []
    let log := calls {} key meddler s
    ∃ i, ReadLast key log i ∧ i.isDeleting = false ∧
      pass.2 = script i log ++ ((failure i pass.1).map Act.event).toList ∧
      pass.2.filterMap Act.event? = [.workloadCreated i "bot-channel-whatsapp",
        .convergeFailed i "channel slack failed to converge: store unavailable: down"] := by
  intro key s pass log
  let i : Instance := (s.find? .inst key).getD {}
  have halive : i.isDeleting = false := by decide +kernel
  have hevents : pass.2.filterMap Act.event? = [.workloadCreated i "bot-channel-whatsapp",
      .convergeFailed i "channel slack failed to converge: store unavailable: down"] := by
    decide +kernel
  have hread : ReadLast key log i := by
    obtain ⟨rest, hlog⟩ := calls_eq_cons {} key meddler s
    have hrest : ∀ c ∈ log.tail, c.request.verb = .get → c.request.kind ≠ .inst := by decide +kernel
    refine ⟨[], _, rest, hlog, ⟨rfl, by decide +kernel⟩, fun c hc k hk => hrest c ?_ ?_ ?_⟩
    · rwa [show log = _ from hlog]
    · rw [hk]
      rfl
    · rw [hk]
      rfl
  exact ⟨i, hread, halive, (announced {} key meddler s).1 i hread halive, hevents⟩

end Pass

end WorkloadOperator
