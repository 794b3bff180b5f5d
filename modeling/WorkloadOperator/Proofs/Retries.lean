import WorkloadOperator.Pass.Reconcile
import WorkloadOperator.Proofs.Alone
import WorkloadOperator.Proofs.Children
import WorkloadOperator.Proofs.Providing
import WorkloadOperator.Proofs.World

/-!
# Attempts add up

A pass that is hit by faults or cancelled leaves some children out, and the next one
finds what was created before.  Each child that a pass creates is the one that is
wanted under its name, so the children of an Instance are the same after any number
of attempts and a last one that is not disturbed, as after an undisturbed pass alone
(`same_children`).
-/

namespace WorkloadOperator

open Store

namespace Store

/-- Whether a request is told that a child is there already which is not. -/
def Misreported (s : Store) : (r : Request) → r.Answer → Prop
  | .create c ns o, .error (.alreadyExists _) => s.find? c.kind ⟨ns, c.kind.nameOf o⟩ = none
  | _, _ => False

instance (s : Store) : (r : Request) → (answer : r.Answer) → Decidable (s.Misreported r answer)
  | .create c ns o, .error (.alreadyExists _) =>
    inferInstanceAs (Decidable (s.find? c.kind ⟨ns, c.kind.nameOf o⟩ = none))
  | .create _ _ _, .ok _ | .create _ _ _, .error (.notFound _) | .create _ _ _, .error (.conflict _)
  | .create _ _ _, .error (.unavailable _) | .create _ _ _, .error (.invalid _)
  | .getInstance _, _ | .get _ _, _ | .list _ _ _, _ | .delete _ _, _ | .listRuns _ _, _
  | .patchFinalizers _ _ _, _ | .patchStatus _ _ _, _ => isFalse id

/-- Whether the answer to a creation means that the child is there. -/
def Settles {α : Type} : Except Store.Error α → Prop
  | .ok _ => True
  | .error e => e.isAlreadyExists = true

end Store

namespace Pass

/-- The contract of a pass with an aim.  Before each request, any faults may be injected.
If the pass is undisturbed, then there are none, and it is not cancelled. -/
def pursuit (calm : Prop) (a : Aim) : Contract Store where
  grants _ r := a.Grants r
  answers s r answer s' := ∃ faults, (calm → faults = []) ∧
    ({ s with faults } : Store).serve r = (answer, s') ∧ ¬ s.Misreported r answer
  shows _ cancelled := calm → cancelled = false

variable {calm : Prop} {a : Aim}
  {goal : (c : Child) → Key → Option c.Object} {s s' : Store} {ε δ α β : Type}

/-- What a pass has come to from a store: it has kept the way to the goal. -/
structure OnWay (a : Aim) (goal : (c : Child) → Key → Option c.Object)
    (s s' : Store) : Prop where
  pursued : a.Pursued goal s'
  grows : s.Grows s'

theorem OnWay.refl (h : a.Pursued goal s) : OnWay a goal s s := ⟨h, Grows.refl s⟩

theorem OnWay.trans {s'' : Store} (h : OnWay a goal s s')
    (h' : OnWay a goal s' s'') : OnWay a goal s s'' :=
  ⟨h'.pursued, h.grows.trans h'.grows⟩

/-- What a part of a pass has come to: it has provided something, and it has not failed
if it was undisturbed. -/
structure Provided (calm : Prop) (a : Aim)
    (goal : (c : Child) → Key → Option c.Object) (s : Store) (now : α → Store → Prop)
    (result : Except ε α) (s' : Store) : Prop where
  onWay : OnWay a goal s s'
  succeeded : calm → result.isOk = true
  now : ∀ x, result = .ok x → now x s'

/-! ## Requests -/

theorem onWay_answers (hs : a.Pursued goal s) {r : Request} (hr : a.Grants r)
    {answer : r.Answer} (h : (pursuit calm a).answers s r answer s') :
    OnWay a goal s s' := by
  obtain ⟨faults, _, hserve, _⟩ := h
  have hs' : (({ s with faults } : Store).serve r).2 = s' := congrArg Prod.snd hserve
  have hpursued := (hs.faults faults).serve hr
  have hgrows := grows_serve (s := { s with faults }) hr
  rw [hs'] at hpursued hgrows
  refine ⟨hpursued, fun c k o ho => hgrows c k o ?_⟩
  rw [find?_faults]
  exact ho

/-- A disturbed request may meet a fault, and every other one is answered. -/
theorem answers_cases {r : Request} {answer : r.Answer}
    (h : (pursuit calm a).answers s r answer s') :
    (¬ calm ∧ ∃ e faults, answer = .error e ∧ s' = { s with faults } ∧ ¬ s.Misreported r answer) ∨
      ∃ faults, ({ s with faults } : Store).answer r = (answer, s') := by
  obtain ⟨faults, hcalm, hserve, htrue⟩ := h
  cases hstrike : strike r.verb r.kind faults with
  | none =>
    refine .inr ⟨faults, ?_⟩
    rw [← hserve]
    simp only [Store.serve, hstrike]
  | some struck =>
    refine .inl ⟨fun hc => ?_, struck.1, struck.2, ?_⟩
    · rw [hcalm hc] at hstrike
      cases hstrike
    · simp only [Store.serve, hstrike] at hserve
      cases hserve
      exact ⟨rfl, rfl, htrue⟩

/-- A read tells what is there. -/
theorem answers_read {r : Request} (found : Store → r.Reply)
    (hread : ∀ s : Store, s.answer r = (.ok (found s), s)) {answer : r.Answer}
    (h : (pursuit calm a).answers s r answer s') :
    (calm → answer.isOk = true) ∧ ∀ x, answer = .ok x → found s' = x := by
  rcases answers_cases h with ⟨hdisturbed, e, faults, rfl, _⟩ | ⟨faults, hanswer⟩
  · exact ⟨fun hc => absurd hc hdisturbed, fun x hx => nomatch hx⟩
  · rw [hread] at hanswer
    cases hanswer
    refine ⟨fun _ => rfl, fun x hx => ?_⟩
    cases hx
    rfl

theorem settles_answer {c : Child} (ns : String) {o : c.Object} (hname : c.kind.nameOf o ≠ "") :
    Settles (s.answer (.create c ns o)).1 ∧
      ((s.answer (.create c ns o)).2.find? c.kind ⟨ns, c.kind.nameOf o⟩).isSome = true := by
  simp only [Store.answer, if_neg hname]
  split
  · next hfound => exact ⟨rfl, hfound⟩
  · refine ⟨trivial, ?_⟩
    rw [find?_record, find?_insert, if_pos rfl]
    rfl

/-- A creation that is settled leaves the child there. -/
theorem answers_create {c : Child} {ns : String} {o : c.Object}
    {answer : (Request.create c ns o).Answer} (hname : c.kind.nameOf o ≠ "")
    (h : (pursuit calm a).answers s (.create c ns o) answer s') :
    (calm → Settles answer) ∧
      (Settles answer → (s'.find? c.kind ⟨ns, c.kind.nameOf o⟩).isSome = true) := by
  rcases answers_cases h with ⟨hdisturbed, e, faults, rfl, rfl, htrue⟩ | ⟨faults, hanswer⟩
  · refine ⟨fun hc => absurd hc hdisturbed, fun hsettles => ?_⟩
    rw [find?_faults]
    cases e with
    | alreadyExists what =>
      cases hfind : s.find? c.kind ⟨ns, c.kind.nameOf o⟩ with
      | none => exact absurd hfind htrue
      | some o' => rfl
    | notFound | conflict | unavailable | invalid => cases hsettles
  · have hsettled := settles_answer (s := { s with faults }) ns hname
    rw [hanswer] at hsettled
    exact ⟨fun _ => hsettled.1, fun _ => hsettled.2⟩

/-- A patch for the version that is there succeeds if it is undisturbed. -/
theorem answers_patchFinalizers {k : Key} {i : Instance} {finalizers : List String}
    {answer : (Request.patchFinalizers k i.metadata.resourceVersion finalizers).Answer}
    (hi : s.find? .inst k = some i)
    (h : (pursuit calm a).answers s
      (.patchFinalizers k i.metadata.resourceVersion finalizers) answer s') :
    calm → answer.isOk = true := by
  rcases answers_cases h with ⟨hdisturbed, _⟩ | ⟨faults, hanswer⟩
  · exact fun hc => absurd hc hdisturbed
  · intro _
    have hi' : ({ s with faults } : Store).find? .inst k = some i := (find?_faults faults).trans hi
    have hok := ok_patchFinalizers hi' finalizers
    rw [hanswer] at hok
    rw [show answer = .ok () from hok]
    rfl

/-! ## Parts of passes -/

/-- A part of a pass goes on the way. -/
abbrev Goes (calm : Prop) (a : Aim)
    (goal : (c : Child) → Key → Option c.Object) (p : Pass ε α) (s : Store) : Prop :=
  p.Keeps (pursuit calm a) s fun _ s' => OnWay a goal s s'

/-- A part of a pass provides something. -/
abbrev Provides (calm : Prop) (a : Aim)
    (goal : (c : Child) → Key → Option c.Object) (p : Pass ε α) (s : Store)
    (now : α → Store → Prop) : Prop :=
  p.Keeps (pursuit calm a) s (Provided calm a goal s now)

theorem Provides.bind {p : Pass ε α} {f : α → Pass ε β} {now : α → Store → Prop}
    {later : β → Store → Prop} (h : Provides calm a goal p s now)
    (hf : ∀ x s', OnWay a goal s s' → now x s' →
      Provides calm a goal (f x) s' later) :
    Provides calm a goal (p.bind f) s later := by
  refine Keeps.bind h ?_ ?_
  · intro x s' hp
    refine (hf x s' hp.onWay (hp.now x rfl)).mono ?_
    intro result s'' hq
    exact ⟨hp.onWay.trans hq.onWay, hq.succeeded, hq.now⟩
  · intro e s' hp
    exact ⟨hp.onWay, hp.succeeded, fun x hx => nomatch hx⟩

theorem Provides.mapError {p : Pass ε α} {now : α → Store → Prop}
    (h : Provides calm a goal p s now) (g : ε → δ) :
    Provides calm a goal (p.mapError g) s now := by
  refine keeps_mapError.2 (Keeps.mono h ?_)
  intro result s' hp
  refine ⟨hp.onWay, ?_, ?_⟩
  · intro hc
    have := hp.succeeded hc
    cases result
    · exact this
    · rfl
  · intro x hx
    cases result with
    | error e => cases hx
    | ok y =>
      cases hx
      exact hp.now x rfl

theorem Provides.attempt {p : Pass ε α} {now : α → Store → Prop}
    (h : Provides calm a goal p s now) :
    (p.attempt (δ := δ)).Keeps (pursuit calm a) s fun result s' =>
      ∃ r, result = .ok r ∧ Provided calm a goal s now r s' :=
  keeps_attempt.2 (Keeps.mono h fun result _ hp => ⟨result, rfl, hp⟩)

theorem provides_done (hs : a.Pursued goal s) {x : α} {now : α → Store → Prop}
    (hx : now x s) : Provides calm a goal (done x : Pass ε α) s now :=
  ⟨.refl hs, fun _ => rfl, fun y hy => by cases hy; exact hx⟩

/-- A part may fail if it is disturbed. -/
theorem provides_fail (hs : a.Pursued goal s) {e : ε} {now : α → Store → Prop} (h : ¬ calm) :
    Provides calm a goal (fail e : Pass ε α) s now :=
  ⟨.refl hs, fun hc => absurd hc h, fun _ hx => nomatch hx⟩

/-- A child that is wanted if it is missing is there after it was provided. -/
theorem provides_ensure (hs : a.Pursued goal s) {c : Child} {k : Key} {o : c.Object}
    (hwanted : s.find? c.kind k = none → a.wanted c k = some o) {present : c.Object → α}
    {created : Pass Store.Error α} {raced : α} (hquiet : Quiet created) :
    Provides calm a goal (ensure c k o present created raced) s fun _ s' =>
      (s'.find? c.kind k).isSome = true := by
  have hget {answer : (Request.get c k).Answer} {s' : Store}
      (ha : (pursuit calm a).answers s (.get c k) answer s') :
      OnWay a goal s s' ∧ (calm → answer.isOk = true) ∧
        ∀ found, answer = .ok found → s'.find? c.kind k = found :=
    ⟨onWay_answers (r := .get c k) hs trivial ha,
      answers_read (fun s => s.find? c.kind k) (fun _ => rfl) ha⟩
  refine keeps_ensure hquiet trivial ?_ ?_ ?_
  · intro x s' ha
    obtain ⟨hway, _, hfound⟩ := hget ha
    exact ⟨hway, fun _ => rfl, fun _ _ => by rw [hfound _ rfl]; rfl⟩
  · intro e s' ha
    obtain ⟨hway, hcalm, _⟩ := hget ha
    exact ⟨hway, fun hc => (nomatch hcalm hc), fun _ hx => nomatch hx⟩
  · intro s' ha
    obtain ⟨hway, _, hfound⟩ := hget ha
    have hwanted := hwanted (hway.grows.eq_none (hfound _ rfl))
    have hplace : (⟨k.ns, c.kind.nameOf o⟩ : Key) = k := by
      rw [(Aim.wanted_place hwanted).2]
    have hcreate {answer : (Request.create c k.ns o).Answer} {s'' : Store}
        (ha' : (pursuit calm a).answers s' (.create c k.ns o) answer s'') :
        OnWay a goal s s'' ∧ (calm → Settles answer) ∧
          (Settles answer → (s''.find? c.kind k).isSome = true) := by
      have hway' := onWay_answers (r := .create c k.ns o) hway.pursued (hplace.symm ▸ hwanted) ha'
      have hsettled := answers_create (Aim.name_ne_empty hwanted) ha'
      rw [hplace] at hsettled
      exact ⟨hway.trans hway', hsettled⟩
    refine ⟨hplace.symm ▸ hwanted, ?_, ?_, ?_⟩
    · intro x s'' ha' y
      obtain ⟨hway', _, hthere⟩ := hcreate ha'
      exact ⟨hway', fun _ => rfl, fun _ _ => hthere trivial⟩
    · intro what s'' ha'
      obtain ⟨hway', _, hthere⟩ := hcreate ha'
      exact ⟨hway', fun _ => rfl, fun _ _ => hthere rfl⟩
    · intro e s'' he ha'
      obtain ⟨hway', hcalm, _⟩ := hcreate ha'
      exact ⟨hway', fun hc => (nomatch he.symm.trans (hcalm hc)), fun _ hx => nomatch hx⟩

/-! ## Channels -/

variable {i : Instance} {d : Channel.Declaration}

theorem provides_provideSession (hs : a.Pursued goal s)
    (hwanted : s.find? .volumeClaim (a.sessionKey d) = none →
      a.wanted .volumeClaim (a.sessionKey d) = some (a.owner.sessionStore d a.adapters)) :
    Provides calm a goal (provideSession a.adapters i a.owner d) s fun _ s' =>
      (s'.find? .volumeClaim (a.sessionKey d)).isSome = true := by
  rw [provideSession_eq]
  exact provides_ensure (c := .volumeClaim) hs hwanted (quiet_publish _ _)

theorem provides_provideWorkload (hs : a.Pursued goal s)
    (hwanted : s.find? .deployment (a.workloadKey d) = none →
      a.wanted .deployment (a.workloadKey d) = some (a.owner.workload d a.adapters)) :
    Provides calm a goal (provideWorkload a.adapters i a.owner d) s fun _ s' =>
      (s'.find? .deployment (a.workloadKey d)).isSome = true := by
  rw [provideWorkload_eq]
  exact provides_ensure (c := .deployment) hs hwanted (quiet_publish _ _)

/-- The children for a declaration are provided after those for the declarations
before it. -/
theorem provides_serveChannel (hs : a.Pursued goal s) {served later : List Channel.Declaration}
    (hchannels : a.spec.channels = served ++ d :: later)
    (hserved : ∀ d' ∈ served, a.Served s d') :
    Provides calm a goal (serveChannel a.adapters i a.owner d) s fun _ s' => a.Served s' d := by
  have hworkload {s' : Store} (hway : OnWay a goal s s') :
      Provides calm a goal (provideWorkload a.adapters i a.owner d) s' fun _ s'' =>
        (s''.find? .deployment (a.workloadKey d)).isSome = true :=
    provides_provideWorkload hway.pursued fun hmissing =>
      Aim.wanted_workload hchannels (fun d' hd' => (hserved d' hd').mono hway.grows) hmissing
  unfold serveChannel
  split
  · next hkeeps =>
    refine Provides.bind (provides_provideSession hs
      (Aim.wanted_session hchannels hserved hkeeps)) ?_
    intro _ s' hway hsession
    refine (hworkload hway).mono ?_
    intro result s'' h
    refine ⟨h.onWay, h.succeeded, fun link hlink => ⟨h.now link hlink, fun _ => ?_⟩⟩
    exact h.onWay.grows.isSome (c := .volumeClaim) hsession
  · next hnot =>
    refine (hworkload (.refl hs)).mono ?_
    intro result s'' h
    exact ⟨h.onWay, h.succeeded, fun link hlink => ⟨h.now link hlink, fun hkeeps => absurd hkeeps hnot⟩⟩

theorem provides_checkpoint (hs : a.Pursued goal s) :
    Provides calm a goal checkpoint s fun _ _ => True := by
  refine keeps_checkpoint.2 ⟨fun hshows => ?_, fun _ => ?_⟩
  · exact provides_fail hs fun hc => nomatch hshows hc
  · exact provides_done hs trivial

theorem provides_serveEach (hs : a.Pursued goal s) (served : List Channel.Declaration)
    {later : List Channel.Declaration} (hchannels : a.spec.channels = served ++ later)
    (hserved : ∀ d ∈ served, a.Served s d) :
    Provides calm a goal (serveEach a.adapters i a.owner later) s fun _ s' =>
      ∀ d ∈ a.spec.channels, a.Served s' d := by
  induction later generalizing s served with
  | nil =>
    rw [List.append_nil] at hchannels
    exact provides_done hs (hchannels ▸ hserved)
  | cons d later ih =>
    refine Provides.bind (provides_checkpoint hs) ?_
    intro _ s₁ hway₁ _
    have hserved₁ : ∀ d' ∈ served, a.Served s₁ d' := fun d' hd' => (hserved d' hd').mono hway₁.grows
    refine Provides.bind ((provides_serveChannel hway₁.pursued hchannels hserved₁).mapError _) ?_
    intro link s₂ hway₂ hd
    -- this declaration is served now, and counts as one of those before the next one
    have hchannels' : a.spec.channels = (served ++ [d]) ++ later := by
      rw [hchannels, List.append_assoc]
      rfl
    refine Provides.bind (ih hway₂.pursued (served ++ [d]) hchannels' ?_) ?_
    · intro d' hd'
      rcases List.mem_append.1 hd' with hold | hnew
      · exact (hserved₁ d' hold).mono hway₂.grows
      · cases List.mem_singleton.1 hnew
        exact hd
    · intro reports s₃ hway₃ hall
      exact provides_done hway₃.pursued hall

/-! ## The memory store -/

/-- A memory store that is wanted is there after it was provided. -/
theorem provides_createMemory (hs : a.Pursued goal s) (hwants : a.wantsMemory = true) :
    Provides calm a goal (createMemory a.owner) s fun _ s' =>
      (s'.find? .configMap a.memoryKey).isSome = true := by
  rw [createMemory_eq]
  exact provides_ensure (c := .configMap) hs (fun _ => Aim.wanted_memory hwants) (quiet_done _)

/-- The pass goes on without the memory store, but only if it was disturbed. -/
theorem keeps_provideMemory (hs : a.Pursued goal s) (hspec : i.spec = a.spec) :
    (provideMemory (ε := ε) i a.owner).Keeps (pursuit calm a) s fun result s' =>
      OnWay a goal s s' ∧ (∃ x, result = .ok x) ∧
        (calm → a.wantsMemory = true → (s'.find? .configMap a.memoryKey).isSome = true) := by
  have hwants : i.wantsMemory = a.wantsMemory := by
    rw [Aim.wantsMemory, Instance.wantsMemory, hspec]
    rfl
  unfold provideMemory
  rw [hwants]
  split
  · next hyes =>
    refine Keeps.bind (provides_createMemory hs hyes).attempt ?_ ?_
    · rintro r s' ⟨r', hr, h⟩
      cases hr
      cases r with
      | error e => exact ⟨h.onWay, ⟨(), rfl⟩, fun hc => nomatch h.succeeded hc⟩
      | ok created =>
        have hthere := h.now created rfl
        cases created with
        | true => exact ⟨h.onWay, ⟨(), rfl⟩, fun _ _ => hthere⟩
        | false => exact ⟨h.onWay, ⟨(), rfl⟩, fun _ _ => hthere⟩
    · rintro e s' ⟨r, hr, _⟩
      cases hr
  · next hno => exact ⟨.refl hs, ⟨(), rfl⟩, fun _ hyes => absurd hyes hno⟩

/-! ## Whole passes -/

/-- What a pass has come to in the end: if it was undisturbed, then all children are
there that are wanted. -/
structure Ended (calm : Prop) (a : Aim) (goal : (c : Child) → Key → Option c.Object) (s' : Store) :
    Prop where
  pursued : a.Pursued goal s'
  complete : calm → a.Complete s'

/-- A part that asks what it may goes on the way. -/
theorem goes_ask (hs : a.Pursued goal s) {r : Request} (hr : a.Grants r) :
    Goes calm a goal (ask r) s :=
  keeps_ask.2 ⟨hr, fun _ _ h => onWay_answers hs hr h⟩

theorem Goes.bind {p : Pass ε α} {f : α → Pass ε β} (h : Goes calm a goal p s)
    (hf : ∀ x s', OnWay a goal s s' → Goes calm a goal (f x) s') : Goes calm a goal (p.bind f) s := by
  refine Keeps.bind h ?_ fun _ _ hway => hway
  intro x s' hway
  exact (hf x s' hway).mono fun _ _ hway' => hway.trans hway'

theorem goes_checkpoint (hs : a.Pursued goal s) : Goes calm a goal checkpoint s :=
  keeps_checkpoint.2 ⟨fun _ => .refl hs, fun _ => .refl hs⟩

theorem goes_countRuns (hs : a.Pursued goal s) (ns owner : String) :
    Goes calm a goal (countRuns ns owner) s :=
  Goes.bind (goes_ask hs trivial) fun _ _ hway => .refl hway.pursued

theorem goes_recordStatus (hs : a.Pursued goal s) (ns : String) (desired : Instance.Status) :
    Goes calm a goal (recordStatus ns i desired) s := by
  unfold recordStatus
  split
  · exact keeps_mapError.2 (goes_ask hs trivial)
  · exact OnWay.refl hs

theorem goes_recordFailure (hs : a.Pursued goal s) (ns : String) (cause : Pass.Error) :
    Goes calm a goal (recordFailure (ε := ε) ns i cause) s := by
  simp only [recordFailure]
  split
  · exact OnWay.refl hs
  · refine Goes.bind (keeps_attempt.2 (goes_ask hs trivial)) ?_
    exact fun _ _ hway => .refl hway.pursued

/-- Once all children are there, nothing matters any more. -/
theorem Goes.ended {p : Pass ε α} (h : Goes calm a goal p s) (hc : calm → a.Complete s) :
    p.Keeps (pursuit calm a) s fun _ s' => Ended calm a goal s' :=
  Keeps.mono h fun _ _ hway => ⟨hway.pursued, fun hcalm => (hc hcalm).mono hway.grows⟩

theorem ended_converge {cfg : Config} (hs : a.Pursued goal s) (hi : a.Declares i)
    (hcfg : cfg.adapters = a.adapters) :
    (converge cfg a.key.ns i).Keeps (pursuit calm a) s fun _ s' => Ended calm a goal s' := by
  unfold converge
  split
  · next hnone =>
    rw [hi.uid] at hnone
    cases hnone
  · next uid huid =>
    have howner : (⟨i.name, a.key.ns, uid⟩ : Owner) = a.owner := by
      rw [hi.uid] at huid
      cases huid
      rw [hi.name]
      rfl
    simp only [howner, hcfg, serveChannels, hi.spec]
    refine Keeps.bind (provides_serveEach hs [] rfl fun d hd => nomatch hd).attempt ?_ ?_
    · rintro r s₁ ⟨r', hr, h₁⟩
      cases hr
      cases r with
      | error e =>
        have hdisturbed : ¬ calm := fun hc => nomatch h₁.succeeded hc
        have failed (e : Pass.Error) : ((recordFailure a.key.ns i e).bind fun _ =>
            (.fail e : Pass Pass.Error Action)).Keeps (pursuit calm a) s₁ fun _ s' =>
              Ended calm a goal s' := by
          refine Goes.ended ?_ fun hc => absurd hc hdisturbed
          exact Goes.bind (goes_recordFailure h₁.onWay.pursued a.key.ns e) fun _ _ hway => .refl hway.pursued
        cases e with
        | cancelled => exact ⟨h₁.onWay.pursued, fun hc => absurd hc hdisturbed⟩
        | store cause => exact failed _
        | channel c cause => exact failed _
        | invariant what => exact failed _
      | ok channels =>
        have hserved := h₁.now channels rfl
        refine Keeps.bind (provides_checkpoint h₁.onWay.pursued) ?_ ?_
        · intro _ s₂ h₂
          refine Keeps.bind (keeps_provideMemory h₂.onWay.pursued hi.spec) ?_ ?_
          · rintro _ s₃ ⟨h₃, _, hmemory⟩
            have hcomplete : calm → a.Complete s₃ := fun hc =>
              Aim.complete_of_served (fun d hd => (hserved d hd).mono (h₂.onWay.trans h₃).grows)
                (hmemory hc)
            refine Goes.ended ?_ hcomplete
            refine Goes.bind (keeps_mapError.2 (goes_countRuns h₃.pursued _ _)) ?_
            intro activeRuns s₄ h₄
            refine Goes.bind (goes_checkpoint h₄.pursued) ?_
            intro _ s₅ h₅
            exact Goes.bind (goes_recordStatus h₅.pursued _ _) fun _ _ hway => .refl hway.pursued
          · rintro e s₃ ⟨_, ⟨x, hx⟩, _⟩
            cases hx
        · intro e s₂ h₂
          exact ⟨h₂.onWay.pursued, fun hc => nomatch h₂.succeeded hc⟩
    · rintro e s₁ ⟨r, hr, _⟩
      cases hr

/-- The Instance that is read is there, and has the aim. -/
theorem provides_readInstance (hs : a.Pursued goal s) :
    Provides calm a goal (askStore (.getInstance a.key)) s fun found s' =>
      ∃ i, found = some i ∧ s'.find? .inst a.key = some i ∧ a.Declares i := by
  refine Provides.mapError ?_ _
  refine keeps_ask.2 ⟨trivial, ?_⟩
  intro answer s' h
  have hway := onWay_answers (r := .getInstance a.key) hs trivial h
  obtain ⟨hcalm, hfound⟩ := answers_read (fun s => s.find? .inst a.key) (fun _ => rfl) h
  obtain ⟨i, hi, hdeclares⟩ := hway.pursued.declared
  exact ⟨hway, hcalm, fun found hf => ⟨i, (hfound found hf).symm.trans hi, hi, hdeclares⟩⟩

theorem provides_mark (hs : a.Pursued goal s) (hfind : s.find? .inst a.key = some i)
    (hi : a.Declares i) : Provides calm a goal (mark a.key.ns i) s fun _ _ => True := by
  have hkey : (⟨a.key.ns, i.name⟩ : Key) = a.key := by rw [hi.name]
  unfold mark
  rw [hkey]
  refine Provides.mapError ?_ _
  refine keeps_ask.2 ⟨trivial, ?_⟩
  intro answer s' h
  exact ⟨onWay_answers (r := .patchFinalizers ..) hs trivial h, answers_patchFinalizers hfind h,
    fun _ _ => trivial⟩

theorem Provides.ended {p : Pass ε α} {f : α → Pass ε β} {now : α → Store → Prop}
    (h : Provides calm a goal p s now)
    (hf : ∀ x s', a.Pursued goal s' → now x s' →
      (f x).Keeps (pursuit calm a) s' fun _ s'' => Ended calm a goal s'') :
    (p.bind f).Keeps (pursuit calm a) s fun _ s' => Ended calm a goal s' := by
  refine Keeps.bind h (fun x s' hp => hf x s' hp.onWay.pursued (hp.now x rfl)) ?_
  intro e s' hp
  exact ⟨hp.onWay.pursued, fun hc => nomatch hp.succeeded hc⟩

theorem ended_advance {cfg : Config} (hs : a.Pursued goal s) (hi : a.Declares i)
    (hcfg : cfg.adapters = a.adapters) :
    (advance cfg a.key.ns i).Keeps (pursuit calm a) s fun _ s' => Ended calm a goal s' := by
  unfold advance
  rw [hi.alive]
  exact ended_converge hs hi hcfg

/-- Every pass goes on the way, and an undisturbed one comes to the end of it. -/
theorem ended_reconcile {cfg : Config} (hs : a.Pursued goal s) (hcfg : cfg.adapters = a.adapters) :
    (reconcile cfg a.key).Keeps (pursuit calm a) s fun _ s' => Ended calm a goal s' := by
  refine (provides_readInstance hs).ended ?_
  rintro _ s₁ hs₁ ⟨i, rfl, hfind, hi⟩
  rcases Instance.stage_of_not_isDeleting hi.alive with hstage | hstage
  · simp only [hstage]
    refine keeps_bind.2 (keeps_checkpoint.2 ⟨fun hshows => ?_, fun _ => ?_⟩)
    · exact ⟨hs₁, fun hc => nomatch hshows hc⟩
    · refine (provides_mark hs₁ hfind hi).ended ?_
      intro _ s₂ hs₂ _
      refine (provides_readInstance hs₂).ended ?_
      rintro _ s₃ hs₃ ⟨fresh, rfl, _, hfresh⟩
      exact ended_advance hs₃ hfresh hcfg
  · simp only [hstage]
    exact ended_converge hs₁ hi hcfg

/-! ## Undisturbed passes -/

/-- The store after a pass that meets no faults and is not cancelled. -/
def undisturbed (cfg : Config) (key : Key) (s : Store) : Store :=
  ((reconcile cfg key).run (alone false) { s with faults := [] }).2

theorem not_misreported_answer (s : Store) (r : Request) : ¬ s.Misreported r (s.answer r).1 := by
  cases r with
  | create c ns o =>
    simp only [Store.answer]
    split
    · exact id
    · split
      · next hfound =>
        intro hnone
        rw [show s.find? c.kind ⟨ns, c.kind.nameOf o⟩ = none from hnone] at hfound
        cases hfound
      · exact id
  | getInstance | get | list | delete | listRuns | patchFinalizers | patchStatus => exact id

/-- The contract of an undisturbed pass is fulfilled. -/
theorem answers_faultless (hs : Faultless s) (r : Request) :
    Faultless (s.serve r).2 ∧ (pursuit calm a).answers s r (s.serve r).1 (s.serve r).2 := by
  have hserve := serve_of_no_faults hs r
  have hsame : ({ s with faults := [] } : Store) = s := by
    rw [← hs]
  refine ⟨?_, [], fun _ => rfl, ?_, ?_⟩
  · rw [hserve]
    exact (faults_answer s r).trans hs
  · rw [hsame]
  · rw [hserve]
    exact not_misreported_answer s r

theorem ended_undisturbed {cfg : Config} (hs : a.Pursued goal s)
    (hcfg : cfg.adapters = a.adapters) : Ended True a goal (undisturbed cfg a.key s) := by
  have hfaultless : Faultless { s with faults := [] } := rfl
  have hkeeps : (reconcile cfg a.key).Keeps (pursuit True a) { s with faults := [] }
      fun _ s' => Ended True a goal s' := ended_reconcile (hs.faults []) hcfg
  exact (Keeps.run id Faultless hkeeps hfaultless (fun _ r h _ => answers_faultless h r)
    (fun _ _ => rfl) fun _ _ => rfl).2

/-- An undisturbed pass comes to the goal. -/
theorem children_undisturbed {cfg : Config} (hs : a.Pursued goal s)
    (hcfg : cfg.adapters = a.adapters) (c : Child) (k : Key) :
    ((undisturbed cfg a.key s).find? c.kind k).map (bare c.kind) = goal c k := by
  have ended := ended_undisturbed hs hcfg
  rw [← (ended.complete trivial).completed_eq]
  exact ended.pursued.completed c k

end Pass

/-! ## Attempts -/

open Pass

/-- The next request of a pass will be told that a child is there already which is not. -/
def Flight.Misled (s : Store) (f : Flight) : Prop :=
  match f.rest with
  | .request r _ => s.Misreported r (s.serve r).1
  | .done _ | .fail _ | .poll _ | .publish _ _ => False

instance (s : Store) (f : Flight) : Decidable (f.Misled s) :=
  match h : f.rest with
  | .request r _ => decidable_of_iff (s.Misreported r (s.serve r).1) (by simp [Flight.Misled, h])
  | .done _ | .fail _ | .poll _ | .publish _ _ => isFalse (by simp [Flight.Misled, h])

/-- A pass under way keeps to its contract with what is left of it. -/
def Flight.Pursues (a : Aim) (s : Store) (f : Flight) : Prop :=
  ¬ f.IsOver → f.key = a.key ∧
    ∃ faults, f.rest.Keeps (pursuit False a) { s with faults } fun _ _ => True

variable {a : Aim} {goal : (c : Child) → Key → Option c.Object}

/-- A step of a pass keeps the way to the goal. -/
theorem Flight.Pursues.turn {s : Store} {f : Flight} (h : f.Pursues a s) (hs : a.Pursued goal s)
    (hf : ¬ f.Misled s) :
    a.Pursued goal (f.turn s).2 ∧ (f.turn s).1.Pursues a (f.turn s).2 ∧
      ∀ g : Flight, g.key ≠ f.key → g.Pursues a s → g.Pursues a (f.turn s).2 := by
  obtain ⟨key, rest, cancelled⟩ := f
  cases rest with
  | done x => exact ⟨hs, h, fun _ _ hg => hg⟩
  | fail e => exact ⟨hs, h, fun _ _ hg => hg⟩
  | request r next =>
    obtain ⟨rfl, faults, hgrants, hnext⟩ := h (fun ho => nomatch ho)
    refine ⟨hs.serve hgrants, fun _ => ⟨rfl, (s.serve r).2.faults, ?_⟩, ?_⟩
    · exact hnext _ _ ⟨s.faults, False.elim, rfl, hf⟩
    · intro g hne hg hgoing
      exact absurd (hg hgoing).1 hne
  | poll next =>
    obtain ⟨hkey, faults, hnext⟩ := h (fun ho => nomatch ho)
    refine ⟨hs, fun _ => ⟨hkey, faults, hnext cancelled False.elim⟩, fun _ _ hg => hg⟩
  | publish e next =>
    obtain ⟨hkey, faults, hnext⟩ := h (fun ho => nomatch ho)
    exact ⟨hs, fun _ => ⟨hkey, faults, hnext⟩, fun _ _ hg => hg⟩

/-- Whether an operation injects or clears faults. -/
def Operation.Disturbs : Operation → Prop
  | .fail _ _ _ | .failTimes _ _ _ _ | .clearFaults => True
  | .insertInstance _ | .insertDeployment _ _ | .insertRun _ _ | .touch _ | .requestDeletion _
  | .setReady _ _ | .setData _ _ | .setPhase _ _ | .request _ => False

instance : (o : Operation) → Decidable o.Disturbs
  | .fail _ _ _ | .failTimes _ _ _ _ | .clearFaults => isTrue trivial
  | .insertInstance _ | .insertDeployment _ _ | .insertRun _ _ | .touch _ | .requestDeletion _
  | .setReady _ _ | .setData _ _ | .setPhase _ _ | .request _ => isFalse id

theorem Operation.Disturbs.perform_eq {o : Operation} (h : o.Disturbs) (s : Store) :
    ∃ faults, s.perform o = { s with faults } := by
  cases o with
  | fail verb kind error => exact ⟨_, rfl⟩
  | failTimes verb kind times error =>
    cases times with
    | zero => exact ⟨s.faults, rfl⟩
    | succ n => exact ⟨_, rfl⟩
  | clearFaults => exact ⟨[], rfl⟩
  | insertInstance | insertDeployment | insertRun | touch | requestDeletion | setReady | setData
  | setPhase | request => cases h

namespace World

/-- The rules of a world in which passes for one Instance are alone: faults are injected
and cleared at any time, but none tells of a child that is not there. -/
def retrying (key : Key) : World.Rules where
  operation _ o := o.Disturbs
  start k := k = key
  turn s f := ¬ f.Misled s

instance (key : Key) (s : Store) (o : Operation) : Decidable ((retrying key).operation s o) :=
  inferInstanceAs (Decidable o.Disturbs)

instance (key k : Key) : Decidable ((retrying key).start k) := inferInstanceAs (Decidable (k = key))

instance (key : Key) (s : Store) (f : Flight) : Decidable ((retrying key).turn s f) :=
  inferInstanceAs (Decidable (¬ f.Misled s))

theorem retrying_upkeep (cfg : Config) (hcfg : cfg.adapters = a.adapters) :
    (retrying a.key).Upkeep cfg (a.Pursued goal) fun s f => f.Pursues a s where
  operation := by
    intro s o hs ho
    obtain ⟨faults, hperform⟩ := ho.perform_eq s
    rw [hperform]
    refine ⟨hs.faults faults, fun f hf hgoing => ?_⟩
    exact hf hgoing
  start := by
    rintro s key hs rfl _
    refine ⟨rfl, s.faults, Keeps.mono (ended_reconcile hs hcfg) ?_⟩
    exact fun _ _ _ => trivial
  cancel := fun _ _ h => h
  finished := fun _ _ ho hgoing => absurd ho hgoing
  turn := fun _ _ hs hf hturn => hf.turn hs hturn

variable {cfg : Config} {key : Key}

/-- After any attempts that failed, were cancelled or succeeded, an undisturbed pass
leaves the children that it would have left without the attempts.  What the store has
given to them when they were created does not count. -/
theorem same_children (operations : List Operation) {i : Instance}
    (hi : (Store.empty.run operations).find? .inst key = some i) (halive : i.isDeleting = false)
    {moves : List Move} (lawful : Lawful (retrying key).law cfg ⟨Store.empty.run operations, []⟩ moves)
    (c : Child) (k : Key) :
    ((undisturbed cfg key (run cfg ⟨Store.empty.run operations, []⟩ moves).store).find? c.kind k).map
        (bare c.kind) =
      ((undisturbed cfg key (Store.empty.run operations)).find? c.kind k).map (bare c.kind) := by
  have filed := filed_empty.run operations
  generalize Store.empty.run operations = s at hi lawful filed ⊢
  have hfiled := filed .inst key i hi
  obtain ⟨uid, huid⟩ := Option.isSome_iff_exists.1 hfiled.uid
  let a : Aim := ⟨key, uid, i.spec, cfg.adapters⟩
  have hdeclares : a.Declares i := ⟨hfiled.name, huid, rfl, halive⟩
  have hs : a.Pursued (a.completed s) s := ⟨filed, ⟨i, hi, hdeclares⟩, fun _ _ => rfl⟩
  -- the goal is what the initial store lacks, and both passes come to it
  have kept := (retrying_upkeep cfg rfl).run hs lawful
  rw [children_undisturbed (a := a) kept.sound rfl c k, children_undisturbed (a := a) hs rfl c k]

/-- An Instance that declares a channel twice, with different secrets. -/
def twiceDeclared : List Operation :=
  [.insertInstance {
    metadata := { name := some "bot", ns := some "tenant" }
    spec := {
      channels := [
        { channel := .whatsapp, secret := some "first" },
        { channel := .telegram },
        { channel := .whatsapp, secret := some "second" }]
      memory := some { enabled := true } } }]

/-- Two attempts for it: one fails after it has created the session store, and one is
cancelled after it has created the first workload. -/
def twoAttempts : List Move :=
  [.start ⟨"tenant", "bot"⟩, .operation (.failTimes .create .deployment 1 (.unavailable "down"))] ++
    List.replicate 12 (.turn 0) ++
  [.start ⟨"tenant", "bot"⟩] ++ List.replicate 5 (.turn 1) ++ [.cancel 1] ++
    List.replicate 3 (.turn 1)

theorem same_children_of_twice_declared :
    (∃ i, (Store.empty.run twiceDeclared).find? .inst ⟨"tenant", "bot"⟩ = some i ∧
      i.isDeleting = false) ∧
    Lawful (retrying ⟨"tenant", "bot"⟩).law {} ⟨Store.empty.run twiceDeclared, []⟩ twoAttempts ∧
    ∀ (c : Child) (k : Key),
      ((undisturbed {} ⟨"tenant", "bot"⟩
          (run {} ⟨Store.empty.run twiceDeclared, []⟩ twoAttempts).store).find? c.kind k).map
          (bare c.kind) =
        ((undisturbed {} ⟨"tenant", "bot"⟩ (Store.empty.run twiceDeclared)).find? c.kind k).map
          (bare c.kind) := by
  have found : ∃ i ∈ (Store.empty.run twiceDeclared).find? .inst ⟨"tenant", "bot"⟩,
      i.isDeleting = false := by decide +kernel
  have lawful : Lawful (retrying ⟨"tenant", "bot"⟩).law {} ⟨Store.empty.run twiceDeclared, []⟩
      twoAttempts := by decide +kernel
  obtain ⟨i, hi, halive⟩ := found
  exact ⟨⟨i, hi, halive⟩, lawful, same_children twiceDeclared hi halive lawful⟩

end World

end WorkloadOperator
