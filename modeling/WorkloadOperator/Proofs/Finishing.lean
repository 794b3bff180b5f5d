import WorkloadOperator.Proofs.Asking
import WorkloadOperator.Proofs.Opening
import WorkloadOperator.Store.Operation

/-!
# What a cancelled pass still does

A pass looks whether it was cancelled before it turns to a channel, to the memory store and
to the status, and not in between.  So a pass that is cancelled during a call completes what
it was about, and creates and patches nothing else (`completes_of_cancelled`): the session
store and the workload of the channel it was busy with, the memory store it has just missed,
or the error phase if that channel has failed.
-/

namespace WorkloadOperator

open Naming

/-- Whether a request creates or patches something. -/
def Request.Puts : Request → Prop
  | .create _ _ _ | .patchFinalizers _ _ _ | .patchStatus _ _ _ => True
  | .getInstance _ | .get _ _ | .list _ _ _ | .delete _ _ | .listRuns _ _ => False

instance : (r : Request) → Decidable r.Puts
  | .create _ _ _ | .patchFinalizers _ _ _ | .patchStatus _ _ _ => isTrue trivial
  | .getInstance _ | .get _ _ | .list _ _ _ | .delete _ _ | .listRuns _ _ => isFalse id

theorem Request.Empties.not_puts {ns : String} {r : Request} (h : r.Empties ns) : ¬ r.Puts := by
  cases h <;> exact id

namespace Pass

/-- The requests for a channel before its workload is created. -/
inductive Prepares (adapters : Config.Adapters) (o : Owner) (d : Channel.Declaration) :
    Request → Prop where
  | readSession : Prepares adapters o d (.get .volumeClaim ⟨o.ns, sessionStore o.name d.channel⟩)
  | createSession : Prepares adapters o d (.create .volumeClaim o.ns (o.sessionStore d adapters))
  | readWorkload : Prepares adapters o d (.get .deployment ⟨o.ns, workload o.name d.channel⟩)

/-- The requests for a channel. -/
def Attends (adapters : Config.Adapters) (o : Owner) (d : Channel.Declaration) (r : Request) :
    Prop :=
  Prepares adapters o d r ∨ r = .create .deployment o.ns (o.workload d adapters)

/-- A request completes what an earlier one was about. -/
inductive Completes (adapters : Config.Adapters) : Request → Request → Prop where
  | session (o : Owner) (d : Channel.Declaration) :
      Completes adapters (.get .volumeClaim ⟨o.ns, sessionStore o.name d.channel⟩)
        (.create .volumeClaim o.ns (o.sessionStore d adapters))
  | workload (o : Owner) (d : Channel.Declaration) {r : Request} (h : Prepares adapters o d r) :
      Completes adapters r (.create .deployment o.ns (o.workload d adapters))
  | failure (o : Owner) (d : Channel.Declaration) {r : Request} (h : Attends adapters o d r)
      (status : Option Instance.Status) (version : Option String) (patch : Json)
      (hpatch : Instance.Status.diff status { status.getD {} with phase := .error } = some patch) :
      Completes adapters r (.patchStatus ⟨o.ns, o.name⟩ version patch)
  | memory (o : Owner) :
      Completes adapters (.get .configMap ⟨o.ns, memoryStore o.name⟩)
        (.create .configMap o.ns o.memoryStore)

/-- The contract of a pass that may be cancelled during any of its requests.  What is known is
the request during which it was cancelled. -/
def completing (adapters : Config.Adapters) : Contract (Option Request) where
  grants during r := ∀ r₀ ∈ during, r.Puts → Completes adapters r₀ r
  answers during r _ during' := during' = during ∨ (during = none ∧ during' = some r)
  shows during cancelled := cancelled = during.isSome

variable {adapters : Config.Adapters} {during during' : Option Request} {r : Request}
  {P Q : Request → Prop} {ε α β : Type}

/-- If the pass was cancelled, then during such a request. -/
def Among (P : Request → Prop) (during : Option Request) : Prop := ∀ r ∈ during, P r

theorem among_none : Among P none := fun _ h => nomatch h

theorem Among.mono (h : Among P during) (hPQ : ∀ r, P r → Q r) : Among Q during :=
  fun r hr => hPQ r (h r hr)

/-- The pass may have been cancelled during the request that was just answered. -/
theorem Among.answers (h : Among P during) (hr : P r) {answer : r.Answer}
    (ha : (completing adapters).answers during r answer during') : Among P during' := by
  rcases ha with rfl | ⟨_, rfl⟩
  · exact h
  · rintro _ ⟨⟩
    exact hr

/-- What puts nothing may always be asked. -/
theorem grants_of_not_puts (hr : ¬ r.Puts) : (completing adapters).grants during r :=
  fun _ _ hputs => absurd hputs hr

/-- What was not cancelled may ask anything. -/
theorem grants_of_none : (completing adapters).grants none r := fun _ h => nomatch h

/-- Only a pass that was not cancelled gets past a checkpoint. -/
theorem keeps_passing {f : Unit → Pass Pass.Error β}
    {q : Except Pass.Error β → Option Request → Prop}
    (hcancelled : q (.error .cancelled) during)
    (hf : (f ()).Keeps (completing adapters) none q) :
    (checkpoint.bind f).Keeps (completing adapters) during q := by
  refine keeps_bind.2 (keeps_checkpoint.2 ⟨fun _ => hcancelled, fun hshows => ?_⟩)
  cases during with
  | none => exact hf
  | some r => cases hshows

/-! ## Parts that ask what they like -/

/-- A part of a pass that keeps to the contract whatever was cancelled when. -/
abbrev Modest (adapters : Config.Adapters) (p : Pass ε α) : Prop :=
  ∀ during, p.Keeps (completing adapters) during fun _ _ => True

theorem Modest.bind {p : Pass ε α} {f : α → Pass ε β} (h : Modest adapters p)
    (hf : ∀ a, Modest adapters (f a)) : Modest adapters (p.bind f) :=
  fun during => Keeps.bind (h during) (fun a during' _ => hf a during') fun _ _ _ => trivial

/-- A part that puts nothing keeps to the contract. -/
theorem Asks.modest {p : Pass ε α} (h : Asks Q p) (hQ : ∀ r, Q r → ¬ r.Puts) :
    Modest adapters p := by
  refine fun during => h.keeps trivial fun during r _ hr => ?_
  exact ⟨grants_of_not_puts (hQ r hr), fun _ _ _ => trivial⟩

theorem modest_askStore (hr : ¬ r.Puts) : Modest adapters (askStore r) :=
  (asks_askStore (Q := (· = r)) rfl).modest fun _ he => he ▸ hr

/-! ## Converging -/

variable {i : Instance} {o : Owner} {d : Channel.Declaration}

theorem keeps_ensuring (hs : Among P during) {c : Child} {k : Key} {object : c.Object}
    {present : c.Object → α} {created : Pass Store.Error α} {raced : α} (hquiet : Quiet created)
    (hPQ : ∀ r, P r → Q r) (hread : Q (.get c k)) (hcreate : Q (.create c k.ns object))
    (hcompletes : ∀ r, P r ∨ r = .get c k → Completes adapters r (.create c k.ns object)) :
    (ensure c k object present created raced).Keeps (completing adapters) during
      fun _ during' => Among Q during' := by
  have hreading {answer} {during' : Option Request}
      (ha : (completing adapters).answers during (.get c k) answer during') :
      Among (fun r => P r ∨ r = .get c k) during' :=
    (hs.mono fun _ => .inl).answers (.inr rfl) ha
  have read {during' : Option Request} (h : Among (fun r => P r ∨ r = .get c k) during') :
      Among Q during' := by
    refine h.mono ?_
    rintro r (hr | rfl)
    · exact hPQ r hr
    · exact hread
  refine keeps_ensure hquiet (grants_of_not_puts id) ?_ ?_ ?_
  · exact fun _ _ ha => read (hreading ha)
  · exact fun _ _ ha => read (hreading ha)
  · intro during₁ ha
    have h₁ := hreading ha
    refine ⟨fun r hr _ => hcompletes r (h₁ r hr), ?_, ?_, ?_⟩
    · exact fun _ _ ha' _ => (read h₁).answers hcreate ha'
    · exact fun _ _ ha' => (read h₁).answers hcreate ha'
    · exact fun _ _ _ ha' => (read h₁).answers hcreate ha'

theorem keeps_preparing : (provideSession adapters i o d).Keeps (completing adapters) none
    fun _ during => Among (Prepares adapters o d) during := by
  rw [provideSession_eq]
  refine keeps_ensuring (P := fun _ => False) among_none (quiet_publish _ _) (fun _ => False.elim)
    .readSession .createSession ?_
  rintro r (h | rfl)
  · cases h
  · exact .session o d

theorem keeps_employing (h : Among (Prepares adapters o d) during) :
    (provideWorkload adapters i o d).Keeps (completing adapters) during
      fun _ during' => Among (Attends adapters o d) during' := by
  rw [provideWorkload_eq]
  refine keeps_ensuring h (quiet_publish _ _) (fun _ => .inl) (.inl .readWorkload) (.inr rfl) ?_
  rintro r (hr | rfl)
  · exact .workload o d hr
  · exact .workload o d .readWorkload

theorem keeps_attending : (serveChannel adapters i o d).Keeps (completing adapters) none
    fun _ during => Among (Attends adapters o d) during := by
  unfold serveChannel
  split
  · exact Keeps.bind keeps_preparing (fun _ _ h => keeps_employing h)
      fun _ _ h => h.mono fun _ => .inl
  · exact keeps_employing among_none

/-- If the channels could not be served, then the pass was cancelled before the next one, or
the last one has failed. -/
theorem keeps_attendingEach (ds : List Channel.Declaration) :
    (serveEach adapters i o ds).Keeps (completing adapters) during fun result during' =>
      ∀ e, result = .error e → e = .cancelled ∨ ∃ d, Among (Attends adapters o d) during' := by
  induction ds generalizing during with
  | nil => exact fun _ he => nomatch he
  | cons d ds ih =>
    refine keeps_passing (fun _ he => .inl (Except.error.inj he).symm) ?_
    refine keeps_bind.2 (keeps_mapError.2 (Keeps.mono keeps_attending ?_))
    intro result during₁ h₁
    cases result with
    | ok link =>
      refine Keeps.bind ih (fun _ _ _ _ he => nomatch he) fun e during₂ h₂ _ he => ?_
      cases he
      exact h₂ e rfl
    | error e => exact fun _ _ => .inr ⟨d, h₁⟩

theorem keeps_recordingFailure (ns : String) (hns : o.ns = ns) (hname : o.name = i.name)
    (h : Among (Attends adapters o d) during) (cause : Pass.Error) :
    (recordFailure (ε := ε) ns i cause).Keeps (completing adapters) during fun _ _ => True := by
  simp only [recordFailure]
  split
  · trivial
  · next patch hpatch =>
    refine keeps_bind.2 (keeps_attempt.2 (keeps_ask.2 ⟨fun r hr _ => ?_, fun _ _ _ => trivial⟩))
    rw [← hns, ← hname]
    exact .failure o d (h r hr) i.status _ patch hpatch

theorem keeps_remembering (h : during = none) :
    (provideMemory (ε := ε) i o).Keeps (completing adapters) during fun _ _ => True := by
  subst h
  unfold provideMemory
  split
  · have created : (createMemory o).Keeps (completing adapters) none
        fun _ during => Among (fun _ => True) during := by
      rw [createMemory_eq]
      refine keeps_ensuring (P := fun _ => False) among_none (quiet_done _) (fun _ => False.elim)
        trivial trivial ?_
      rintro r (h | rfl)
      · cases h
      · exact .memory o
    refine Keeps.attempt_bind created ?_
    rintro (e | _ | _) _ _ <;> trivial
  · trivial

theorem modest_converge (cfg : Config) (ns : String) (i : Instance) :
    Modest cfg.adapters (converge cfg ns i) := by
  intro during
  unfold converge
  split
  · trivial
  · next uid huid =>
    refine Keeps.attempt_bind (keeps_attendingEach i.spec.channels) ?_
    intro result during₁ h₁
    cases result with
    | error e =>
      cases e with
      | cancelled => trivial
      | store | channel | invariant =>
        obtain ⟨d, hd⟩ := (h₁ _ rfl).resolve_left (by simp)
        refine Keeps.bind (keeps_recordingFailure ns ?_ ?_ hd _) (fun _ _ _ => trivial) ?_
        · rfl
        · rfl
        · exact fun _ _ _ => trivial
    | ok channels =>
      refine keeps_passing trivial ?_
      refine Keeps.bind (keeps_remembering rfl) (fun _ during₂ _ => ?_) fun _ _ _ => trivial
      have counted : Asks (· = .listRuns ns (instanceSelector i.name))
          ((countRuns ns i.name).mapError Pass.Error.store) := (asks_countRuns ns i.name).mapError _
      refine (counted.modest ?_).bind (fun activeRuns during₃ => keeps_passing trivial ?_) during₂
      · rintro _ rfl
        exact id
      refine Keeps.bind ?_ (fun _ _ _ => trivial) (fun _ _ _ => trivial) (m := fun _ _ => True)
      unfold recordStatus
      split
      · exact keeps_askStore.2 ⟨grants_of_none, fun _ _ _ => trivial⟩
      · trivial

/-! ## Tearing down -/

theorem modest_deleteWorkloads (ns : String) (ds : List Deployment) :
    Modest adapters (deleteWorkloads ns ds) := by
  refine (asks_deleteWorkloads ns ds).modest ?_
  rintro _ ⟨k, rfl⟩
  exact id

theorem modest_deleteStores (ns name selector : String) :
    Modest adapters (deleteStores (ε := ε) ns name selector) :=
  (asks_deleteStores ns name selector).modest fun _ hr => hr.not_puts

theorem modest_teardown (intervals : Config.Intervals) (ns : String) (i : Instance) :
    Modest adapters (teardown intervals ns i) := by
  refine (modest_askStore id).bind fun workloads => ?_
  refine (modest_deleteWorkloads ns workloads).bind fun _ => ?_
  refine (modest_askStore id).bind fun remaining => ?_
  split
  · exact fun _ => trivial
  · refine (modest_deleteStores ns i.name _).bind fun _ => ?_
    split
    · exact fun _ => trivial
    · refine fun during => keeps_passing trivial (keeps_bind.2 ⟨grants_of_none, ?_⟩)
      intro answer during' _
      dsimp only
      split <;> trivial

/-! ## Whole passes -/

theorem modest_advance (cfg : Config) (ns : String) (i : Instance) :
    Modest cfg.adapters (advance cfg ns i) := by
  unfold advance
  split
  · exact modest_teardown _ ns i
  · exact modest_converge cfg ns i

theorem modest_opening (key : Key) : Modest adapters (opening key) := by
  refine (modest_askStore id).bind fun found => ?_
  cases found with
  | none => exact fun _ => trivial
  | some i =>
    dsimp only
    split
    · refine fun during => keeps_passing trivial ?_
      refine Keeps.bind (keeps_askStore.2 ⟨grants_of_none, fun _ _ _ => trivial⟩) ?_ ?_
        (m := fun _ _ => True)
      · exact fun _ during' _ => modest_askStore id during'
      · exact fun _ _ _ => trivial
    · exact fun _ => trivial

/-- Every pass completes what it was about when it was cancelled, and puts nothing else. -/
theorem modest_reconcile (cfg : Config) (key : Key) : Modest cfg.adapters (reconcile cfg key) :=
  fun during => (modest_opening key during).opened (fun _ _ => trivial)
    (fun i during' _ => modest_advance cfg key.ns i during') fun _ _ _ => trivial

/-! ## Runs -/

/-- The surroundings of a pass that is alone with a store, and that is cancelled during one of
its requests.  The requests are kept. -/
def cutOff (n : Nat) : Surroundings (Store × List Request) where
  serve r t := ((t.1.serve r).1, (t.1.serve r).2, t.2 ++ [r])
  isCancelled t := n < t.2.length
  publish _ t := t

/-- The requests of a pass that is cancelled during one of them. -/
def requests (cfg : Config) (key : Key) (s : Store) (n : Nat) : List Request :=
  ((reconcile cfg key).run (cutOff n) (s, [])).2.2

/-- All requests that put something, after the one during which the pass was cancelled,
complete that one. -/
def Finishes (adapters : Config.Adapters) (n : Nat) (requests : List Request) : Prop :=
  ∀ r₀ ∈ requests[n]?, ∀ m, n < m → ∀ r ∈ requests[m]?, r.Puts → Completes adapters r₀ r

theorem Finishes.append {n : Nat} {requests : List Request} (h : Finishes adapters n requests)
    (hr : (completing adapters).grants requests[n]? r) : Finishes adapters n (requests ++ [r]) := by
  intro r₀ hr₀ m hlt r' hr' hputs
  have hm : m < (requests ++ [r]).length := (List.getElem?_eq_some_iff.1 hr').1
  rw [List.length_append, List.length_singleton] at hm
  have hn : n < requests.length := by omega
  rw [List.getElem?_append_left hn] at hr₀
  by_cases hlast : m < requests.length
  · rw [List.getElem?_append_left hlast] at hr'
    exact h r₀ hr₀ m hlt r' hr' hputs
  · obtain rfl : m = requests.length := by omega
    rw [List.getElem?_concat_length] at hr'
    cases hr'
    exact hr r₀ hr₀ hputs

/-- The request during which the pass was cancelled stays the same. -/
theorem during_append (requests : List Request) (r : Request) (n : Nat) :
    (requests ++ [r])[n]? = requests[n]? ∨
      (requests[n]? = none ∧ (requests ++ [r])[n]? = some r) := by
  rcases Nat.lt_trichotomy n requests.length with hlt | rfl | hgt
  · exact .inl (List.getElem?_append_left hlt)
  · exact .inr ⟨List.getElem?_eq_none (Nat.le_refl _), List.getElem?_concat_length⟩
  · refine .inl ?_
    rw [List.getElem?_eq_none (by simp; omega), List.getElem?_eq_none (by omega)]

/-- After a pass was cancelled during a request, whatever the store is like and whatever it
answers, the pass creates and patches nothing but what completes that request. -/
theorem completes_of_cancelled (cfg : Config) (key : Key) (s : Store) (n m : Nat) {r₀ r : Request}
    (hr₀ : (requests cfg key s n)[n]? = some r₀) (hlt : n < m)
    (hr : (requests cfg key s n)[m]? = some r) (hputs : r.Puts) : Completes cfg.adapters r₀ r := by
  have finishes : Finishes cfg.adapters n (requests cfg key s n) := by
    refine (Keeps.run (fun t : Store × List Request => t.2[n]?)
      (fun t => Finishes cfg.adapters n t.2) (modest_reconcile cfg key _) ?_ ?_ ?_ ?_).1
    · intro r₀ hr₀
      cases hr₀
    · exact fun t r h hr => ⟨h.append hr, during_append t.2 r n⟩
    · intro t
      show decide (n < t.2.length) = t.2[n]?.isSome
      exact Bool.eq_iff_iff.2 (by simp)
    · exact fun _ _ => rfl
  exact finishes r₀ hr₀ m hlt r hr hputs

/-- A pass that is cancelled while it reads a session store that is missing creates it, and
then the workload of the channel. -/
theorem completes_of_cancelled_amid_channel :
    let s := Store.empty.run [.insertInstance {
      metadata := { name := some "bot", ns := some "tenant" }
      spec := { channels := [{ channel := .whatsapp }, { channel := .telegram }] } }]
    let rs := requests {} ⟨"tenant", "bot"⟩ s 3
    rs.map (fun r => (r.verb, r.kind)) = [(.get, .inst), (.patch, .inst), (.get, .inst),
      (.get, .volumeClaim), (.create, .volumeClaim), (.get, .deployment), (.create, .deployment)] ∧
    ∃ r₀ ∈ rs[3]?, ∃ r ∈ rs[4]?, ∃ r' ∈ rs[6]?, r.Puts ∧ r'.Puts ∧
      Completes {} r₀ r ∧ Completes {} r₀ r' := by
  intro s rs
  have verbs : rs.map (fun r => (r.verb, r.kind)) = [(.get, .inst), (.patch, .inst),
      (.get, .inst), (.get, .volumeClaim), (.create, .volumeClaim), (.get, .deployment),
      (.create, .deployment)] := by
    decide +kernel
  obtain ⟨r₀, h₀⟩ := Option.isSome_iff_exists.1 (show rs[3]?.isSome = true by decide +kernel)
  obtain ⟨r, h, hputs⟩ := show ∃ r ∈ rs[4]?, r.Puts by decide +kernel
  obtain ⟨r', h', hputs'⟩ := show ∃ r ∈ rs[6]?, r.Puts by decide +kernel
  exact ⟨verbs, r₀, h₀, r, h, r', h', hputs, hputs',
    completes_of_cancelled {} _ s 3 4 h₀ (by decide) h hputs,
    completes_of_cancelled {} _ s 3 6 h₀ (by decide) h' hputs'⟩

end Pass

end WorkloadOperator
