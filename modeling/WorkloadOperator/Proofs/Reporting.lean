import WorkloadOperator.Proofs.Cancellation
import WorkloadOperator.Proofs.Recording
import WorkloadOperator.Proofs.Reflecting
import WorkloadOperator.Proofs.Releasing

/-!
# What a pass reports

A pass that nobody disturbs leaves one of three things in the status of its Instance.  A pass
that succeeds reports the channels as it has found them, and how many Runs are going on.  One
that fails at a channel changes the phase of the status that was there, unless that write
fails, too, and it ends with the error of the channel in either case.  One that fails
otherwise, or is cancelled, leaves the status as it was (`status_of_pass`).
-/

namespace WorkloadOperator

open Naming Selector

namespace Store

/-- The status of the Instance under a key, if it has one. -/
def status? (s : Store) (key : Key) : Option Instance.Status :=
  (s.find? .inst key).bind Instance.status

/-- The number of Runs of the Instance under a key that are going on. -/
def activeRuns (s : Store) (key : Key) : Nat :=
  s.runs.entries.countP fun e =>
    e.1.ns = key.ns ∧ e.2.metadata.label? instanceKey = some key.name ∧ e.2.isRunning

variable {s : Store} {key : Key} {i : Instance}

theorem status?_of_find? (h : s.find? .inst key = some i) : s.status? key = i.status := by
  rw [status?, h]
  rfl

/-- The Runs that a pass counts are those of its Instance. -/
theorem countP_select (h : Plain key.name) :
    (s.select .run key.ns (instanceSelector key.name)).countP Run.isRunning = s.activeRuns key := by
  unfold select activeRuns
  rw [List.countP_map, List.countP_filter]
  refine List.countP_congr fun e _ => ?_
  have hadmits := admits_instanceSelector h e.2.metadata
  simp only [Function.comp, Bool.and_eq_true, decide_eq_true_eq]
  constructor
  · rintro ⟨hrunning, hns, hadmit⟩
    exact ⟨hns, hadmits.1 hadmit, hrunning⟩
  · rintro ⟨hns, hlabel, hrunning⟩
    exact ⟨hrunning, hns, hadmits.2 hlabel⟩

/-- A request that meets a fault is refused and changes no object. -/
theorem refused_of_faulty {r : Request} (h : s.Faulty r.verb r.kind) (key : Key) :
    (∃ e, (s.serve r).1 = .error e) ∧ (s.serve r).2.find? .inst key = s.find? .inst key := by
  obtain ⟨e, faults, -, hserve⟩ := serve_of_faulty h
  rw [hserve]
  exact ⟨⟨e, rfl⟩, find?_faults _⟩

/-- A status that differs from the one that is there is written as it was meant, unless the
patch meets a fault. -/
theorem status?_patchStatus (hi : s.find? .inst key = some i) {after : Instance.Status}
    {patch : Json} (hpatch : Instance.Status.diff i.status after = some patch)
    (h : ¬ s.Faulty .patch .inst) :
    (s.serve (.patchStatus key i.metadata.resourceVersion patch)).1 = .ok () ∧
      (s.serve (.patchStatus key i.metadata.resourceVersion patch)).2.status? key = some after := by
  rw [serve_of_not_faulty (r := .patchStatus key i.metadata.resourceVersion patch) h]
  simp only [answer, hi, if_pos (meantFor_self i), Instance.Status.decode_merge_diff hpatch]
  refine ⟨trivial, ?_⟩
  rw [status?, find?_record, find?_put_self]
  rfl

end Store

namespace Pass

/-- A company that does nothing.  Even so the pass may be cancelled. -/
def Company.nobody (cancelled : Nat → Bool) : Company where
  cancelled := cancelled

/-- The contract of a pass that nobody disturbs. -/
abbrev solitary (cancelled : Nat → Bool) (s : Store) : Contract (List Call) :=
  within (.nobody cancelled) s fun _ _ => True

variable {ε α β : Type} {cancelled : Nat → Bool} {s : Store} {key : Key} {i : Instance}
  {log : List Call} {Q : Request → Prop} {P : Except ε α → Prop}

/-- The Instance is as it was read last, and the Runs are as they were at the beginning. -/
structure Still (s : Store) (key : Key) (i : Instance) (log : List Call) : Prop where
  found : (left s log).find? .inst key = some i
  runs : (left s log).runs = s.runs

/-- An error that is not reported in the status. -/
def Silent (e : Pass.Error) : Prop := ∀ c cause, e ≠ .channel c cause

theorem silent_store (cause : Store.Error) : Silent (.store cause) := fun _ _ h => nomatch h

theorem silent_cancelled : Silent .cancelled := fun _ _ h => nomatch h

theorem Still.status (h : Still s key i log) : (left s log).status? key = i.status :=
  Store.status?_of_find? h.found

theorem Still.activeRuns (h : Still s key i log) : (left s log).activeRuns key = s.activeRuns key := by
  rw [Store.activeRuns, Store.activeRuns, h.runs]

/-- A request that patches nothing leaves everything still. -/
theorem Still.append (h : Still s key i log) {r : Request} (hr : r.verb ≠ .patch) :
    Still s key i (log ++ [⟨left s log, r⟩]) := by
  constructor
  · rw [left_append]
    exact (Store.find?_serve_of_verb hr).trans h.found
  · rw [left_append]
    exact (Store.runs_serve _ _).trans h.runs

/-! ## Parts that write no status -/

theorem keeps_asked {r : Request} {q : Except Pass.Error r.Reply → List Call → Prop}
    (h : q (((left s log).serve r).1.mapError .store) (log ++ [⟨left s log, r⟩])) :
    (askStore r).Keeps (solitary cancelled s) log q := by
  refine keeps_call trivial fun met hmet => ?_
  subst hmet
  exact h

theorem Confined.still {p : Pass ε α} (h : Confined Q P p) (hQ : ∀ r, Q r → r.verb ≠ .patch)
    (hlog : Still s key i log) :
    p.Keeps (solitary cancelled s) log fun result log' => P result ∧ Still s key i log' := by
  refine h.keeps hlog fun log r hlog hr => ⟨trivial, fun answer log' hserve => ?_⟩
  cases hserve
  exact hlog.append (hQ r hr)

/-- A pass counts the Runs of its Instance that are going on. -/
theorem still_countRuns (hlog : Still s key i log) (hname : i.name = key.name)
    (hplain : Plain key.name) :
    ((countRuns key.ns i.name).mapError Pass.Error.store).Keeps (solitary cancelled s) log
      fun result log' => Still s key i log' ∧ (∀ e, result = .error e → Silent e) ∧
        ∀ n, result = .ok n → n = Int64.ofNat (s.activeRuns key) := by
  refine keeps_mapError.2 (keeps_bind.2 (keeps_ask.2 ⟨trivial, fun answer log' hserve => ?_⟩))
  obtain ⟨hanswer, hlog'⟩ := Prod.mk.inj hserve
  have hstill := hlog.append (r := .listRuns key.ns (instanceSelector i.name)) nofun
  rw [← hlog']
  cases answer with
  | error e => exact ⟨hstill, fun _ h => Except.error.inj h ▸ silent_store e, fun _ h => nomatch h⟩
  | ok runs =>
    have hruns : (left s log).select .run key.ns (instanceSelector i.name) = runs :=
      Except.ok.inj (Store.answer_of_ok hanswer)
    refine ⟨hstill, fun _ h => (nomatch h), fun n h => ?_⟩
    rw [← Except.ok.inj h, ← hruns, hname, Store.countP_select hplain, hlog.activeRuns]

/-! ## Parts that write the status -/

/-- What a pass leaves that has written a status, or has failed to. -/
theorem reports_recordStatus (hlog : Still s key i log) (hname : i.name = key.name)
    (desired : Instance.Status) :
    (recordStatus key.ns i desired).Keeps (solitary cancelled s) log fun result log' =>
      (∀ e, result = .error e → Silent e ∧ (left s log').status? key = i.status) ∧
        (result = .ok () → (left s log').status? key = some desired) := by
  have hkey : (⟨key.ns, i.name⟩ : Key) = key := by rw [hname]
  unfold recordStatus
  split
  · next patch hpatch =>
    refine keeps_asked ?_
    rw [left_append, hkey]
    by_cases hfaulty : (left s log).Faulty .patch .inst
    · obtain ⟨⟨e, he⟩, hfind⟩ := Store.refused_of_faulty
        (r := .patchStatus key i.metadata.resourceVersion patch) hfaulty key
      rw [he]
      refine ⟨fun e' h => ⟨Except.error.inj h ▸ silent_store e, ?_⟩, fun h => nomatch h⟩
      exact Store.status?_of_find? (hfind.trans hlog.found)
    · obtain ⟨hok, hstatus⟩ := Store.status?_patchStatus hlog.found hpatch hfaulty
      rw [hok]
      exact ⟨fun _ h => (nomatch h), fun _ => hstatus⟩
  · next hsame =>
    refine ⟨fun _ he => (nomatch he), fun _ => ?_⟩
    rw [hlog.status, Instance.Status.eq_of_diff_eq_none hsame]

/-- The error phase is written as well as may be. -/
theorem reports_recordFailure (hlog : Still s key i log) (hname : i.name = key.name)
    (cause : Pass.Error) :
    (recordFailure (ε := ε) key.ns i cause).Keeps (solitary cancelled s) log fun result log' =>
      result = .ok () ∧ (left s log').status? key =
        if (left s log).Faulty .patch .inst then i.status
        else some { i.status.getD {} with phase := .error } := by
  have hkey : (⟨key.ns, i.name⟩ : Key) = key := by rw [hname]
  simp only [recordFailure]
  split
  · next hsame =>
    refine ⟨rfl, ?_⟩
    rw [hlog.status]
    split
    · rfl
    · exact Instance.Status.eq_of_diff_eq_none hsame
  · next patch hpatch =>
    refine keeps_bind.2 (keeps_attempt.2 (keeps_ask.2 ⟨trivial, fun answer log' hserve => ?_⟩))
    obtain ⟨-, hlog'⟩ := Prod.mk.inj hserve
    refine ⟨rfl, ?_⟩
    rw [← hlog', left_append, hkey]
    split
    · next hfaulty =>
      have hfind := (Store.refused_of_faulty
        (r := .patchStatus key i.metadata.resourceVersion patch) hfaulty key).2
      exact Store.status?_of_find? (hfind.trans hlog.found)
    · next hfaulty => exact (Store.status?_patchStatus hlog.found hpatch hfaulty).2

/-! ## Whole passes -/

/-- What has come of the channels when a pass has served them for the Instance that it has
opened with. -/
def Served (cfg : Config) (key : Key) (b : Company) (s : Store)
    (result : Except Pass.Error (List Channel.Report)) (log : List Call) : Prop :=
  ∃ i uid opened, (opening key).run (amid b s) [] = (.ok (some i), opened) ∧
    i.metadata.uid = some uid ∧
    (serveChannels cfg.adapters i ⟨i.name, key.ns, uid⟩).run (amid b s) opened = (result, log)

/-- The status that a pass leaves, by how the pass ends. -/
inductive Reported (cfg : Config) (key : Key) (cancelled : Nat → Bool) (s : Store) :
    Except Pass.Error Action → Option Instance.Status → Prop where
  | running (channels : List Channel.Report) (log : List Call)
      (hserved : Served cfg key (.nobody cancelled) s (.ok channels) log) :
      Reported cfg key cancelled s (.ok (.requeue cfg.intervals.steady))
        (some { phase := .running, channels, activeRuns := .ofNat (s.activeRuns key) })
  | failed (c : Channel) (cause : Store.Error) (log : List Call)
      (hserved : Served cfg key (.nobody cancelled) s (.error (.channel c cause)) log) :
      Reported cfg key cancelled s (.error (.channel c cause))
        (if (left s log).Faulty .patch .inst then s.status? key
        else some { (s.status? key).getD {} with phase := .error })
  | unreported (e : Pass.Error) (he : Silent e) :
      Reported cfg key cancelled s (.error e) (s.status? key)

/-- What a pass has opened with that nobody disturbs: its Instance, which may have got the
marker. -/
structure OpenedWith (s : Store) (key : Key) (i : Instance) (log : List Call) : Prop where
  still : Still s key i log
  status : i.status = s.status? key
  alive : i.isDeleting = false
  name : i.name = key.name

/-- A pass reads its Instance as it is. -/
theorem still_getInstance (hlog : Still s key i log) :
    (askStore (.getInstance key)).Keeps (solitary cancelled s) log fun result log' =>
      Still s key i log' ∧ (∀ e, result = .error e → Silent e) ∧
        ∀ found, result = .ok found → found = some i := by
  refine keeps_asked ?_
  refine ⟨hlog.append nofun, ?_⟩
  cases hanswer : ((left s log).serve (.getInstance key)).1 with
  | error e => exact ⟨fun _ h => Except.error.inj h ▸ silent_store e, fun _ h => nomatch h⟩
  | ok found =>
    have hfound : (left s log).find? .inst key = found := Except.ok.inj (Store.answer_of_ok hanswer)
    refine ⟨fun _ h => (nomatch h), fun _ h => ?_⟩
    rw [← Except.ok.inj h, ← hfound, hlog.found]

/-- A pass that nobody disturbs marks its Instance and changes nothing else of it. -/
theorem openedWith_mark (h : OpenedWith s key i log) :
    (mark key.ns i).Keeps (solitary cancelled s) log fun result log' =>
      (∀ e, result = .error e → Silent e) ∧ ∃ i', OpenedWith s key i' log' := by
  have hkey : (⟨key.ns, i.name⟩ : Key) = key := by rw [h.name]
  let r : Request := .patchFinalizers key i.metadata.resourceVersion
    (i.metadata.finalizerList ++ [Instance.marker])
  have hruns : (left s (log ++ [⟨left s log, r⟩])).runs = s.runs := by
    rw [left_append]
    exact (Store.runs_serve _ _).trans h.still.runs
  refine keeps_asked ?_
  rw [hkey]
  refine ⟨?_, ?_⟩
  · cases hanswer : ((left s log).serve r).1 with
    | error e => exact fun _ he => Except.error.inj he ▸ silent_store e
    | ok _ => exact fun _ he => nomatch he
  · by_cases accepted : (left s log).Accepts r
    · have hfind := Store.find?_patchFinalizers h.still.found accepted
      rw [if_neg (by simp [h.alive])] at hfind
      have still : Still s key { i with
          metadata := { i.metadata with
            finalizers := some (i.metadata.finalizerList ++ [Instance.marker])
            resourceVersion := some (left s log).bump.versionText } } (log ++ [⟨left s log, r⟩]) := by
        refine ⟨?_, hruns⟩
        rw [left_append]
        exact hfind
      exact ⟨_, still, h.status, h.alive, h.name⟩
    · refine ⟨i, ⟨?_, hruns⟩, h.status, h.alive, h.name⟩
      rw [left_append]
      exact (Store.find?_serve_of_not_accepts accepted).trans h.still.found

/-- A pass that nobody disturbs opens with its Instance, or it reports nothing. -/
theorem openedWith_opening (h : OpenedWith s key i []) :
    (opening key).Keeps (solitary cancelled s) [] fun result log =>
      ∃ i', OpenedWith s key i' log ∧ (∀ e, result = .error e → Silent e) ∧
        ∀ found, result = .ok found → found = some i' := by
  unfold opening
  refine Keeps.bind (still_getInstance h.still) ?_ ?_
  · rintro found log₁ ⟨h₁, -, hfound⟩
    cases hfound found rfl
    have h₁' : OpenedWith s key i log₁ := ⟨h₁, h.status, h.alive, h.name⟩
    dsimp only
    split
    · refine keeps_bind.2 (keeps_checkpoint.2 ⟨fun _ => ?_, fun _ => ?_⟩)
      · exact ⟨i, h₁', fun _ he => Except.error.inj he ▸ silent_cancelled, fun _ he => nomatch he⟩
      · refine Keeps.bind (openedWith_mark h₁') ?_ ?_
        · rintro _ log₂ ⟨-, i', h₂⟩
          refine (still_getInstance h₂.still).mono ?_
          rintro result log₃ ⟨h₃, hsilent, hfound⟩
          exact ⟨i', ⟨h₃, h₂.status, h₂.alive, h₂.name⟩, hsilent, hfound⟩
        · rintro e log₂ ⟨hsilent, i', h₂⟩
          exact ⟨i', h₂, fun _ he => Except.error.inj he ▸ hsilent e rfl, fun _ he => nomatch he⟩
    · exact ⟨i, h₁', fun _ he => (nomatch he), fun _ he => (Except.ok.inj he).symm⟩
  · rintro e log₁ ⟨h₁, hsilent, -⟩
    exact ⟨i, ⟨h₁, h.status, h.alive, h.name⟩, fun _ he => Except.error.inj he ▸ hsilent e rfl,
      fun _ he => nomatch he⟩

theorem reports_converge (cfg : Config)
    (hopened : (opening key).run (amid (.nobody cancelled) s) [] = (.ok (some i), log))
    (hlog : Still s key i log) (hstatus : i.status = s.status? key) (hname : i.name = key.name)
    (hplain : Plain key.name) :
    (converge cfg key.ns i).Keeps (solitary cancelled s) log fun result log' =>
      Reported cfg key cancelled s result ((left s log').status? key) := by
  have unreported {e : Pass.Error} {log' : List Call} (he : Silent e)
      (h : (left s log').status? key = i.status) :
      Reported cfg key cancelled s (.error e) ((left s log').status? key) := by
    rw [h, hstatus]
    exact .unreported e he
  unfold converge
  split
  · exact unreported (fun _ _ h => nomatch h) hlog.status
  · next uid huid =>
    refine Keeps.attempt_bind ((keeps_run _ _ _ _).and
      ((confined_serveEach (List.Subset.refl _)).still (fun _ hr => verb_of_provides hr.1) hlog)) ?_
    rintro result log₁ ⟨hrun, hfails, h₁⟩
    have hserved : Served cfg key (.nobody cancelled) s result log₁ :=
      ⟨i, uid, log, hopened, huid, hrun⟩
    cases result with
    | error e =>
      obtain rfl | ⟨c, cause, rfl⟩ := hfails e rfl
      · exact unreported silent_cancelled h₁.status
      · refine Keeps.bind (reports_recordFailure h₁ hname _) ?_ fun _ _ h => nomatch h.1
        rintro _ log₂ ⟨-, h₂⟩
        show Reported cfg key cancelled s _ _
        rw [h₂, hstatus]
        exact .failed c cause log₁ hserved
    | ok channels =>
      have interrupted {log' : List Call} (h : Still s key i log') (e : Pass.Error)
          (he : Silent e) : Reported cfg key cancelled s (.error e) ((left s log').status? key) :=
        unreported he h.status
      refine keeps_bind.2 (keeps_checkpoint.2
        ⟨fun _ => interrupted h₁ _ silent_cancelled, fun _ => ?_⟩)
      have recalls (r : Request) (hr : r.Recalls cfg.adapters i ⟨i.name, key.ns, uid⟩) :
          r.verb ≠ .patch := verb_of_provides hr.1
      refine Keeps.bind (confined_provideMemory.still recalls h₁) ?_ fun _ _ h => nomatch h.1
      rintro _ log₂ ⟨-, h₂⟩
      refine Keeps.bind (still_countRuns h₂ hname hplain) ?_
        fun e _ h => interrupted h.1 e (h.2.1 e rfl)
      rintro activeRuns log₃ ⟨h₃, -, hcount⟩
      rw [hcount activeRuns rfl]
      refine keeps_bind.2 (keeps_checkpoint.2
        ⟨fun _ => interrupted h₃ _ silent_cancelled, fun _ => ?_⟩)
      refine Keeps.bind (reports_recordStatus h₃ hname _) ?_ ?_
      · rintro _ log₄ ⟨-, h₄⟩
        show Reported cfg key cancelled s _ _
        rw [h₄ rfl]
        exact .running channels log₁ hserved
      · rintro e log₄ ⟨h₄, -⟩
        exact unreported (h₄ e rfl).1 (h₄ e rfl).2

theorem reports_reconcile (cfg : Config) (h : OpenedWith s key i []) (hplain : Plain key.name) :
    (reconcile cfg key).Keeps (solitary cancelled s) [] fun result log =>
      Reported cfg key cancelled s result ((left s log).status? key) := by
  refine Keeps.opened ((keeps_run _ _ _ _).and (openedWith_opening h)) ?_ ?_ ?_
  · rintro log ⟨-, i', -, -, hfound⟩
    cases hfound none rfl
  · rintro found log ⟨hrun, i', h', -, hfound⟩
    cases hfound found rfl
    rw [advance, if_neg (by simp [h'.alive])]
    exact reports_converge cfg hrun h'.still h'.status h'.name hplain
  · rintro e log ⟨-, i', h', hsilent, -⟩
    show Reported cfg key cancelled s _ _
    rw [h'.still.status, h'.status]
    exact .unreported e (hsilent e rfl)

/-- When nobody disturbs a pass, its outcome says what it has made of the status: the channels
as they were served and the Runs that are going on if it succeeds, the status that was there
with the error phase if a channel has failed and that write has not, and else what was there. -/
theorem status_of_pass (cfg : Config) (key : Key) (operations : List Operation)
    (cancelled : Nat → Bool) {i : Instance}
    (hi : (Store.empty.run operations).find? .inst key = some i) (halive : i.isDeleting = false)
    (hplain : Plain key.name) :
    Reported cfg key cancelled (Store.empty.run operations)
      ((reconcile cfg key).run (amid (.nobody cancelled) (Store.empty.run operations)) []).1
      ((left (Store.empty.run operations)
        ((reconcile cfg key).run (amid (.nobody cancelled) (Store.empty.run operations)) []).2).status?
          key) := by
  have hname : i.name = key.name := (Store.filed_empty.run operations .inst key i hi).name
  have opened : OpenedWith (Store.empty.run operations) key i [] :=
    ⟨⟨hi, rfl⟩, (Store.status?_of_find? hi).symm, halive, hname⟩
  exact (reports_reconcile cfg opened hplain).result

/-- A run in which an Instance is filed that wants a channel and a memory store, which cannot be
read, and in which one of its two Runs is going on. -/
def forgetful : List Operation :=
  [.insertInstance {
      metadata := { name := some "bot", ns := some "tenant" }
      spec := { channels := [{ channel := .telegram }], memory := some { enabled := true } } },
    .insertRun "tenant" {
      metadata := { name := some "first", labels := some (.ofList [(instanceKey, "bot")]) }
      spec := { owner := "bot" }
      status := some { phase := some .running } },
    .insertRun "tenant" {
      metadata := { name := some "second", labels := some (.ofList [(instanceKey, "bot")]) }
      spec := { owner := "bot" }
      status := some { phase := some .failed } },
    .fail .get .configMap (.unavailable "down")]

theorem status_of_forgetful_pass :
    let key : Key := ⟨"tenant", "bot"⟩
    let s := Store.empty.run forgetful
    let outcome := (reconcile {} key).run (amid (.nobody fun _ => false) s) []
    (left s outcome.2).status? key = some {
      phase := .running
      channels := [⟨.telegram, .pending⟩]
      activeRuns := 1 } ∧
    ∃ i, s.find? .inst key = some i ∧ i.isDeleting = false ∧ Plain key.name ∧
      Reported {} key (fun _ => false) s outcome.1 ((left s outcome.2).status? key) := by
  intro key s outcome
  have written : (left s outcome.2).status? key = some {
      phase := .running
      channels := [⟨.telegram, .pending⟩]
      activeRuns := 1 } := by
    decide +kernel
  have alive : ∀ i ∈ s.find? .inst key, i.isDeleting = false := by decide +kernel
  have plain : Plain key.name := by decide +kernel
  obtain ⟨i, hi⟩ := Option.isSome_iff_exists.1
    (show (s.find? .inst key).isSome = true by decide +kernel)
  exact ⟨written, i, hi, alive i hi, plain,
    status_of_pass {} key forgetful (fun _ => false) hi (alive i hi) plain⟩

end Pass

end WorkloadOperator
