import WorkloadOperator.Proofs.Reporting

/-!
# How long the error phase lingers

A pass that fails at a channel writes the error phase into the status, and a pass that succeeds
writes another one.  A pass that fails because of the store writes nothing, wherever that happens,
and it leaves the status as it has found it.  `Told` says so of every pass while nobody else writes
the status.

So the error phase lingers from a pass that has failed at a channel over passes that fail because
of the store, and over no others (`error_phase_of_series`).  It is no sign that the last pass has
failed at a channel: that one may have served all channels, and then it could not count the Runs,
or could not write the status (`error_phase_lingers`).
-/

namespace WorkloadOperator

open Store

/-- Whether an operation leaves the life and the status of the Instance under a key alone. -/
def Operation.Discreet (key : Key) : Operation → Prop
  | .insertInstance i => (⟨i.metadata.ns.getD defaultNamespace, i.name⟩ : Key) ≠ key
  | .requestDeletion k | .request (.patchStatus k _ _) => k ≠ key
  | _ => True

namespace Store

variable {s : Store} {key : Key} {i : Instance}

/-- The Instance under a key is there and not being deleted, in a store that is filed. -/
structure Lives (s : Store) (key : Key) : Prop where
  filed : s.Filed
  alive : ∃ i, s.find? .inst key = some i ∧ i.isDeleting = false

theorem Lives.perform (h : s.Lives key) {o : Operation} (ho : o.Discreet key) :
    (s.perform o).Lives key ∧ (s.perform o).status? key = s.status? key := by
  obtain ⟨filed, i, hi, halive⟩ := h
  have kept {i' : Instance} (hi' : (s.perform o).find? .inst key = some i')
      (halive' : i'.isDeleting = false) (hstatus : i'.status = i.status) :
      (s.perform o).Lives key ∧ (s.perform o).status? key = s.status? key := by
    refine ⟨⟨filed.perform o, i', hi', halive'⟩, ?_⟩
    rw [status?_of_find? hi', status?_of_find? hi, hstatus]
  have became := became_perform s o key
  rw [hi] at became
  generalize hafter : (s.perform o).find? .inst key = after at became
  cases became with
  | kept => exact kept hafter halive rfl
  | filed version j hinsert hkey =>
    subst hinsert
    exact absurd hkey ho
  | touched version j htouch hj =>
    cases hj
    exact kept hafter halive rfl
  | condemned version j hdelete hj =>
    subst hdelete
    exact absurd rfl ho
  | removed j hdelete hj hnone =>
    subst hdelete
    exact absurd rfl ho
  | asked r after hask handled =>
    subst hask
    cases handled with
    | kept => exact kept hafter halive rfl
    | vanished version j hr hj hdeleting =>
      cases hj
      exact nomatch halive.symm.trans hdeleting
    | finalizers version given finalizers j hr hj =>
      cases hj
      exact kept hafter halive rfl
    | status version given patch status j hr hj =>
      subst hr
      exact absurd rfl ho

theorem Lives.run (h : s.Lives key) {operations : List Operation}
    (hoperations : ∀ o ∈ operations, o.Discreet key) :
    (s.run operations).Lives key ∧ (s.run operations).status? key = s.status? key := by
  induction operations generalizing s with
  | nil => exact ⟨h, rfl⟩
  | cons o operations ih =>
    obtain ⟨hlives, hstatus⟩ := h.perform (hoperations o List.mem_cons_self)
    obtain ⟨hlives', hstatus'⟩ := ih hlives fun o' ho' => hoperations o' (List.mem_cons_of_mem _ ho')
    exact ⟨hlives', hstatus'.trans hstatus⟩

/-- No request of a pass ends the life of an Instance that is not being deleted. -/
theorem Lives.serve (h : s.Lives key) (r : Request) : (s.serve r).2.Lives key := by
  obtain ⟨filed, i, hi, halive⟩ := h
  refine ⟨filed.serve r, ?_⟩
  have handled := handled_serve s r key
  rw [hi] at handled
  generalize (s.serve r).2.find? .inst key = after at handled ⊢
  cases handled with
  | kept => exact ⟨i, rfl, halive⟩
  | vanished version j hr hj hdeleting =>
    cases hj
    exact nomatch halive.symm.trans hdeleting
  | finalizers version given finalizers j hr hj =>
    cases hj
    exact ⟨_, rfl, halive⟩
  | status version given patch status j hr hj =>
    cases hj
    exact ⟨_, rfl, halive⟩

/-- A status patch that is accepted writes what it was meant to, if it was made for the status that
is there. -/
theorem status?_of_ok {version : Option String} {after : Instance.Status} {patch : Json}
    (hpatch : Instance.Status.diff (s.status? key) after = some patch)
    (hok : (s.serve (.patchStatus key version patch)).1 = .ok ()) :
    (s.serve (.patchStatus key version patch)).2.status? key = some after := by
  have accepts : s.Accepts (.patchStatus key version patch) := by
    rw [Accepts, hok]
    rfl
  rw [serve_of_accepts accepts] at hok ⊢
  cases hi : s.find? .inst key with
  | none =>
    simp only [answer, hi] at hok
    cases hok
  | some i =>
    rw [status?_of_find? hi] at hpatch
    simp only [answer, hi] at hok ⊢
    split
    · rw [Instance.Status.decode_merge_diff hpatch]
      dsimp only
      rw [status?, find?_record, find?_put_self]
      rfl
    · next hlate =>
      rw [if_neg hlate] at hok
      cases hok

end Store

namespace Pass

variable {ε α : Type} {key : Key} {st st' : Option Instance.Status} {i : Instance}
  {Q : Request → Prop} {P : Except ε α → Prop}

/-- The contract of a pass that is not cancelled, while nobody else writes the status.  What is
known is the status that is stored. -/
def telling (key : Key) : Contract (Option Instance.Status) where
  grants _ _ := True
  answers st r answer st' := ∃ s : Store, s.Lives key ∧ s.status? key = st ∧
    (s.serve r).1 = answer ∧ (s.serve r).2.status? key = st'
  shows _ cancelled := cancelled = false

/-- What a pass has come to, and what it has made of the status that it has found. -/
inductive Told (st : Option Instance.Status) :
    Except Pass.Error Action → Option Instance.Status → Prop where
  | running (action : Action) (after : Instance.Status) (hphase : after.phase = .running) :
      Told st (.ok action) (some after)
  | unwritten (cause : Store.Error) : Told st (.error (.store cause)) st
  | failed (c : Channel) (cause : Store.Error) (after : Option Instance.Status) :
      Told st (.error (.channel c cause)) after

/-- A part of a pass has written no status, and it has failed because of the store, if at all. -/
def Unwritten (st : Option Instance.Status) (P : α → Prop) (result : Except Pass.Error α)
    (st' : Option Instance.Status) : Prop :=
  st' = st ∧ match result with
    | .ok a => P a
    | .error e => ∃ cause, e = .store cause

/-! ## Parts that write no status -/

theorem idle_telling {r : Request} (hr : ∀ version patch, r ≠ .patchStatus key version patch) :
    (telling key).Idle st r := by
  refine ⟨trivial, ?_⟩
  rintro answer st' ⟨s, hlives, hst, -, hst'⟩
  have discreet : (Operation.request r).Discreet key := by
    cases r with
    | patchStatus k version patch =>
      rintro rfl
      exact hr version patch rfl
    | _ => exact trivial
  rw [← hst, ← hst']
  exact (hlives.perform discreet).2

theorem Asks.unwritten {p : Pass ε α} (h : Asks Q p) (hQ : ∀ r, Q r → r.verb ≠ .patch) :
    p.Stays (telling key) st := by
  refine h.stays fun r hr => idle_telling ?_
  rintro version patch rfl
  exact hQ _ hr rfl

theorem Confined.unwritten {p : Pass ε α} (h : Confined Q P p) (hQ : ∀ r, Q r → r.verb ≠ .patch) :
    p.Keeps (telling key) st fun result st' => P result ∧ st' = st := by
  refine h.keeps rfl ?_
  rintro _ r rfl hr
  refine idle_telling ?_
  rintro version patch rfl
  exact hQ _ hr rfl

/-- The Instance that a pass has read, while a status is stored. -/
structure Read (key : Key) (st : Option Instance.Status) (i : Instance) : Prop where
  status : i.status = st
  alive : i.isDeleting = false
  name : i.name = key.name
  uid : i.metadata.uid.isSome

theorem tells_getInstance :
    (askStore (.getInstance key)).Keeps (telling key) st
      (Unwritten st fun found => ∃ i, found = some i ∧ Read key st i) := by
  refine keeps_askStore.2 ⟨trivial, ?_⟩
  rintro answer st' ⟨s, hlives, hst, rfl, hst'⟩
  refine ⟨(idle_telling (r := .getInstance key) nofun).2 _ _ ⟨s, hlives, hst, rfl, hst'⟩, ?_⟩
  obtain ⟨i, hi, halive⟩ := hlives.alive
  have filed := hlives.filed .inst key i hi
  cases hanswer : (s.serve (.getInstance key)).1 with
  | error e => exact ⟨e, rfl⟩
  | ok found =>
    have hfound : s.find? .inst key = found := Except.ok.inj (answer_of_ok hanswer)
    exact ⟨i, hfound.symm.trans hi, (status?_of_find? hi).symm.trans hst, halive, filed.name,
      filed.uid⟩

theorem tells_opening :
    (opening key).Keeps (telling key) st
      (Unwritten st fun found => ∃ i, found = some i ∧ Read key st i) := by
  unfold opening
  refine Keeps.bind tells_getInstance ?_ fun _ _ h => h
  rintro found st₁ ⟨rfl, i, rfl, hread⟩
  dsimp only
  split
  · refine keeps_bind.2 (keeps_checkpoint.2 ⟨fun hshows => (nomatch hshows), fun _ => ?_⟩)
    have marks : (mark key.ns i).Keeps (telling key) st₁ (Unwritten st₁ fun _ => True) := by
      refine keeps_askStore.2 ⟨trivial, fun answer st₂ ha => ⟨?_, ?_⟩⟩
      · exact (idle_telling (r := .patchFinalizers ..) nofun).2 _ _ ha
      · cases answer with
        | ok _ => trivial
        | error e => exact ⟨e, rfl⟩
    refine marks.bind ?_ fun _ _ h => h
    rintro _ st₂ ⟨rfl, -⟩
    exact tells_getInstance
  · exact ⟨rfl, i, rfl, hread⟩

/-- A pass that is not cancelled serves all channels, or it fails at one of them. -/
theorem tells_serveEach {adapters : Config.Adapters} {o : Owner} {ds : List Channel.Declaration}
    (hds : ds ⊆ i.spec.channels) :
    (serveEach adapters i o ds).Keeps (telling key) st fun result st' =>
      st' = st ∧ ∀ e, result = .error e → ∃ c cause, e = .channel c cause := by
  induction ds with
  | nil => exact ⟨rfl, fun _ he => nomatch he⟩
  | cons d ds ih =>
    obtain ⟨hd, hds⟩ := List.cons_subset.1 hds
    have serve : (serveChannel adapters i o d).Stays (telling key) st :=
      (asks_serveChannel hd).unwritten fun _ hr => verb_of_provides hr.1
    refine keeps_bind.2 (keeps_checkpoint.2 ⟨fun hshows => (nomatch hshows), fun _ => ?_⟩)
    refine keeps_bind.2 (keeps_mapError.2 (serve.mono ?_))
    rintro result _ rfl
    cases result with
    | ok link => exact Keeps.bind (ih hds) (fun _ _ h => ⟨h.1, fun _ he => nomatch he⟩) fun _ _ h => h
    | error cause => exact ⟨rfl, fun _ he => ⟨d.channel, cause, (Except.error.inj he).symm⟩⟩

theorem tells_countRuns (ns owner : String) :
    ((countRuns ns owner).mapError Pass.Error.store).Keeps (telling key) st
      (Unwritten st fun _ => True) := by
  refine keeps_mapError.2 (Keeps.mono ((asks_countRuns ns owner).unwritten ?_) ?_)
  · rintro _ rfl
    exact nofun
  · rintro result _ rfl
    cases result with
    | ok n => exact ⟨rfl, trivial⟩
    | error e => exact ⟨rfl, e, rfl⟩

/-! ## Whole passes -/

/-- The status that a pass has read is replaced by the one that it has come to, or the write has
failed. -/
theorem tells_recordStatus (hread : Read key st i) (desired : Instance.Status) :
    (recordStatus key.ns i desired).Keeps (telling key) st fun result st' =>
      match result with
      | .ok _ => st' = some desired
      | .error e => st' = st ∧ ∃ cause, e = .store cause := by
  have hkey : (⟨key.ns, i.name⟩ : Key) = key := by rw [hread.name]
  unfold recordStatus
  rw [hread.status, hkey]
  split
  · next patch hpatch =>
    refine keeps_askStore.2 ⟨trivial, ?_⟩
    rintro answer st' ⟨s, hlives, hst, hanswer, hst'⟩
    cases answer with
    | ok _ =>
      rw [← hst] at hpatch
      exact hst'.symm.trans (status?_of_ok hpatch hanswer)
    | error e =>
      have refused : ¬ s.Accepts (.patchStatus key i.metadata.resourceVersion patch) := by
        intro haccepted
        rw [Accepts, hanswer] at haccepted
        cases haccepted
      refine ⟨?_, e, rfl⟩
      rw [← hst', ← hst, status?, find?_serve_of_not_accepts refused]
      rfl
  · next hsame => exact Instance.Status.eq_of_diff_eq_none hsame

theorem told_converge (cfg : Config) (hread : Read key st i) :
    (converge cfg key.ns i).Keeps (telling key) st (Told st) := by
  unfold converge
  split
  · next hnone =>
    have huid := hread.uid
    rw [hnone] at huid
    cases huid
  · next uid huid =>
    refine Keeps.attempt_bind (tells_serveEach (List.Subset.refl _)) ?_
    rintro result st₁ ⟨rfl, hfails⟩
    cases result with
    | error e =>
      obtain ⟨c, cause, rfl⟩ := hfails e rfl
      have failure : (recordFailure key.ns i (.channel c cause)).Keeps (ε := Pass.Error) (telling key)
          st₁ fun result _ => result = .ok () ∧ True :=
        (confined_recordFailure _).keeps trivial fun _ _ _ _ => ⟨trivial, fun _ _ _ => trivial⟩
      exact failure.bind (fun _ st' _ => .failed c cause st') fun _ _ h => nomatch h.1
    | ok channels =>
      refine keeps_bind.2 (keeps_checkpoint.2 ⟨fun hshows => (nomatch hshows), fun _ => ?_⟩)
      have recalls (r : Request) (hr : r.Recalls cfg.adapters i ⟨i.name, key.ns, uid⟩) :
          r.verb ≠ .patch := verb_of_provides hr.1
      refine Keeps.bind (confined_provideMemory.unwritten recalls) ?_ fun _ _ h => nomatch h.1
      rintro _ st₂ ⟨-, rfl⟩
      refine Keeps.bind (tells_countRuns key.ns i.name) ?_ ?_
      · rintro activeRuns st₃ ⟨rfl, -⟩
        refine keeps_bind.2 (keeps_checkpoint.2 ⟨fun hshows => (nomatch hshows), fun _ => ?_⟩)
        refine Keeps.bind (tells_recordStatus hread _) ?_ ?_
        · rintro _ st₄ rfl
          exact .running _ _ rfl
        · rintro e st₄ ⟨rfl, cause, rfl⟩
          exact .unwritten cause
      · rintro e st₃ ⟨rfl, cause, rfl⟩
        exact .unwritten cause

theorem told_reconcile (cfg : Config) (key : Key) (st : Option Instance.Status) :
    (reconcile cfg key).Keeps (telling key) st (Told st) := by
  refine Keeps.opened tells_opening ?_ ?_ ?_
  · rintro st₁ ⟨-, i, hnone, -⟩
    cases hnone
  · rintro _ st₁ ⟨rfl, i, hi, hread⟩
    cases hi
    rw [advance, if_neg (by simp [hread.alive])]
    exact told_converge cfg hread
  · rintro e st₁ ⟨rfl, cause, rfl⟩
    exact .unwritten cause

/-- However others behave who leave the status alone, a pass that is not cancelled ends in one of
the ways that `Told` tells. -/
theorem told_pass (cfg : Config) {s : Store} (hs : s.Lives key) {b : Company}
    (hdiscreet : ∀ n, ∀ o ∈ b.others n, o.Discreet key) (hcalm : ∀ n, b.cancelled n = false) :
    (left s (calls cfg key b s)).Lives key ∧
      Told (s.status? key) ((reconcile cfg key).run (amid b s) []).1
        ((left s (calls cfg key b s)).status? key) := by
  refine Keeps.run (w := amid b s) (fun log => (left s log).status? key)
    (fun log => (left s log).Lives key) (told_reconcile cfg key _) hs ?_ ?_ fun _ _ => rfl
  · intro log r hlives _
    obtain ⟨hmet, hsame⟩ := hlives.run (hdiscreet log.length)
    have hleft : left s (log ++ [b.call s log r]) = (b.call s log r).after := left_append ..
    refine ⟨?_, _, hmet, hsame, rfl, ?_⟩
    · exact hleft ▸ hmet.serve r
    · exact congrArg (Store.status? · key) hleft.symm
  · exact fun log => hcalm log.length

/-! ## Passes in turn -/

/-- Some pass has failed at a channel, and all later ones because of the store. -/
def FailedAtChannel (results : List (Except Pass.Error Action)) : Prop :=
  ∃ earlier c cause later, results = earlier ++ .error (.channel c cause) :: later ∧
    ∀ result ∈ later, ∃ e, result = .error (.store e)

/-- Passes in turn that leave the error phase have found it, and have written nothing, or one of
them has failed at a channel. -/
theorem phase_of_series (cfg : Config) {s : Store} (hs : s.Lives key) {bs : List Company}
    (hdiscreet : ∀ b ∈ bs, ∀ n, ∀ o ∈ b.others n, o.Discreet key)
    (hcalm : ∀ b ∈ bs, ∀ n, b.cancelled n = false) {after : Instance.Status}
    (hafter : (series cfg key bs s).2.status? key = some after) (hphase : after.phase = .error) :
    (s.status? key = some after ∧
      ∀ result ∈ (series cfg key bs s).1, ∃ e, result = .error (.store e)) ∨
    FailedAtChannel (series cfg key bs s).1 := by
  induction bs generalizing s with
  | nil => exact .inl ⟨hafter, fun _ h => nomatch h⟩
  | cons b bs ih =>
    obtain ⟨hlives, told⟩ := told_pass cfg hs (hdiscreet b List.mem_cons_self)
      (hcalm b List.mem_cons_self)
    have rest := ih hlives (fun b' hb' => hdiscreet b' (List.mem_cons_of_mem _ hb'))
      (fun b' hb' => hcalm b' (List.mem_cons_of_mem _ hb')) hafter
    rw [show (series cfg key (b :: bs) s).1 = ((reconcile cfg key).run (amid b s) []).1 ::
      (series cfg key bs (left s (calls cfg key b s))).1 from rfl]
    rcases rest with ⟨hsame, hfails⟩ | ⟨earlier, c, cause, later, hresults, hlater⟩
    · rw [hsame] at told
      generalize ((reconcile cfg key).run (amid b s) []).1 = result,
        hbefore : s.status? key = before, hnow : some after = now at told
      cases told with
      | running action now hrunning =>
        cases hnow
        exact nomatch hrunning.symm.trans hphase
      | unwritten cause =>
        refine .inl ⟨rfl, fun result hresult => ?_⟩
        rcases List.mem_cons.1 hresult with rfl | hresult
        · exact ⟨cause, rfl⟩
        · exact hfails result hresult
      | failed c cause => exact .inr ⟨[], c, cause, _, rfl, hfails⟩
    · exact .inr ⟨_ :: earlier, c, cause, later, congrArg _ hresults, hlater⟩

/-- However often an Instance is looked at, whatever faults its passes meet, and whatever others do
who leave its status alone: if the error phase is stored that was not there in the beginning, then
some pass has failed at a channel, and all passes since then because of the store. -/
theorem error_phase_of_series (cfg : Config) (key : Key) (operations : List Operation)
    {i : Instance} (hi : (Store.empty.run operations).find? .inst key = some i)
    (halive : i.isDeleting = false) (hphase : ∀ st ∈ i.status, st.phase ≠ .error)
    (bs : List Company) (hdiscreet : ∀ b ∈ bs, ∀ n, ∀ o ∈ b.others n, o.Discreet key)
    (hcalm : ∀ b ∈ bs, ∀ n, b.cancelled n = false) {after : Instance.Status}
    (hafter : (series cfg key bs (Store.empty.run operations)).2.status? key = some after)
    (herror : after.phase = .error) :
    FailedAtChannel (series cfg key bs (Store.empty.run operations)).1 := by
  have lives : (Store.empty.run operations).Lives key := ⟨filed_empty.run operations, i, hi, halive⟩
  rcases phase_of_series cfg lives hdiscreet hcalm hafter herror with ⟨hbefore, -⟩ | hfailed
  · rw [status?_of_find? hi] at hbefore
    exact absurd herror (hphase after hbefore)
  · exact hfailed

/-- A run in which an Instance is filed that wants a channel. -/
def outspoken : List Operation :=
  [.insertInstance {
    metadata := { name := some "bot", ns := some "tenant" }
    spec := { channels := [{ channel := .telegram }] } }]

/-- A pass that has served all channels leaves the error phase of an earlier one if it cannot count
the Runs or write the status. -/
theorem error_phase_lingers :
    let key : Key := ⟨"tenant", "bot"⟩
    let s := Store.empty.run outspoken
    let down : Store.Error := .unavailable "down"
    (∃ i ∈ s.find? .inst key, i.isDeleting = false ∧ i.status = none) ∧
      ∀ o ∈ [Operation.failTimes .list .run 1 down, .failTimes .patch .inst 1 down],
        let run := series {} key [.once (.failTimes .create .deployment 1 down), .once o] s
        run.1 = [.error (.channel .telegram down), .error (.store down)] ∧
          (run.2.find? .deployment ⟨"tenant", Naming.workload "bot" .telegram⟩).isSome = true ∧
          (run.2.status? key).map Instance.Status.phase = some .error := by
  decide +kernel

theorem error_phase_of_series_lingering :
    let key : Key := ⟨"tenant", "bot"⟩
    let down : Store.Error := .unavailable "down"
    let bs : List Company := [.once (.failTimes .create .deployment 1 down),
      .once (.failTimes .list .run 1 down)]
    FailedAtChannel (series {} key bs (Store.empty.run outspoken)).1 := by
  intro key down bs
  have alive : ∀ i ∈ (Store.empty.run outspoken).find? .inst key,
      i.isDeleting = false ∧ ∀ st ∈ i.status, st.phase ≠ .error := by decide +kernel
  have lingering : ∀ after ∈ (series {} key bs (Store.empty.run outspoken)).2.status? key,
      after.phase = .error := by decide +kernel
  obtain ⟨i, hi⟩ := Option.isSome_iff_exists.1
    (show ((Store.empty.run outspoken).find? .inst key).isSome = true by decide +kernel)
  obtain ⟨after, hafter⟩ := Option.isSome_iff_exists.1 (show ((series {} key bs
    (Store.empty.run outspoken)).2.status? key).isSome = true by decide +kernel)
  refine error_phase_of_series {} key outspoken hi (alive i hi).1 (alive i hi).2 bs ?_ ?_ hafter
    (lingering after hafter)
  · intro b hb
    rcases List.mem_pair.1 hb with rfl | rfl
    · exact Company.forall_once (P := Operation.Discreet key) trivial
    · exact Company.forall_once (P := Operation.Discreet key) trivial
  · intro b hb n
    rcases List.mem_pair.1 hb with rfl | rfl <;> rfl

end Pass

end WorkloadOperator
