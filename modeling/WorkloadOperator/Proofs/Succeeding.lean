import WorkloadOperator.Proofs.Asking
import WorkloadOperator.Proofs.Tables

/-!
# What cannot fail

A store without faults refuses little: to create what is there already, to delete what is
missing, and to patch an Instance that is missing or has changed.  A pass takes the first two for
success.  So the parts of a pass that patch no Instance succeed, if no request meets a fault and
the pass is not cancelled, even if others change the store all the time.

`Succeeds` says so of a part, and `Succeeds.keeps` brings it to any contract that is fair: it knows
of no faults and of no cancellation.  In particular a pass that converges comes to the status
(`Contract.Fair.converge`).
-/

namespace WorkloadOperator

open Naming

namespace Store

/-- A store refuses to create a child with a name only if it is there already. -/
theorem isAlreadyExists_of_refused {s : Store} {c : Child} {ns : String} {o : c.Object}
    {e : Store.Error} (hname : c.kind.nameOf o ≠ "")
    (h : (s.answer (.create c ns o)).1 = .error e) : e.isAlreadyExists = true := by
  simp only [answer, if_neg hname] at h
  split at h
  · cases h
    rfl
  · cases h

/-- What is missing need not be deleted. -/
theorem ignoreMissing_answer_delete (s : Store) (c : Child) (key : Key) :
    Store.Error.ignoreMissing (s.answer (.delete c key)).1 = .ok () := by
  simp only [answer]
  split <;> rfl

end Store

namespace Pass

variable {ε δ α β σ : Type}

/-- The contract of a pass that is not cancelled, and whose requests meet no faults.  Each of them
may be answered by another store. -/
def faultless : Contract Unit where
  grants _ _ := True
  answers _ r answer _ := ∃ s : Store, (s.answer r).1 = answer
  shows _ cancelled := cancelled = false

/-- A part of a pass succeeds, if it meets no faults and the pass is not cancelled. -/
abbrev Succeeds (p : Pass ε α) : Prop := p.Keeps faultless () fun result _ => result.isOk = true

/-! ## Parts of passes -/

theorem Succeeds.bind {p : Pass ε α} {f : α → Pass ε β} (h : Succeeds p)
    (hf : ∀ a, Succeeds (f a)) : Succeeds (p.bind f) :=
  Keeps.bind h (fun a _ _ => hf a) fun _ _ he => nomatch he

theorem Succeeds.mapError {p : Pass ε α} (h : Succeeds p) (g : ε → δ) :
    Succeeds (p.mapError g) := by
  refine keeps_mapError.2 (Keeps.mono h fun result _ hok => ?_)
  cases result with
  | ok a => rfl
  | error e => cases hok

theorem succeeds_ask {r : Request} (h : ∀ s : Store, (s.answer r).1.isOk = true) :
    Succeeds (ask r) := by
  refine keeps_ask.2 ⟨trivial, ?_⟩
  rintro _ _ ⟨s, rfl⟩
  exact h s

theorem succeeds_discard (c : Child) (k : Key) : Succeeds (discard c k) := by
  refine keeps_discard.2 ⟨trivial, ?_⟩
  rintro _ _ ⟨s, rfl⟩
  rw [Store.ignoreMissing_answer_delete]
  rfl

theorem succeeds_checkpoint : Succeeds checkpoint :=
  keeps_checkpoint.2 ⟨fun h => (nomatch h), fun _ => rfl⟩

/-- A child that has a name can be provided. -/
theorem succeeds_ensure {c : Child} {k : Key} {o : c.Object} {present : c.Object → α}
    {created : Pass Store.Error α} {raced : α} (hquiet : Quiet created)
    (hname : c.kind.nameOf o ≠ "") : Succeeds (ensure c k o present created raced) := by
  refine keeps_ensure hquiet trivial (fun _ _ _ => rfl) ?_ ?_
  · rintro e _ ⟨s, hs⟩
    cases hs
  · refine fun _ _ => ⟨trivial, fun _ _ _ _ => rfl, fun _ _ _ => rfl, ?_⟩
    rintro e _ he ⟨s, hs⟩
    rw [Store.isAlreadyExists_of_refused hname hs] at he
    cases he

/-! ## Converging -/

variable {adapters : Config.Adapters} {i : Instance} {o : Owner} {d : Channel.Declaration}

theorem succeeds_provideSession : Succeeds (provideSession adapters i o d) := by
  rw [provideSession_eq]
  refine succeeds_ensure (quiet_publish _ _) ?_
  show sessionStore o.name d.channel ≠ ""
  simp [sessionStore]

theorem succeeds_provideWorkload : Succeeds (provideWorkload adapters i o d) := by
  rw [provideWorkload_eq]
  refine succeeds_ensure (quiet_publish _ _) ?_
  show workload o.name d.channel ≠ ""
  simp [workload]

theorem succeeds_serveChannel : Succeeds (serveChannel adapters i o d) := by
  unfold serveChannel
  split
  · exact succeeds_provideSession.bind fun _ => succeeds_provideWorkload
  · exact succeeds_provideWorkload

theorem succeeds_serveEach (ds : List Channel.Declaration) :
    Succeeds (serveEach adapters i o ds) := by
  induction ds with
  | nil => rfl
  | cons d ds ih =>
    refine succeeds_checkpoint.bind fun _ => ?_
    exact (succeeds_serveChannel.mapError _).bind fun _ => ih.bind fun _ => rfl

theorem succeeds_countRuns (ns owner : String) : Succeeds (countRuns ns owner) :=
  (succeeds_ask fun _ => rfl).bind fun _ => rfl

/-! ## Tearing down -/

theorem succeeds_deleteWorkloads (ns : String) (ds : List Deployment) :
    Succeeds (deleteWorkloads ns ds) := by
  induction ds with
  | nil => rfl
  | cons d ds ih =>
    refine succeeds_checkpoint.bind fun _ => ?_
    exact ((succeeds_discard _ _).mapError _).bind fun _ => ih

/-! ## Fair contracts -/

/-- A contract knows of no faults and of no cancellation, and what is known stays as long as no
Instance is patched. -/
structure Contract.Fair (c : Contract σ) (inv : σ → Prop) : Prop where
  grants : ∀ s r, inv s → r.verb ≠ .patch → c.grants s r
  answers : ∀ s r answer s', inv s → r.verb ≠ .patch → c.answers s r answer s' →
    (∃ t : Store, (t.answer r).1 = answer) ∧ inv s'
  shows : ∀ s cancelled, c.shows s cancelled → cancelled = false

variable {c : Contract σ} {inv : σ → Prop} {s : σ} {p : Pass ε α} {Q : Request → Prop}

/-- A part that cannot fail does not fail under a fair contract. -/
theorem Succeeds.keeps (h : Succeeds p) (hasks : Asks Q p) (hQ : ∀ r, Q r → r.verb ≠ .patch)
    (hc : c.Fair inv) (hs : inv s) :
    p.Keeps c s fun result s' => (∃ a, result = .ok a) ∧ inv s' := by
  induction p generalizing s with
  | done a => exact ⟨⟨a, rfl⟩, hs⟩
  | fail e => cases h
  | request r next ih =>
    have hverb := hQ r hasks.1
    refine ⟨hc.grants s r hs hverb, fun answer s' ha => ?_⟩
    obtain ⟨hfair, hs'⟩ := hc.answers s r answer s' hs hverb ha
    exact ih answer (h.2 answer () hfair) (hasks.2 answer () trivial) hs'
  | poll next ih =>
    exact fun cancelled hlook => ih cancelled (h cancelled (hc.shows s cancelled hlook))
      (hasks cancelled trivial) hs
  | publish e next ih => exact ih h hasks hs

/-- So does one whose failures do not matter. -/
theorem Confined.keeps_fair {P : Except ε α → Prop} (h : Confined Q P p)
    (hQ : ∀ r, Q r → r.verb ≠ .patch) (hc : c.Fair inv) (hs : inv s) :
    p.Keeps c s fun result s' => P result ∧ inv s' :=
  h.keeps hs fun s r hs hr => ⟨hc.grants s r hs (hQ r hr),
    fun answer s' ha => (hc.answers s r answer s' hs (hQ r hr) ha).2⟩

theorem Contract.Fair.checkpoint (hc : c.Fair inv) {q : Except Pass.Error Unit → σ → Prop}
    (h : q (.ok ()) s) : Pass.checkpoint.Keeps c s q :=
  keeps_checkpoint.2 ⟨fun hlook => (nomatch hc.shows s true hlook), fun _ => h⟩

/-- Under a fair contract a pass that converges serves all channels, and it has only the status left
to record. -/
theorem Contract.Fair.converge (hc : c.Fair inv) (cfg : Config) {ns : String}
    {q : Except Pass.Error Action → σ → Prop} (huid : i.metadata.uid.isSome = true) (hs : inv s)
    (hrecord : ∀ desired s', inv s' → ((recordStatus ns i desired).bind fun _ =>
      (.done (.requeue cfg.intervals.steady) : Pass Pass.Error Action)).Keeps c s' q) :
    (converge cfg ns i).Keeps c s q := by
  unfold Pass.converge
  split
  · next hnone =>
    rw [hnone] at huid
    cases huid
  · next uid _ =>
    have equips (r : Request) (hr : r.Equips cfg.adapters i ⟨i.name, ns, uid⟩) : r.verb ≠ .patch :=
      verb_of_provides hr.1
    have recalls (r : Request) (hr : r.Recalls cfg.adapters i ⟨i.name, ns, uid⟩) :
        r.verb ≠ .patch :=
      verb_of_provides hr.1
    have lists (r : Request) (hr : r = .listRuns ns (instanceSelector i.name)) : r.verb ≠ .patch :=
      hr ▸ nofun
    refine Keeps.attempt_bind ((succeeds_serveEach _).keeps asks_serveChannels equips hc hs) ?_
    rintro _ s₁ ⟨⟨channels, rfl⟩, h₁⟩
    refine keeps_bind.2 (hc.checkpoint ?_)
    refine Keeps.bind (confined_provideMemory.keeps_fair recalls hc h₁) ?_
      fun _ _ he => nomatch he.1
    rintro _ s₂ ⟨-, h₂⟩
    refine Keeps.bind (((succeeds_countRuns _ _).mapError _).keeps
      ((asks_countRuns _ _).mapError _) lists hc h₂) ?_ fun _ _ he => nomatch he.1
    rintro activeRuns s₃ ⟨-, h₃⟩
    exact keeps_bind.2 (hc.checkpoint (hrecord _ s₃ h₃))

end Pass

end WorkloadOperator
