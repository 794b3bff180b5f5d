import WorkloadOperator.Proofs.Company
import WorkloadOperator.Proofs.Opening
import WorkloadOperator.Proofs.Racing
import WorkloadOperator.Proofs.Releasing
import WorkloadOperator.Proofs.Succeeding

/-!
# Instances that vanish while a pass is under way

A pass that finds no Instance is content, and so is one that takes the marker off an Instance
which is gone by then.  But the other two patches of a pass insist on the Instance: the one that
puts the marker on, and the one that records the status.  So if an Instance vanishes under a pass
which is not cancelled and meets no faults, then the pass succeeds unless it comes to one of these
two, and if it does then it ends with what the store says of the missing Instance
(`succeeds_iff_of_vanishing`).
-/

namespace WorkloadOperator

open Naming

namespace Store

variable {s : Store} {key : Key}

/-- An Instance that is missing cannot be patched. -/
theorem missing_patchFinalizers (h : s.find? .inst key = none) (version : Option String)
    (finalizers : List String) : (s.answer (.patchFinalizers key version finalizers)).1 =
      .error (.notFound ("Instance " ++ key.name)) := by
  simp only [answer, h]

theorem missing_patchStatus (h : s.find? .inst key = none) (version : Option String)
    (patch : Json) : (s.answer (.patchStatus key version patch)).1 =
      .error (.notFound ("Instance " ++ key.name)) := by
  simp only [answer, h]

end Store

namespace Pass

/-- What a call meets of an Instance that vanishes directly before the call of a number.  Up to
then others leave it alone, and from then on it is gone for good.  No faults wait. -/
structure Vanishing (key : Key) (n : Nat) (s : Store) (earlier : List Call) (c : Call) : Prop where
  faultless : c.met.Faultless
  untouched : earlier.length < n → c.met.find? .inst key = (left s earlier).find? .inst key
  gone : n ≤ earlier.length → c.met.find? .inst key = none

/-- An Instance has been patched, or was to be patched, since it vanished. -/
def PatchedLate (n : Nat) (log : List Call) : Prop := ∃ c ∈ log.drop n, c.request.verb = .patch

/-- The Instance is as it was read last, unless it has vanished, and it was not patched since. -/
structure Abiding (key : Key) (n : Nat) (s : Store) (i : Instance) (log : List Call) : Prop where
  found : log.length ≤ n → (left s log).find? .inst key = some i
  prompt : ¬ PatchedLate n log

/-- How a pass ends whose Instance vanishes. -/
inductive Concludes (key : Key) (n : Nat) (i : Instance) :
    Except Pass.Error Action → List Call → Prop where
  | well (action : Action) (log : List Call) (h : PatchedLate n log → i.isDeleting = true) :
      Concludes key n i (.ok action) log
  | missing (log : List Call) (hlate : PatchedLate n log) (halive : i.isDeleting = false) :
      Concludes key n i (.error (.store (.notFound ("Instance " ++ key.name)))) log

variable {ε α : Type} {key : Key} {n : Nat} {b : Company} {s : Store} {i i' : Instance}
  {log : List Call} {c : Call} {r : Request}

/-! ## Logs -/

theorem patchedLate_append :
    PatchedLate n (log ++ [c]) ↔ PatchedLate n log ∨ n ≤ log.length ∧ c.request.verb = .patch := by
  unfold PatchedLate
  rw [List.drop_append]
  by_cases hlate : n ≤ log.length
  · rw [Nat.sub_eq_zero_of_le hlate]
    simp [hlate, or_and_right, exists_or]
  · have hnone : [c].drop (n - log.length) = [] :=
      List.drop_eq_nil_of_le (by simp; omega)
    simp [hnone, hlate]

theorem not_patchedLate_of_length_le (h : log.length ≤ n) : ¬ PatchedLate n log := by
  rintro ⟨c, hc, -⟩
  rw [List.drop_eq_nil_of_le h] at hc
  cases hc

theorem Abiding.append (h : Abiding key n s i log) (hc : Vanishing key n s log c)
    (hverb : c.request.verb ≠ .patch) : Abiding key n s i (log ++ [c]) where
  found hle := by
    rw [List.length_append, List.length_singleton] at hle
    rw [left_append]
    exact (Store.find?_serve_of_verb hverb).trans ((hc.untouched hle).trans (h.found (by omega)))
  prompt hlate := (patchedLate_append.1 hlate).elim h.prompt fun hpatch => hverb hpatch.2

/-! ## Parts that patch no Instance -/

/-- The contract of a pass whose Instance vanishes. -/
abbrev vanishing (b : Company) (s : Store) (key : Key) (n : Nat) : Contract (List Call) :=
  given b s (Vanishing key n s)

/-- A request meets the Instance as it was read, or it meets none any more. -/
theorem Abiding.met (h : Abiding key n s i log) {answer : r.Answer} {log' : List Call}
    (ha : (vanishing b s key n).answers log r answer log') :
    ∃ c : Call, c.request = r ∧ log' = log ++ [c] ∧ Vanishing key n s log c ∧
      (c.met.answer r).1 = answer ∧
      (log.length < n ∧ c.met.find? .inst key = some i ∨
        n ≤ log.length ∧ c.met.find? .inst key = none) := by
  obtain ⟨hserve, hc⟩ := ha
  cases hserve
  refine ⟨b.call s log r, rfl, rfl, hc, ?_, ?_⟩
  · rw [Call.answer, Store.serve_of_no_faults hc.faultless]
    rfl
  · rcases Nat.lt_or_ge log.length n with hlt | hge
    · exact .inl ⟨hlt, (hc.untouched hlt).trans (h.found hlt.le)⟩
    · exact .inr ⟨hge, hc.gone hge⟩

/-- A request that patches no Instance leaves it as it was read. -/
theorem Abiding.answered (h : Abiding key n s i log) (hr : r.verb ≠ .patch) {answer : r.Answer}
    {log' : List Call} (ha : (vanishing b s key n).answers log r answer log') :
    (∃ t : Store, (t.answer r).1 = answer) ∧ Abiding key n s i log' := by
  obtain ⟨c, rfl, rfl, hc, hanswer, -⟩ := h.met ha
  exact ⟨⟨c.met, hanswer⟩, h.append hc hr⟩

theorem vanishing_fair (hcancelled : ∀ m, b.cancelled m = false) :
    (vanishing b s key n).Fair (Abiding key n s i) where
  grants _ _ _ _ := trivial
  answers _ _ _ _ h hr ha := h.answered hr ha
  shows _ _ hlook := hlook.symm.trans (hcancelled _)

/-! ## Parts that patch the Instance -/

/-- The Instance is read as it is, or it is not there any more. -/
theorem vanishing_getInstance (h : Abiding key n s i log) :
    (askStore (.getInstance key)).Keeps (vanishing b s key n) log fun result log' =>
      (result = .ok (some i) ∨ result = .ok none) ∧ Abiding key n s i log' := by
  refine keeps_askStore.2 ⟨trivial, fun answer log' ha => ?_⟩
  obtain ⟨c, -, -, -, hanswer, hmet⟩ := h.met ha
  refine ⟨?_, (h.answered (r := .getInstance key) nofun ha).2⟩
  rw [← hanswer]
  exact hmet.imp (fun hmet => congrArg Except.ok hmet.2) fun hmet => congrArg Except.ok hmet.2

/-- The marker can be put on until the Instance vanishes. -/
theorem vanishing_mark (h : Abiding key n s i log) (hname : i.name = key.name)
    (halive : i.isDeleting = false) :
    (mark key.ns i).Keeps (vanishing b s key n) log fun result log' =>
      (∃ i', result = .ok () ∧ Abiding key n s i' log' ∧ i'.name = key.name ∧
        i'.metadata.uid = i.metadata.uid ∧ i'.isDeleting = false) ∨
      ∃ e, result = .error e ∧ Concludes key n i (.error e) log' := by
  have hkey : (⟨key.ns, i.name⟩ : Key) = key := by rw [hname]
  unfold mark
  rw [hkey]
  refine keeps_askStore.2 ⟨trivial, fun answer log' ha => ?_⟩
  obtain ⟨c, hr, rfl, hc, hanswer, ⟨hlt, hfind⟩ | ⟨hge, hfind⟩⟩ := h.met ha
  · have hok := Store.ok_patchFinalizers hfind (i.metadata.finalizerList ++ [Instance.marker])
    have accepted : c.met.Accepts (.patchFinalizers key i.metadata.resourceVersion
        (i.metadata.finalizerList ++ [Instance.marker])) := by
      rw [Store.Accepts, Store.serve_of_no_faults hc.faultless, hok]
      rfl
    have hafter := Store.find?_patchFinalizers hfind accepted
    rw [if_neg (by simp [halive]), ← hr, ← Call.after, ← left_append s log c] at hafter
    have hle : (log ++ [c]).length ≤ n := by
      rw [List.length_append]
      exact hlt
    refine .inl ⟨_, ?_, ⟨fun _ => hafter, not_patchedLate_of_length_le hle⟩, hname, rfl, halive⟩
    rw [← hanswer, hok]
    rfl
  · refine .inr ⟨_, ?_, .missing _ (patchedLate_append.2 (.inr ⟨hge, ?_⟩)) halive⟩
    · rw [← hanswer, Store.missing_patchFinalizers hfind]
      rfl
    · rw [hr]
      rfl

/-- The marker can be taken off, whether the Instance has vanished or not. -/
theorem vanishing_unmark (h : Abiding key n s i log) (hname : i.name = key.name) :
    (unmark key.ns i).Keeps (vanishing b s key n) log fun result _ => result = .ok () := by
  have hkey : (⟨key.ns, i.name⟩ : Key) = key := by rw [hname]
  unfold unmark
  rw [hkey]
  refine ⟨trivial, fun answer log' ha => ?_⟩
  obtain ⟨c, -, -, -, hanswer, hmet⟩ := h.met ha
  have hignored : Store.Error.ignoreMissing answer = .ok () := by
    rcases hmet with ⟨-, hfind⟩ | ⟨-, hfind⟩
    · rw [← hanswer, Store.ok_patchFinalizers hfind]
      rfl
    · rw [← hanswer, Store.missing_patchFinalizers hfind]
      rfl
  dsimp only
  rw [hignored]
  rfl

/-- The status can be recorded until the Instance vanishes. -/
theorem vanishing_recordStatus (h : Abiding key n s i log) (hname : i.name = key.name)
    (halive : i.isDeleting = false) (desired : Instance.Status) :
    (recordStatus key.ns i desired).Keeps (vanishing b s key n) log fun result log' =>
      result = .ok () ∧ ¬ PatchedLate n log' ∨
        ∃ e, result = .error e ∧ Concludes key n i (.error e) log' := by
  have hkey : (⟨key.ns, i.name⟩ : Key) = key := by rw [hname]
  unfold recordStatus
  rw [hkey]
  split
  · next patch hpatch =>
    refine keeps_askStore.2 ⟨trivial, fun answer log' ha => ?_⟩
    obtain ⟨c, hr, rfl, -, hanswer, ⟨hlt, hfind⟩ | ⟨hge, hfind⟩⟩ := h.met ha
    · refine .inl ⟨?_, not_patchedLate_of_length_le ?_⟩
      · rw [← hanswer, Store.ok_patchStatus hfind hpatch]
        rfl
      · rw [List.length_append]
        exact hlt
    · refine .inr ⟨_, ?_, .missing _ (patchedLate_append.2 (.inr ⟨hge, ?_⟩)) halive⟩
      · rw [← hanswer, Store.missing_patchStatus hfind]
        rfl
      · rw [hr]
        rfl
  · exact .inl ⟨rfl, h.prompt⟩

/-! ## Whole passes -/

theorem concludes_converge (cfg : Config) (hcancelled : ∀ m, b.cancelled m = false)
    (h : Abiding key n s i log) (hname : i.name = key.name) (huid : i.metadata.uid.isSome = true)
    (halive : i.isDeleting = false) :
    (converge cfg key.ns i).Keeps (vanishing b s key n) log (Concludes key n i) := by
  refine (vanishing_fair hcancelled).converge cfg huid h fun desired log' h' => ?_
  refine Keeps.bind (vanishing_recordStatus h' hname halive desired) ?_ ?_
  · rintro _ log'' (⟨-, hprompt⟩ | ⟨e, he, -⟩)
    · exact .well _ _ fun hlate => absurd hlate hprompt
    · cases he
  · rintro e log'' (⟨he, -⟩ | ⟨e', he, hconcludes⟩)
    · cases he
    · cases he
      exact hconcludes

theorem concludes_teardown (intervals : Config.Intervals) (hcancelled : ∀ m, b.cancelled m = false)
    (h : Abiding key n s i log) (hname : i.name = key.name) (hdeleting : i.isDeleting = true) :
    (teardown intervals key.ns i).Keeps (vanishing b s key n) log (Concludes key n i) := by
  have fair : (vanishing b s key n).Fair (Abiding key n s i) := vanishing_fair hcancelled
  have listed {log : List Call} (h : Abiding key n s i log) (selector : String) :=
    ((succeeds_ask (r := .list .deployment key.ns selector) fun _ => rfl).mapError
      Pass.Error.store).keeps (Q := (· = .list .deployment key.ns selector))
      (asks_askStore rfl) (fun _ hr => hr ▸ nofun) fair h
  have deletes (r : Request) (hr : ∃ k, r = .delete .deployment k) : r.verb ≠ .patch := by
    obtain ⟨k, rfl⟩ := hr
    exact nofun
  have empties (r : Request) (hr : r.Empties key.ns) : r.verb ≠ .patch := by
    cases hr <;> exact nofun
  unfold teardown
  refine Keeps.bind (listed h _) ?_ fun _ _ he => nomatch he.1
  rintro workloads log₁ ⟨-, h₁⟩
  refine Keeps.bind ((succeeds_deleteWorkloads _ workloads).keeps (asks_deleteWorkloads _ _)
    deletes fair h₁) ?_ fun _ _ he => nomatch he.1
  rintro _ log₂ ⟨-, h₂⟩
  refine Keeps.bind (listed h₂ _) ?_ fun _ _ he => nomatch he.1
  rintro remaining log₃ ⟨-, h₃⟩
  split
  · exact .well _ _ fun _ => hdeleting
  refine Keeps.bind ((confined_deleteStores _ _ _).keeps_fair empties fair h₃) ?_
    fun _ _ he => nomatch he.1
  rintro _ log₄ ⟨-, h₄⟩
  split
  · exact .well _ _ fun _ => hdeleting
  refine keeps_bind.2 (fair.checkpoint ?_)
  show ((unmark key.ns i).bind fun _ => (.done .awaitChange : Pass Pass.Error Action)).Keeps
    (vanishing b s key n) log₄ (Concludes key n i)
  exact Keeps.bind (vanishing_unmark h₄ hname) (fun _ _ _ => .well _ _ fun _ => hdeleting)
    fun _ _ he => nomatch he

/-- What a pass opens with: its Instance as it is now, or none if it has vanished. -/
theorem vanishing_opening (hcancelled : ∀ m, b.cancelled m = false) (h : Abiding key n s i [])
    (hname : i.name = key.name) (huid : i.metadata.uid.isSome = true) :
    (opening key).Keeps (vanishing b s key n) [] fun result log =>
      (∃ i', result = .ok (some i') ∧ Abiding key n s i' log ∧ i'.name = key.name ∧
        i'.metadata.uid.isSome = true ∧ i'.isDeleting = i.isDeleting) ∨
      result = .ok none ∧ ¬ PatchedLate n log ∨
        ∃ e, result = .error e ∧ Concludes key n i (.error e) log := by
  unfold opening
  refine Keeps.bind (vanishing_getInstance h) ?_ fun _ _ he => he.1.elim nofun nofun
  rintro found log₁ ⟨hfound | hfound, h₁⟩ <;> cases hfound
  · dsimp only
    split
    · next hstage =>
      have halive := Instance.not_isDeleting_of_stage (.inl hstage)
      refine keeps_bind.2 ((vanishing_fair (i := i) hcancelled).checkpoint ?_)
      refine Keeps.bind (vanishing_mark h₁ hname halive) ?_ ?_
      · rintro _ log₂ (⟨i', -, h₂, hname', huid', halive'⟩ | ⟨e, he, -⟩)
        · refine (vanishing_getInstance h₂).mono ?_
          rintro _ log₃ ⟨rfl | rfl, h₃⟩
          · exact .inl ⟨i', rfl, h₃, hname', huid'.symm ▸ huid, halive'.trans halive.symm⟩
          · exact .inr (.inl ⟨rfl, h₃.prompt⟩)
        · cases he
      · rintro e log₂ (⟨_, he, -⟩ | ⟨e', he, h₂⟩)
        · cases he
        · cases he
          exact .inr (.inr ⟨e, rfl, h₂⟩)
    · exact .inl ⟨i, rfl, h₁, hname, huid, rfl⟩
  · exact .inr (.inl ⟨rfl, h₁.prompt⟩)

theorem concludes_reconcile (cfg : Config) (hcancelled : ∀ m, b.cancelled m = false)
    (h : Abiding key n s i []) (hname : i.name = key.name)
    (huid : i.metadata.uid.isSome = true) :
    (reconcile cfg key).Keeps (vanishing b s key n) [] (Concludes key n i) := by
  refine Keeps.opened (vanishing_opening hcancelled h hname huid) ?_ ?_ ?_
  · rintro log (⟨_, he, -⟩ | ⟨-, hprompt⟩ | ⟨_, he, -⟩)
    · cases he
    · exact .well _ _ fun hlate => absurd hlate hprompt
    · cases he
  · rintro found log (⟨i', he, h', hname', huid', hdeleting⟩ | ⟨he, -⟩ | ⟨_, he, -⟩)
    · cases he
      -- whether the Instance is being deleted has not changed, and it is all that matters of it
      have concludes : (advance cfg key.ns found).Keeps (vanishing b s key n) log
          (Concludes key n found) := by
        unfold advance
        split
        · next hdeleting => exact concludes_teardown _ hcancelled h' hname' hdeleting
        · next halive =>
          exact concludes_converge cfg hcancelled h' hname' huid' (Bool.not_eq_true _ ▸ halive)
      refine concludes.mono fun result log' hends => ?_
      cases hends with
      | well action log' hlate => exact .well action log' fun hl => hdeleting ▸ hlate hl
      | missing log' hlate halive => exact .missing log' hlate (hdeleting ▸ halive)
    · cases he
    · cases he
  · rintro e log (⟨_, he, -⟩ | ⟨he, -⟩ | ⟨e', he, hends⟩)
    · cases he
    · cases he
    · cases he
      exact hends

/-- If its Instance vanishes for good under a pass that is not cancelled and meets no faults, then
the pass succeeds unless it has to patch an Instance afterwards that was not being deleted.  In
that case it ends with what the store says of the missing Instance. -/
theorem succeeds_iff_of_vanishing (cfg : Config) (key : Key) (b : Company)
    (operations : List Operation) (n : Nat) {i : Instance}
    (hi : (Store.empty.run operations).find? .inst key = some i)
    (hcancelled : ∀ m, b.cancelled m = false)
    (hvanishing : Throughout (Vanishing key n (Store.empty.run operations))
      (calls cfg key b (Store.empty.run operations))) :
    let pass := (reconcile cfg key).run (amid b (Store.empty.run operations)) []
    ((∃ action, pass.1 = .ok action) ↔
        ∀ c ∈ pass.2.drop n, c.request.verb = .patch → i.isDeleting = true) ∧
      ∀ e, pass.1 = .error e → e = .store (.notFound ("Instance " ++ key.name)) := by
  intro pass
  have filed := Store.filed_empty.run operations .inst key i hi
  have abiding : Abiding key n (Store.empty.run operations) i [] :=
    ⟨fun _ => hi, not_patchedLate_of_length_le (Nat.zero_le n)⟩
  have concludes : Concludes key n i pass.1 pass.2 :=
    Keeps.result_given (concludes_reconcile cfg hcancelled abiding filed.name filed.uid)
      hvanishing
  generalize pass.1 = result, pass.2 = log at concludes
  cases concludes with
  | well action log hlate =>
    refine ⟨iff_of_true ⟨action, rfl⟩ fun c hc hverb => hlate ⟨c, hc, hverb⟩, nofun⟩
  | missing log hlate halive =>
    refine ⟨iff_of_false nofun fun h => ?_, fun e he => (Except.error.inj he).symm⟩
    obtain ⟨c, hc, hverb⟩ := hlate
    exact Bool.false_ne_true (halive.symm.trans (h c hc hverb))

/-- An Instance that declares one channel. -/
def fleeting : Instance where
  metadata := { name := some "bot", ns := some "tenant" }
  spec := { channels := [{ channel := .telegram }] }

/-- Somebody who removes an Instance just before a pass records its status. -/
def remover : Company where
  others m :=
    if m = 6 then [.requestDeletion ⟨"tenant", "bot"⟩,
      .request (.patchFinalizers ⟨"tenant", "bot"⟩ none [])]
    else []

/-- A pass that has served the channels of its Instance fails because that has vanished. -/
theorem succeeds_iff_of_vanishing_before_status :
    let key : Key := ⟨"tenant", "bot"⟩
    let s := Store.empty.run [.insertInstance fleeting]
    let pass := (reconcile {} key).run (amid remover s) []
    (∃ i ∈ s.find? .inst key, i.isDeleting = false) ∧ (∀ m, remover.cancelled m = false) ∧
      Throughout (Vanishing key 6 s) (calls {} key remover s) ∧
      (¬ ∃ action, pass.1 = .ok action) ∧
      ∀ e, pass.1 = .error e → e = .store (.notFound "Instance bot") := by
  intro key s pass
  have alive : ∃ i ∈ s.find? .inst key, i.isDeleting = false := by decide +kernel
  have met : ∀ m < 7, ∀ c ∈ (calls {} key remover s)[m]?, c.met.Faultless ∧
      (m < 6 → c.met.find? .inst key = (left s ((calls {} key remover s).take m)).find? .inst key) ∧
      (6 ≤ m → c.met.find? .inst key = none) := by
    decide +kernel
  have length : (calls {} key remover s).length = 7 := by decide +kernel
  have vanishing : Throughout (Vanishing key 6 s) (calls {} key remover s) := by
    refine throughout_of_getElem? fun m c hc => ?_
    have hm := (List.getElem?_eq_some_iff.1 hc).1
    obtain ⟨faultless, untouched, gone⟩ := met m (length ▸ hm) c hc
    have htake : ((calls {} key remover s).take m).length = m := List.length_take_of_le hm.le
    exact ⟨faultless, htake.symm ▸ untouched, htake.symm ▸ gone⟩
  have late : ∃ c ∈ pass.2.drop 6, c.request.verb = .patch := by decide +kernel
  obtain ⟨i, hi, halive⟩ := alive
  obtain ⟨succeeds, missing⟩ := succeeds_iff_of_vanishing {} key remover
    [.insertInstance fleeting] 6 hi (fun _ => rfl) vanishing
  refine ⟨⟨i, hi, halive⟩, fun _ => rfl, vanishing, fun hok => ?_, missing⟩
  obtain ⟨c, hc, hverb⟩ := late
  exact Bool.false_ne_true (halive.symm.trans (succeeds.1 hok c hc hverb))

end Pass

end WorkloadOperator
