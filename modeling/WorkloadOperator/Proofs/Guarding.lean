import WorkloadOperator.Proofs.Asking
import WorkloadOperator.Proofs.Custody
import WorkloadOperator.Proofs.Opening

/-!
# How passes keep the custody

The contract of a pass for an Instance: it creates workloads for this Instance only,
and only when it knows of the marker, and it takes the marker off this Instance only,
and only when it knows that no workload serves it.  `keeps_reconcile` says that
every pass keeps to the contract, whatever it is answered and wherever it is
cancelled.
-/

namespace WorkloadOperator

open Naming Selector

namespace Pass

/-- What a pass knows of its Instance. -/
inductive Knowledge where
  | nothing
  | marked
  | cleared

namespace Knowledge

/-- What is known is true of a store. -/
def Holds (s : Store) (key : Key) : Knowledge → Prop
  | nothing => True
  | marked => s.Marked key
  | cleared => s.Cleared key

/-- What is known after an answer. -/
def learn (known : Knowledge) : (r : Request) → r.Answer → Knowledge
  | .getInstance _, .ok (some i) => if i.isMarked then marked else known
  | .list .deployment _ _, .ok [] => cleared
  | .patchFinalizers _ _ finalizers, .ok () =>
    if Instance.marker ∈ finalizers then marked else nothing
  | _, _ => known

/-- What may be asked. -/
def Grants (key : Key) (known : Knowledge) : Request → Prop
  | .getInstance k => k = key
  | .create .deployment ns d =>
    known = marked ∧ ns = key.ns ∧ d.metadata.label? instanceKey = some key.name
  | .list .deployment ns selector =>
    ns = key.ns ∧ selector = componentSelector key.name channelComponent ∧ Plain key.name
  | .patchFinalizers k _ finalizers => k = key ∧ (Instance.marker ∈ finalizers ∨ known = cleared)
  | _ => True

/-- What may be answered: an Instance that is read is the one that was asked for, and its
name can stand in a selector. -/
def Plausible (key : Key) : (r : Request) → r.Answer → Prop
  | .getInstance _, .ok (some i) => i.name = key.name ∧ Plain key.name
  | _, _ => True

end Knowledge

/-- The contract of a pass for the Instance under a key. -/
def custody (key : Key) : Contract Knowledge where
  grants := Knowledge.Grants key
  answers known r answer known' := Knowledge.Plausible key r answer ∧ known' = known.learn r answer
  shows _ _ := True

variable {ε : Type} {key : Key} {known : Knowledge} {i : Instance}
  {adapters : Config.Adapters}

/-- A request that is granted and teaches nothing. -/
theorem idle_of_grants {r : Request} (hr : Knowledge.Grants key known r)
    (h : ∀ answer, known.learn r answer = known) : (custody key).Idle known r := by
  refine ⟨hr, ?_⟩
  rintro answer known' ⟨-, rfl⟩
  exact h answer

/-- What brings an Instance to what it declares is granted when the marker is known to be there
all the time. -/
theorem idle_of_converges {r : Request} (hname : i.name = key.name)
    (hr : r.Converges adapters key.ns i) : (custody key).Idle .marked r := by
  cases hr with
  | provides uid huid r hr =>
    cases hr with
    | get c k => exact idle_of_grants trivial fun _ => rfl
    | create c object hwants =>
      cases hwants with
      | session d hd hkeeps => exact idle_of_grants trivial fun _ => rfl
      | workload d hd =>
        let o : Owner := ⟨i.name, key.ns, uid⟩
        have hlabel : (o.workload d adapters).metadata.label? instanceKey = some key.name := by
          rw [← hname]
          exact label?_channelLabels o _ d.channel
        exact idle_of_grants ⟨rfl, rfl, hlabel⟩ fun _ => rfl
      | memory hwants => exact idle_of_grants trivial fun _ => rfl
  | listRuns => exact idle_of_grants trivial fun _ => rfl
  | patchStatus patch => exact idle_of_grants trivial fun _ => rfl

theorem idle_of_empties {r : Request} {ns : String} (hr : r.Empties ns) :
    (custody key).Idle known r := by
  cases hr <;> exact idle_of_grants trivial fun _ => rfl

/-- Workloads are created, and the marker is known to be there all the time. -/
theorem stays_converge (cfg : Config) (hname : i.name = key.name) :
    (converge cfg key.ns i).Stays (custody key) .marked :=
  (asks_converge cfg).stays fun _ => idle_of_converges hname

/-! ## Tearing down -/

theorem stays_deleteWorkloads (ns : String) (ds : List Deployment) :
    (deleteWorkloads ns ds).Stays (custody key) known := by
  refine (asks_deleteWorkloads ns ds).stays ?_
  rintro _ ⟨k, rfl⟩
  exact idle_of_grants trivial fun _ => rfl

theorem stays_deleteStores (ns name selector : String) :
    (deleteStores (ε := ε) ns name selector).Stays (custody key) known :=
  (asks_deleteStores ns name selector).stays fun _ => idle_of_empties

/-- What a pass learns from a list of the workloads. -/
theorem keeps_listWorkloads (hname : i.name = key.name) (hplain : Plain key.name) :
    (askStore (.list .deployment key.ns (componentSelector i.name channelComponent))).Keeps
      (custody key) known fun found known' => found = .ok [] → known' = .cleared := by
  refine keeps_askStore.2 ⟨⟨rfl, by rw [hname], hplain⟩, ?_⟩
  rintro answer known' ⟨-, rfl⟩ hnone
  cases answer with
  | error e => cases hnone
  | ok found =>
    cases hnone
    rfl

theorem keeps_unmark (hname : i.name = key.name) :
    (unmark key.ns i).Keeps (custody key) .cleared fun _ _ => True := by
  refine ⟨⟨by rw [hname], .inr rfl⟩, ?_⟩
  intro answer known' _
  cases h : Store.Error.ignoreMissing answer <;> simp only [h] <;> trivial

/-- The marker is taken off after an empty list of workloads only. -/
theorem keeps_teardown (intervals : Config.Intervals) (hname : i.name = key.name)
    (hplain : Plain key.name) :
    (teardown intervals key.ns i).Keeps (custody key) known fun _ _ => True := by
  unfold teardown
  refine Keeps.bind (keeps_listWorkloads hname hplain) ?_ fun _ _ _ => trivial
  intro workloads known' _
  refine (stays_deleteWorkloads key.ns workloads).before ?_ fun _ => trivial
  intro _
  refine Keeps.bind (keeps_listWorkloads hname hplain) ?_ fun _ _ _ => trivial
  intro remaining known' hcleared
  split
  · trivial
  · next hnone =>
    cases Classical.not_not.1 hnone
    cases hcleared rfl
    refine (stays_deleteStores key.ns i.name _).before ?_ fun _ => trivial
    intro _
    split
    · trivial
    · refine stays_checkpoint.before ?_ fun _ => trivial
      intro _
      refine (stays_tell _).before ?_ fun _ => trivial
      intro _
      exact Keeps.bind (keeps_unmark hname) (fun _ _ _ => trivial) fun _ _ _ => trivial

/-! ## Whole passes -/

theorem keeps_mark (hname : i.name = key.name) :
    (mark key.ns i).Keeps (custody key) known fun result known' =>
      result = .ok () → known' = .marked := by
  have hmarker : Instance.marker ∈ i.metadata.finalizerList ++ [Instance.marker] :=
    List.mem_append_right _ (List.mem_singleton_self _)
  refine keeps_askStore.2 ⟨⟨by rw [hname], .inl hmarker⟩, ?_⟩
  rintro answer known' ⟨-, rfl⟩ hok
  cases answer with
  | error e => cases hok
  | ok _ =>
    show (if Instance.marker ∈ i.metadata.finalizerList ++ [Instance.marker] then Knowledge.marked
      else Knowledge.nothing) = .marked
    rw [if_pos hmarker]

/-- What a pass learns when it reads the Instance. -/
theorem keeps_readInstance :
    (askStore (.getInstance key)).Keeps (custody key) known fun found known' =>
      ∀ i, found = .ok (some i) → i.name = key.name ∧ Plain key.name ∧
        (i.isMarked = true ∨ known = .marked → known' = .marked) := by
  refine keeps_askStore.2 ⟨rfl, ?_⟩
  rintro answer known' ⟨hread, rfl⟩ i hfound
  cases answer with
  | error e => cases hfound
  | ok found =>
    cases hfound
    refine ⟨hread.1, hread.2, ?_⟩
    intro hmarked
    show (if i.isMarked then Knowledge.marked else known) = .marked
    split
    · rfl
    · next hnot => exact hmarked.resolve_left hnot

/-- An Instance that a pass goes on with has the marker, unless it is being deleted. -/
theorem keeps_opening :
    (opening key).Keeps (custody key) .nothing fun found known =>
      ∀ i, found = .ok (some i) →
        i.name = key.name ∧ Plain key.name ∧ (i.isDeleting = false → known = .marked) := by
  refine Keeps.bind keeps_readInstance ?_ fun _ _ _ _ h => nomatch h
  intro found known hread
  cases found with
  | none => exact fun _ h => nomatch h
  | some i =>
    obtain ⟨hname, hplain, hmarked⟩ := hread i rfl
    dsimp only
    split
    · refine stays_checkpoint.before (fun _ => ?_) fun _ _ h => nomatch h
      refine Keeps.bind (keeps_mark hname) ?_ fun _ _ _ _ h => nomatch h
      intro _ known' hok
      cases hok rfl
      refine keeps_readInstance.mono fun found known' hread fresh hfound => ?_
      obtain ⟨hname, hplain, hmarked⟩ := hread fresh hfound
      exact ⟨hname, hplain, fun _ => hmarked (.inr rfl)⟩
    · next hstage =>
      rintro _ ⟨⟩
      refine ⟨hname, hplain, fun halive => hmarked (.inl ?_)⟩
      exact Instance.isMarked_of_alive ((Instance.stage_of_not_isDeleting halive).resolve_left hstage)

theorem keeps_advance (cfg : Config) (hname : i.name = key.name) (hplain : Plain key.name)
    (hmarked : i.isDeleting = false → known = .marked) :
    (advance cfg key.ns i).Keeps (custody key) known fun _ _ => True := by
  unfold advance
  split
  · exact keeps_teardown cfg.intervals hname hplain
  · next halive =>
    cases hmarked (Bool.not_eq_true _ ▸ halive)
    exact (stays_converge cfg hname).mono fun _ _ _ => trivial

/-- Every pass keeps the custody. -/
theorem keeps_reconcile (cfg : Config) :
    (reconcile cfg key).Keeps (custody key) .nothing fun _ _ => True := by
  refine keeps_opening.opened (fun _ _ => trivial) ?_ fun _ _ _ => trivial
  intro i known hfound
  obtain ⟨hname, hplain, hmarked⟩ := hfound i rfl
  exact keeps_advance cfg hname hplain hmarked

/-! ## What a request does to what is known -/

namespace Knowledge

variable {s : Store} {k : Key} {r : Request}

/-- The marker is taken off the own Instance only, and only if that is cleared. -/
theorem Grants.of_releases (h : Grants key known r) (hr : r.Releases k) :
    k = key ∧ known = cleared := by
  cases r with
  | patchFinalizers k' version finalizers =>
    obtain ⟨rfl, hnot⟩ := hr
    exact ⟨h.1, h.2.resolve_left hnot⟩
  | getInstance | get | create | list | delete | listRuns | patchStatus => cases hr

/-- Workloads are created for the own Instance only, and only if that is marked. -/
theorem Grants.of_employs (h : Grants key known r) (hr : r.Employs k) :
    k = key ∧ known = marked := by
  cases r with
  | create c ns d =>
    cases c with
    | deployment =>
      obtain ⟨hns, hserves⟩ := hr
      obtain ⟨hmarked, hns', hlabel⟩ := h
      have hname : k.name = key.name := Option.some.inj (hserves.2.symm.trans hlabel)
      exact ⟨Key.ext (hns.symm.trans hns') hname, hmarked⟩
    | volumeClaim => cases hr
    | configMap => cases hr
  | getInstance | get | list | delete | listRuns | patchFinalizers | patchStatus => cases hr

/-- What another pass knows stays true. -/
theorem Holds.serve_of_ne {known' : Knowledge} (h : known'.Holds s k) (hr : Grants key known r)
    (hne : k ≠ key) : known'.Holds (s.serve r).2 k := by
  cases known' with
  | nothing => trivial
  | marked => exact Store.Marked.serve h fun hrel => hne (hr.of_releases hrel).1
  | cleared => exact Store.Cleared.serve h fun hemp => hne (hr.of_employs hemp).1

/-- What the pass itself knows stays true, too. -/
theorem Holds.serve (h : known.Holds s key) (hr : Grants key known r) :
    known.Holds (s.serve r).2 key := by
  cases known with
  | nothing => trivial
  | marked =>
    refine Store.Marked.serve h fun hrel => ?_
    cases (hr.of_releases hrel).2
  | cleared =>
    refine Store.Cleared.serve h fun hemp => ?_
    cases (hr.of_employs hemp).2

/-- What others do changes nothing of what is known. -/
theorem Holds.perform (h : known.Holds s key) {o : Operation} (ho : s.Respects o) :
    known.Holds (s.perform o) key := by
  cases known with
  | nothing => trivial
  | marked => exact Store.Marked.perform h ho
  | cleared => exact Store.Cleared.perform h ho

theorem learn_error (e : Store.Error) : known.learn r (.error e) = known := by
  cases r with
  | list c ns selector => cases c <;> rfl
  | getInstance | get | create | delete | listRuns | patchFinalizers | patchStatus => rfl

/-- What is learned from an answer is true. -/
theorem Holds.learn (h : known.Holds s key) (hr : Grants key known r) :
    (known.learn r (s.serve r).1).Holds (s.serve r).2 key := by
  have kept := h.serve hr
  rcases Store.serve_cases s r with ⟨e, faults, hserve⟩ | hserve
  · rw [hserve] at kept ⊢
    rw [learn_error]
    exact kept
  · rw [hserve] at kept ⊢
    cases r with
    | getInstance k =>
      cases hr
      have hanswer : (s.answer (.getInstance key)).1 = .ok (s.find? .inst key) := rfl
      rw [hanswer]
      cases hfind : s.find? .inst key with
      | none => exact kept
      | some i =>
        show Holds s key (if i.isMarked then marked else known)
        split
        · next hm => exact ⟨i, hfind, hm⟩
        · exact kept
    | list c ns selector =>
      cases c with
      | deployment =>
        obtain ⟨rfl, rfl, hplain⟩ := hr
        have hanswer : (s.answer (.list .deployment key.ns
            (componentSelector key.name channelComponent))).1 =
            .ok (s.select .deployment key.ns (componentSelector key.name channelComponent)) := rfl
        rw [hanswer]
        cases hselect : s.select .deployment key.ns (componentSelector key.name channelComponent) with
        | nil => exact Store.cleared_of_select hplain hselect
        | cons d ds => exact kept
      | volumeClaim => exact kept
      | configMap => exact kept
    | patchFinalizers k version finalizers =>
      obtain ⟨rfl, _⟩ := hr
      cases hanswer : (s.answer (.patchFinalizers k version finalizers)).1 with
      | error e => exact kept
      | ok _ =>
        show Holds _ k (if Instance.marker ∈ finalizers then marked else nothing)
        split
        · next hm => exact Store.marked_of_patch hanswer hm
        · trivial
    | get | create | delete | listRuns | patchStatus => exact kept

/-- An Instance that is read is the one that was asked for. -/
theorem plausible_serve (hfiled : s.Filed) (hnamed : s.Named) (hr : Grants key known r) :
    Plausible key r (s.serve r).1 := by
  cases r with
  | getInstance k =>
    cases hr
    cases hanswer : (s.serve (.getInstance key)).1 with
    | error e => trivial
    | ok found =>
      cases found with
      | none => trivial
      | some i =>
        have hfind := Store.find?_of_read hanswer
        exact ⟨(hfiled .inst key i hfind).name, hnamed key i hfind⟩
  | get | create | list | delete | listRuns | patchFinalizers | patchStatus => trivial

end Knowledge

end Pass

/-! ## Worlds -/

namespace Store

open Pass Pass.Knowledge

variable {s : Store} {key : Key} {known : Knowledge} {r : Request}

/-- A request of a pass keeps the custody. -/
theorem Guarded.serve (h : s.Guarded) (hknown : known.Holds s key) (hr : Grants key known r) :
    (s.serve r).2.Guarded := by
  intro k
  rcases h k with hm | hc
  · by_cases hrel : r.Releases k
    · obtain ⟨rfl, rfl⟩ := hr.of_releases hrel
      exact .inr (hknown.serve hr)
    · exact .inl (hm.serve hrel)
  · by_cases hemp : r.Employs k
    · obtain ⟨rfl, rfl⟩ := hr.of_employs hemp
      exact .inl (hknown.serve hr)
    · exact .inr (hc.serve hemp)

end Store

open Pass

/-- A pass under way knows something true, and keeps to the contract with what is left
of it. -/
def Flight.Informed (s : Store) (f : Flight) : Prop :=
  ∃ known : Knowledge, known.Holds s f.key ∧
    f.rest.Keeps (custody f.key) known fun _ _ => True

theorem Flight.informed_of_isOver {f : Flight} (h : f.IsOver) (s : Store) : f.Informed s := by
  obtain ⟨key, rest, cancelled⟩ := f
  refine ⟨.nothing, trivial, ?_⟩
  cases rest with
  | done a => trivial
  | fail e => trivial
  | request r next => cases h
  | poll next => cases h
  | publish e next => cases h

/-- The rules of a world in which others respect the custody. -/
def World.custodial : World.Rules where
  operation := Store.Respects

instance (s : Store) (o : Operation) : Decidable (World.custodial.operation s o) :=
  inferInstanceAs (Decidable (s.Respects o))

instance (key : Key) : Decidable (World.custodial.start key) := isTrue trivial

instance (s : Store) (f : Flight) : Decidable (World.custodial.turn s f) := isTrue trivial

/-- What is true of every store under the custodial rules. -/
structure Store.Sound (s : Store) : Prop where
  filed : s.Filed
  named : s.Named
  guarded : s.Guarded

theorem Store.sound_empty : empty.Sound where
  filed := filed_empty
  named := named_empty
  guarded := by
    refine fun key => .inr fun k d hd => ?_
    rw [find?_empty] at hd
    cases hd

/-- A step of a pass keeps the custody, and what passes for other Instances know. -/
theorem Flight.Informed.turn {s : Store} {f : Flight} (h : f.Informed s) (hs : s.Sound) :
    (f.turn s).2.Sound ∧ (f.turn s).1.Informed (f.turn s).2 ∧
      ∀ g : Flight, g.key ≠ f.key → g.Informed s → g.Informed (f.turn s).2 := by
  obtain ⟨key, rest, cancelled⟩ := f
  obtain ⟨known, hknown, hkeeps⟩ := h
  cases rest with
  | done a => exact ⟨hs, ⟨known, hknown, hkeeps⟩, fun _ _ hg => hg⟩
  | fail e => exact ⟨hs, ⟨known, hknown, hkeeps⟩, fun _ _ hg => hg⟩
  | request r next =>
    obtain ⟨hgrants, hnext⟩ := hkeeps
    refine ⟨⟨hs.filed.serve r, hs.named.serve r, hs.guarded.serve hknown hgrants⟩, ?_, ?_⟩
    · have hread := Knowledge.plausible_serve hs.filed hs.named hgrants
      exact ⟨_, hknown.learn hgrants, hnext _ _ ⟨hread, rfl⟩⟩
    · rintro g hne ⟨known', hknown', hkeeps'⟩
      exact ⟨known', hknown'.serve_of_ne hgrants hne, hkeeps'⟩
  | poll next => exact ⟨hs, ⟨known, hknown, hkeeps cancelled trivial⟩, fun _ _ hg => hg⟩
  | publish e next => exact ⟨hs, ⟨known, hknown, hkeeps⟩, fun _ _ hg => hg⟩

namespace World

variable {cfg : Config}

theorem custodial_upkeep : custodial.Upkeep cfg Store.Sound fun s f => f.Informed s where
  operation := by
    intro s o hs ho
    have hnamed : (s.perform o).Named := hs.named.perform fun i he => by
      subst he
      exact ho.2
    refine ⟨⟨hs.filed.perform o, hnamed, hs.guarded.perform ho⟩, ?_⟩
    rintro f ⟨known, hknown, hkeeps⟩
    exact ⟨known, hknown.perform ho, hkeeps⟩
  start := fun _ _ _ _ => ⟨.nothing, trivial, keeps_reconcile cfg⟩
  cancel := fun _ _ h => h
  finished := fun s _ h => Flight.informed_of_isOver h s
  turn := fun _ _ hs hf _ => hf.turn hs

/-- A workload that serves a channel of an Instance has the Instance there with the
marker on it, in every world that others and any number of passes have made, wherever
requests have failed and passes were cancelled. -/
theorem marked_of_workload {moves : List Move} (lawful : Lawful custodial.law cfg {} moves)
    {key : Key} {d : Deployment} {name : String}
    (hd : (run cfg {} moves).store.find? .deployment key = some d)
    (hserves : Serves name d.metadata) :
    ∃ i, (run cfg {} moves).store.find? .inst ⟨key.ns, name⟩ = some i ∧ i.isMarked = true := by
  have kept := custodial_upkeep.run Store.sound_empty lawful
  rcases kept.sound.guarded ⟨key.ns, name⟩ with hmarked | hcleared
  · exact hmarked
  · exact absurd hserves (hcleared key d hd rfl)

/-- A run in which a pass fails, the next one creates a workload while the deletion of
its Instance is requested, and is cancelled. -/
def deletionAmidPass : List Move :=
  [.operation (.insertInstance {
      metadata := { name := some "bot", ns := some "tenant" }
      spec := { channels := [{ channel := .telegram }] } }),
    .operation (.failTimes .get .inst 1 (.unavailable "down")),
    .start ⟨"tenant", "bot"⟩, .turn 0, .start ⟨"tenant", "bot"⟩] ++ List.replicate 6 (.turn 1) ++
  [.operation (.requestDeletion ⟨"tenant", "bot"⟩), .turn 1, .cancel 1, .turn 1, .turn 1]

theorem marked_of_workload_amid_deletion :
    Lawful custodial.law {} {} deletionAmidPass ∧
      ∃ d, (run {} {} deletionAmidPass).store.find? .deployment ⟨"tenant", "bot-channel-telegram"⟩ =
          some d ∧ Serves "bot" d.metadata ∧
        ∃ i, (run {} {} deletionAmidPass).store.find? .inst ⟨"tenant", "bot"⟩ = some i ∧
          i.isMarked = true := by
  have lawful : Lawful custodial.law {} {} deletionAmidPass := by decide +kernel
  have found : ∃ d ∈ (run {} {} deletionAmidPass).store.find? .deployment
      ⟨"tenant", "bot-channel-telegram"⟩, Serves "bot" d.metadata := by decide +kernel
  obtain ⟨d, hd, hserves⟩ := found
  exact ⟨lawful, d, hd, hserves, marked_of_workload lawful hd hserves⟩

end World

end WorkloadOperator
