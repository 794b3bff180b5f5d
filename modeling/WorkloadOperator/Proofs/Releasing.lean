import WorkloadOperator.Proofs.Course
import WorkloadOperator.Proofs.Custody
import WorkloadOperator.Proofs.Versions

/-!
# How a pass lets go of its Instance

A pass deletes workloads and replaces finalizers only directly after it has seen that it was
not cancelled.  So from the call during which it is cancelled it lets go of nothing
(`not_weighty_of_cancelled`).

It replaces the finalizers by a list that it has made of an Instance it has read.  Since the
version guards the patch, that Instance is the one that is patched.  So the marker is put on
behind the other finalizers, or is taken off from between them, and they stay as they are
(`foreign_kept`).
-/

namespace WorkloadOperator

/-- The finalizers on an Instance but the marker. -/
def Instance.foreign (i : Instance) : List String :=
  i.metadata.finalizerList.filter (· ≠ Instance.marker)

instance (key : Key) (version : Option String) (finalizers : List String) :
    (r : Request) → Decidable (r = .patchFinalizers key version finalizers)
  | .patchFinalizers key' version' finalizers' =>
    decidable_of_iff (key' = key ∧ version' = version ∧ finalizers' = finalizers) (by simp)
  | .getInstance _ | .get _ _ | .list _ _ _ | .create _ _ _ | .delete _ _ | .listRuns _ _
  | .patchStatus _ _ _ => isFalse nofun

theorem Request.weighty_of_releases {r : Request} {key : Key} (h : r.Releases key) : r.Weighty := by
  cases r with
  | patchFinalizers k version finalizers => trivial
  | getInstance | get | create | list | delete | listRuns | patchStatus => cases h

namespace Store

/-- The finalizers but the marker on the Instance under a key, none if there is no Instance. -/
def foreign (s : Store) (key : Key) : List String :=
  ((s.find? .inst key).map Instance.foreign).getD []

variable {s s' : Store} {key : Key} {i : Instance}

/-! ## Patches of finalizers -/

/-- If a patch is accepted that names the version of an Instance, then that Instance is there
as it was. -/
theorem Becomes.found_of_accepts (h : s.Becomes s') (hfiled : s.Filed)
    (hi : s.find? .inst key = some i) {r : Request}
    (hr : ∀ version, i.metadata.resourceVersion = some version → r.Patches key version)
    (accepted : s'.Accepts r) : s'.find? .inst key = some i := by
  obtain ⟨operations, rfl⟩ := h
  obtain ⟨n, hn, hv⟩ := (hfiled .inst key i hi).version
  exact kept_of_not_lost hi hn (fun lost => not_accepts_of_lost lost (hr _ hv) accepted)
    List.prefix_rfl

/-- An accepted patch with the marker among the finalizers puts it on. -/
theorem marked_of_accepts {version : Option String} {finalizers : List String}
    (accepted : s.Accepts (.patchFinalizers key version finalizers))
    (hmarker : Instance.marker ∈ finalizers) :
    (s.serve (.patchFinalizers key version finalizers)).2.Marked key := by
  have hserve := serve_of_accepts accepted
  rw [Accepts, hserve] at accepted
  rw [hserve]
  cases hanswer : (s.answer (.patchFinalizers key version finalizers)).1 with
  | error e =>
    rw [hanswer] at accepted
    cases accepted
  | ok _ => exact marked_of_patch hanswer hmarker

end Store

namespace Pass

variable {cfg : Config} {key : Key} {b : Company} {s : Store}

/-! ## Cancellation -/

theorem Next.looked {adapters : Config.Adapters} {log : List Call} {r : Request}
    (h : Next b adapters key log r) (hweighty : r.Weighty) : b.cancelled log.length = false := by
  cases h with
  | read => cases hweighty
  | mark r₀ i₀ h₀ hstage hlook => exact hlook
  | reread r₀ p => cases hweighty
  | advance i hlog r hr hlook => exact hlook hweighty

/-- After the call during which a pass was cancelled, it deletes no workload and replaces no
finalizers, and each of its calls leaves a marker on that is there. -/
theorem not_weighty_of_cancelled (cfg : Config) (key : Key) (b : Company) (s : Store) {n m : Nat}
    (hcancelled : ∀ k, n < k → b.cancelled k = true) (hlt : n < m) {c : Call}
    (hc : (calls cfg key b s)[m]? = some c) :
    ¬ c.request.Weighty ∧ ∀ k, c.met.Marked k → c.after.Marked k := by
  obtain ⟨hsplit, hlength⟩ := split_of_getElem? hc
  have hnext := course hsplit
  have light : ¬ c.request.Weighty := by
    intro hweighty
    have hlook := hnext.looked hweighty
    rw [hlength, hcancelled m hlt] at hlook
    cases hlook
  refine ⟨light, fun k hmarked => hmarked.serve fun hreleases => light ?_⟩
  exact Request.weighty_of_releases hreleases

/-- A pass that is cancelled while it looks for workloads that are left, after others have
touched the Instance, deletes the memory store and does not take the marker off. -/
theorem not_weighty_of_cancelled_amid_teardown :
    let key : Key := ⟨"tenant", "bot"⟩
    let s := Store.empty.run [.insertInstance {
        metadata := {
          name := some "bot"
          ns := some "tenant"
          finalizers := some [Instance.marker] } },
      .insertDeployment "tenant" {
        metadata := {
          name := some "bot-channel-telegram"
          labels := some (Naming.channelLabels "bot" .telegram) } },
      .requestDeletion key]
    let b : Company := { others := fun m => if m = 3 then [.touch key] else [], cancelled := (3 < ·) }
    let cs := calls {} key b s
    cs.map (fun c => (c.request.verb, c.request.kind)) = [(.get, .inst), (.list, .deployment),
      (.delete, .deployment), (.list, .deployment), (.list, .volumeClaim), (.delete, .configMap)] ∧
    ∃ c ∈ cs[5]?, ¬ c.request.Weighty ∧ ∀ k, c.met.Marked k → c.after.Marked k := by
  intro key s b cs
  have verbs : cs.map (fun c => (c.request.verb, c.request.kind)) = [(.get, .inst),
      (.list, .deployment), (.delete, .deployment), (.list, .deployment), (.list, .volumeClaim),
      (.delete, .configMap)] := by
    decide +kernel
  obtain ⟨c, hc⟩ := Option.isSome_iff_exists.1 (show cs[5]?.isSome = true by decide +kernel)
  exact ⟨verbs, c, hc, not_weighty_of_cancelled {} key b s (fun _ hk => decide_eq_true hk)
    (show 3 < 5 by decide) hc⟩

/-! ## The finalizers of others -/

/-- What the operator makes of an Instance when it replaces the finalizers. -/
inductive Refinalized (before : Instance) : Option Instance → Prop where
  | marked (after : Instance) (halive : before.isDeleting = false)
      (hunmarked : before.isMarked = false)
      (hafter : after.metadata.finalizerList =
        before.metadata.finalizerList ++ [Instance.marker]) : Refinalized before (some after)
  | unmarked (after : Instance) (hdeleting : before.isDeleting = true)
      (hmarked : before.isMarked = true) (hafter : after.metadata.finalizerList = before.foreign) :
      Refinalized before (some after)
  | dropped (hdeleting : before.isDeleting = true) (hmarked : before.isMarked = true)
      (hnone : before.foreign = []) : Refinalized before none

/-- The list by which the operator replaces the finalizers of an Instance. -/
inductive Replaces (i : Instance) : List String → Prop where
  | mark (hstage : i.stage = .unmarked) :
      Replaces i (i.metadata.finalizerList ++ [Instance.marker])
  | unmark (hdeleting : i.isDeleting = true) (hmarked : i.isMarked = true) : Replaces i i.foreign

variable {i : Instance} {c r : Call} {before between later : List Call}

theorem foreign_append_marker (finalizers : List String) :
    (finalizers ++ [Instance.marker]).filter (· ≠ Instance.marker) =
      finalizers.filter (· ≠ Instance.marker) := by
  simp

theorem foreign_foreign (i : Instance) : i.foreign.filter (· ≠ Instance.marker) = i.foreign := by
  simp [Instance.foreign]

/-- The finalizers of others are the same after the operator has replaced the list. -/
theorem Refinalized.foreign_eq {after : Option Instance} (h : Refinalized i after) :
    (after.map Instance.foreign).getD [] = i.foreign := by
  cases h with
  | marked i' halive hunmarked hafter =>
    show i'.foreign = i.foreign
    rw [Instance.foreign, hafter, foreign_append_marker]
    rfl
  | unmarked i' hdeleting hmarked hafter =>
    show i'.foreign = i.foreign
    rw [Instance.foreign, hafter, foreign_foreign]
  | dropped hdeleting hmarked hnone => exact hnone.symm

theorem Replaces.refinalized {finalizers : List String} (h : Replaces i finalizers)
    (hi : s.find? .inst key = some i)
    (accepted : s.Accepts (.patchFinalizers key i.metadata.resourceVersion finalizers)) :
    Refinalized i ((s.serve (.patchFinalizers key i.metadata.resourceVersion finalizers)).2.find?
      .inst key) := by
  rw [Store.find?_patchFinalizers hi accepted]
  cases h with
  | mark hstage =>
    have halive := Instance.not_isDeleting_of_stage (.inl hstage)
    rw [if_neg (by simp [halive])]
    exact .marked _ halive (Instance.not_isMarked_of_unmarked hstage) rfl
  | unmark hdeleting hmarked =>
    split
    · next hlast => exact .dropped hdeleting hmarked hlast.2
    · exact .unmarked _ hdeleting hmarked rfl

/-- A pass makes the list by which it replaces finalizers of an Instance that it has read. -/
theorem Next.replaces {adapters : Config.Adapters} {log : List Call} {k : Key}
    {version : Option String} {finalizers : List String}
    (h : Next b adapters key log (.patchFinalizers k version finalizers)) :
    ∃ before r between i, log = before ++ r :: between ∧ r.Reads key i ∧ k = ⟨key.ns, i.name⟩ ∧
      version = i.metadata.resourceVersion ∧ Replaces i finalizers := by
  cases h with
  | mark r₀ i₀ h₀ hstage hlook => exact ⟨[], r₀, [], i₀, rfl, h₀, rfl, rfl, .mark hstage⟩
  | advance i hlog r hr hlook =>
    obtain ⟨before, r, rest, rfl, -, hread, -⟩ := hlog.split
    cases hr with
    | converge halive r hr =>
      cases hr with
      | provides uid huid r hr => cases hr
    | teardown hdeleting r hr =>
      cases hr with
      | unmark hmarked =>
        exact ⟨before, r, rest, i, rfl, hread, rfl, rfl, .unmark hdeleting hmarked⟩

/-- An Instance that a pass has read is under the key of the pass, and it is there as it was if
a later call of the pass replaces its finalizers. -/
theorem found_of_replaced {operations : List Operation}
    (h : Genuine b (Store.empty.run operations) (before ++ r :: between ++ c :: later))
    (hr : r.Reads key i) :
    i.name = key.name ∧ ∀ finalizers,
      c.met.Accepts (.patchFinalizers key i.metadata.resourceVersion finalizers) →
        c.met.find? .inst key = some i := by
  have hfiled : r.met.Filed := by
    have hbecomes : (Store.empty.run operations).Becomes r.met := by
      rw [List.append_assoc] at h
      exact h.becomes
    obtain ⟨operations', hmet⟩ := hbecomes
    rw [hmet]
    exact (Store.filed_empty.run operations).run operations'
  refine ⟨(hfiled .inst key i hr.find?).name, fun finalizers accepted => ?_⟩
  have patches (version : String) (hv : i.metadata.resourceVersion = some version) :
      Request.Patches key version (.patchFinalizers key i.metadata.resourceVersion finalizers) :=
    ⟨rfl, hv⟩
  exact h.becomes_between.found_of_accepts hfiled hr.find? patches accepted

/-- A call that replaces finalizers, and is accepted, is for the Instance of the pass, and it
replaces them by a list that is made of this Instance as it is there. -/
theorem refinalized_of_accepts {operations : List Operation}
    (hc : c ∈ calls cfg key b (Store.empty.run operations)) {k : Key} {version : Option String}
    {finalizers : List String} (hr : c.request = .patchFinalizers k version finalizers)
    (accepted : c.met.Accepts c.request) :
    k = key ∧ ∃ i, c.met.find? .inst key = some i ∧
      Refinalized i (c.after.find? .inst key) := by
  obtain ⟨earlier, later, hsplit⟩ := List.append_of_mem hc
  have hgenuine := hsplit ▸ genuine_calls cfg key b (Store.empty.run operations)
  have hnext := course hsplit
  rw [hr] at hnext accepted
  obtain ⟨before, r, between, i, rfl, hread, rfl, rfl, hreplaces⟩ := hnext.replaces
  obtain ⟨hname, hfound⟩ := found_of_replaced hgenuine hread
  have hkey : (⟨key.ns, i.name⟩ : Key) = key := by rw [hname]
  rw [hkey] at hr accepted
  have hi := hfound finalizers accepted
  refine ⟨hkey, i, hi, ?_⟩
  rw [Call.after, hr]
  exact hreplaces.refinalized hi accepted

/-- Whatever others do, and wherever requests fail and passes are cancelled, a pass spares the
finalizers of others.  When it replaces the finalizers, it puts the marker behind the others on
its Instance, which is not being deleted and has no marker, or it takes all markers off its
Instance, which is being deleted.  When it drops an Instance, there are no other finalizers. -/
theorem foreign_kept (cfg : Config) (key : Key) (b : Company) (operations : List Operation)
    {c : Call} (hc : c ∈ calls cfg key b (Store.empty.run operations)) :
    (∀ k version finalizers, c.request = .patchFinalizers k version finalizers →
      c.met.Accepts c.request → k = key ∧ c.after.foreign key = c.met.foreign key ∧
        ∃ i, c.met.find? .inst key = some i ∧ Refinalized i (c.after.find? .inst key)) ∧
    ∀ k i, c.met.find? .inst k = some i → c.after.find? .inst k = none →
      k = key ∧ i.foreign = [] := by
  constructor
  · intro k version finalizers hr accepted
    obtain ⟨hk, i, hi, hafter⟩ := refinalized_of_accepts hc hr accepted
    refine ⟨hk, ?_, i, hi, hafter⟩
    rw [Store.foreign, Store.foreign, hafter.foreign_eq, hi]
    rfl
  · intro k i hi hgone
    have accepted : c.met.Accepts c.request := by
      refine Classical.not_not.1 fun hrefused => ?_
      rw [Call.after, Store.find?_serve_of_not_accepts hrefused, hi] at hgone
      cases hgone
    have handled := Store.handled_serve c.met c.request k
    rw [hi, show (c.met.serve c.request).2.find? .inst k = none from hgone] at handled
    generalize hbefore : some i = before, hnone : (none : Option Instance) = after at handled
    cases handled with
    | kept => cases hbefore.trans hnone.symm
    | finalizers => cases hnone
    | status => cases hnone
    | vanished version i' hr hi' hdeleting =>
      obtain ⟨rfl, j, hj, hafter⟩ := refinalized_of_accepts hc hr accepted
      cases hi.symm.trans hj
      rw [hgone] at hafter
      cases hafter with
      | dropped hdeleting hmarked hnone => exact ⟨rfl, hnone⟩

/-- A run in which an Instance is filed that others hold by two finalizers. -/
def heldByOthers : List Operation :=
  [.insertInstance {
    metadata := { name := some "bot", ns := some "tenant", finalizers := some ["first", "second"] } }]

/-- A run in which an Instance with these finalizers is filed and is asked to be deleted. -/
def departing (finalizers : List String) : List Operation := [
  .insertInstance {
    metadata := { name := some "bot", ns := some "tenant", finalizers := some finalizers } },
  .requestDeletion ⟨"tenant", "bot"⟩]

/-- Somebody who files another Instance before the second call of a pass. -/
def passerby : Company where
  others n := if n = 1 then [.insertInstance { metadata := { name := some "cat" } }] else []

/-- The marker is put on behind two finalizers of others, it is taken off from between them, and an
Instance that has no other finalizers is dropped. -/
theorem foreign_kept_amid_others :
    let key : Key := ⟨"tenant", "bot"⟩
    (∃ c ∈ calls {} key passerby (Store.empty.run heldByOthers),
      c.request = .patchFinalizers key (some "1") ["first", "second", Instance.marker] ∧
      c.met.Accepts c.request ∧ c.after.foreign key = c.met.foreign key ∧
      ∃ i, c.met.find? .inst key = some i ∧ Refinalized i (c.after.find? .inst key)) ∧
    (∃ c ∈ calls {} key passerby
        (Store.empty.run (departing ["first", Instance.marker, "second"])),
      c.request = .patchFinalizers key (some "2") ["first", "second"] ∧
      c.met.Accepts c.request ∧ c.after.foreign key = c.met.foreign key ∧
      ∃ i, c.met.find? .inst key = some i ∧ Refinalized i (c.after.find? .inst key)) ∧
    ∃ c ∈ calls {} key passerby (Store.empty.run (departing [Instance.marker])),
      c.request = .patchFinalizers key (some "2") [] ∧ c.after.find? .inst key = none ∧
      ∃ i, c.met.find? .inst key = some i ∧ i.foreign = [] := by
  intro key
  have replaced (operations : List Operation) (n : Nat) {version : Option String}
      {finalizers : List String}
      (found : ∃ c ∈ (calls {} key passerby (Store.empty.run operations))[n]?,
        c.request = .patchFinalizers key version finalizers ∧ c.met.Accepts c.request) :
      ∃ c ∈ calls {} key passerby (Store.empty.run operations),
        c.request = .patchFinalizers key version finalizers ∧
        c.met.Accepts c.request ∧ c.after.foreign key = c.met.foreign key ∧
        ∃ i, c.met.find? .inst key = some i ∧ Refinalized i (c.after.find? .inst key) := by
    obtain ⟨c, hc, hr, accepted⟩ := found
    have hmem := List.mem_of_getElem? hc
    exact ⟨c, hmem, hr, accepted,
      ((foreign_kept {} key passerby operations hmem).1 _ _ _ hr accepted).2⟩
  have last : ∃ c ∈ (calls {} key passerby (Store.empty.run (departing [Instance.marker])))[5]?,
      c.request = .patchFinalizers key (some "2") [] ∧ (c.met.find? .inst key).isSome ∧
        c.after.find? .inst key = none := by
    decide +kernel
  refine ⟨replaced _ 1 (by decide +kernel), replaced _ 5 (by decide +kernel), ?_⟩
  obtain ⟨c, hc, hr, there, gone⟩ := last
  obtain ⟨i, hi⟩ := Option.isSome_iff_exists.1 there
  have hmem := List.mem_of_getElem? hc
  exact ⟨c, hmem, hr, gone, i, hi, ((foreign_kept {} key passerby _ hmem).2 key i hi gone).2⟩

end Pass

end WorkloadOperator
