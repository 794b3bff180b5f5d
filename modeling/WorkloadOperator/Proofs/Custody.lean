import WorkloadOperator.Proofs.Contract
import WorkloadOperator.Proofs.Filing
import WorkloadOperator.Proofs.Selecting
import WorkloadOperator.Proofs.World

/-!
# No workload outlives its Instance

A workload that serves a channel of an Instance is in the custody of the operator
as long as the Instance is there and marked, for then its deletion leads to a
teardown.  So each Instance is marked, or it is cleared: no workload serves it.

A pass may create workloads once it has seen the marker, and may take the marker
off once it has seen that the Instance is cleared.  What it has seen stays true
until the pass itself changes it, since no other pass is under way for the same
Instance and nobody else touches the marker or creates workloads.
-/

namespace WorkloadOperator

open Naming Selector

/-! ## Marked and cleared Instances -/

namespace Request

/-- Whether a request takes the marker off the Instance under a key, if it is on it. -/
def Releases (key : Key) : Request → Prop
  | .patchFinalizers k _ finalizers => k = key ∧ Instance.marker ∉ finalizers
  | .getInstance _ | .get _ _ | .create _ _ _ | .list _ _ _ | .delete _ _ | .listRuns _ _
  | .patchStatus _ _ _ => False

/-- Whether a request creates a workload that serves the Instance under a key. -/
def Employs (key : Key) : Request → Prop
  | .create .deployment ns d => ns = key.ns ∧ Serves key.name d.metadata
  | .create .volumeClaim _ _ | .create .configMap _ _ | .getInstance _ | .get _ _ | .list _ _ _
  | .delete _ _ | .listRuns _ _ | .patchFinalizers _ _ _ | .patchStatus _ _ _ => False

end Request

namespace Store

/-- The Instance under a key is there, and the marker is on it. -/
def Marked (s : Store) (key : Key) : Prop :=
  ∃ i, s.find? .inst key = some i ∧ i.isMarked = true

/-- No workload serves the Instance under a key. -/
def Cleared (s : Store) (key : Key) : Prop :=
  ∀ k d, s.find? .deployment k = some d → k.ns = key.ns → ¬ Serves key.name d.metadata

variable {s s' : Store} {key : Key}

theorem Cleared.congr (h : s.Cleared key)
    (he : ∀ k, s'.find? .deployment k = s.find? .deployment k) : s'.Cleared key := by
  intro k d hd
  rw [he] at hd
  exact h k d hd

theorem isMarked_iff {i : Instance} :
    i.isMarked = true ↔ Instance.marker ∈ i.metadata.finalizerList := by
  rw [Instance.isMarked, Instance.hasFinalizer, List.contains_iff_mem]

theorem Handled.isMarked {r : Request} {i : Instance} {after : Option Instance}
    (h : Handled r key (some i) after) (hm : i.isMarked = true) (hr : ¬ r.Releases key) :
    ∃ i', after = some i' ∧ i'.isMarked = true := by
  cases h with
  | kept => exact ⟨i, rfl, hm⟩
  | vanished version j he hj hdeleting =>
    subst he
    exact absurd ⟨rfl, List.not_mem_nil⟩ hr
  | finalizers version given finalizers j he hj =>
    subst he
    refine ⟨_, rfl, isMarked_iff.2 ?_⟩
    exact Classical.not_not.1 fun hn => hr ⟨rfl, hn⟩
  | status version given patch status j he hj =>
    cases hj
    exact ⟨_, rfl, hm⟩

/-- The marker stays on an Instance if it is not taken off. -/
theorem Marked.serve (h : s.Marked key) {r : Request} (hr : ¬ r.Releases key) :
    (s.serve r).2.Marked key := by
  obtain ⟨i, hi, hm⟩ := h
  have handled := handled_serve s r key
  rw [hi] at handled
  exact handled.isMarked hm hr

theorem Cleared.insert (h : s.Cleared key) {ns : String} {d : Deployment}
    (hd : ns = key.ns → ¬ Serves key.name d.metadata) :
    (s.insert .deployment ns d).2.Cleared key := by
  intro k d' hd' hns
  rw [insert_eq, find?_put] at hd'
  split at hd'
  · next hk =>
    subst hk
    cases hd'
    exact hd hns
  · rw [find?_bump] at hd'
    exact h k d' hd' hns

theorem Cleared.drop (h : s.Cleared key) (k : Key) : (s.drop .deployment k).Cleared key := by
  intro k' d hd
  rw [find?_drop] at hd
  split at hd
  · cases hd
  · exact h k' d hd

/-- An Instance stays cleared if no workload is created for it. -/
theorem Cleared.answer (h : s.Cleared key) {r : Request} (hr : ¬ r.Employs key) :
    (s.answer r).2.Cleared key := by
  by_cases hkind : r.kind = .deployment
  · cases r with
    | get c k => exact h
    | list c ns selector => exact h
    | create c ns d =>
      cases c with
      | deployment =>
        simp only [Store.answer]
        split
        · exact h
        · split
          · exact h
          · refine Cleared.congr ?_ fun k => find?_record ..
            exact h.insert fun hns hd => hr ⟨hns, hd⟩
      | volumeClaim => cases hkind
      | configMap => cases hkind
    | delete c k =>
      cases c with
      | deployment =>
        simp only [Store.answer]
        split
        · exact (h.drop k).congr fun k => find?_record ..
        · exact h
      | volumeClaim => cases hkind
      | configMap => cases hkind
    | getInstance => cases hkind
    | listRuns => cases hkind
    | patchFinalizers => cases hkind
    | patchStatus => cases hkind
  · exact h.congr fun k => find?_answer_of_kind hkind

theorem Cleared.serve (h : s.Cleared key) {r : Request} (hr : ¬ r.Employs key) :
    (s.serve r).2.Cleared key := by
  unfold Store.serve
  split
  · exact h.congr fun k => find?_faults _
  · exact h.answer hr

/-- The marker is on an Instance after it was put on. -/
theorem marked_of_patch {version : Option String} {finalizers : List String}
    (h : (s.answer (.patchFinalizers key version finalizers)).1 = .ok ())
    (hmarker : Instance.marker ∈ finalizers) :
    (s.answer (.patchFinalizers key version finalizers)).2.Marked key := by
  simp only [Store.answer] at h ⊢
  split
  · next hi =>
    simp only [hi] at h
    cases h
  · next i hi =>
    simp only [hi] at h
    split
    · split
      · next hlast =>
        rw [hlast.2] at hmarker
        cases hmarker
      · exact ⟨_, find?_put_self _, isMarked_iff.2 hmarker⟩
    · next hv =>
      rw [if_neg hv] at h
      cases h

/-- An Instance is cleared if the list of its workloads is empty. -/
theorem cleared_of_select (hplain : Plain key.name)
    (h : s.select .deployment key.ns (componentSelector key.name channelComponent) = []) :
    s.Cleared key := by
  intro k d hd hns hserves
  have hmem : d ∈ s.select .deployment key.ns (componentSelector key.name channelComponent) :=
    mem_select.2 ⟨k, hns, hd, (admits_componentSelector hplain _).2 hserves⟩
  rw [h] at hmem
  cases hmem

/-- Every Instance is marked or cleared. -/
def Guarded (s : Store) : Prop := ∀ key, s.Marked key ∨ s.Cleared key

/-- Every Instance has a name that can stand in a selector. -/
def Named (s : Store) : Prop := ∀ key i, s.find? .inst key = some i → Plain key.name

theorem named_empty : empty.Named := by
  intro key i hi
  rw [find?_empty] at hi
  cases hi

theorem Named.serve (h : s.Named) (r : Request) : (s.serve r).2.Named := by
  intro key i hi
  have handled := handled_serve s r key
  rw [hi] at handled
  generalize hbefore : s.find? .inst key = before at handled
  cases handled with
  | kept => exact h key i hbefore
  | finalizers version given finalizers j hr hj => exact h key j (hbefore.trans hj)
  | status version given patch status j hr hj => exact h key j (hbefore.trans hj)

/-! ## Other users -/

/-- What others may do to a store: they file Instances only where there is none, with
names that can stand in a selector, they create no workloads, and they leave the marker
on an Instance. -/
def Respects (s : Store) : Operation → Prop
  | .insertInstance i =>
    s.find? .inst ⟨i.metadata.ns.getD defaultNamespace, i.name⟩ = none ∧ Plain i.name
  | .insertDeployment _ _ | .request (.create .deployment _ _) => False
  | .request (.patchFinalizers key version finalizers) =>
    s.Accepts (.patchFinalizers key version finalizers) →
      ∀ i ∈ s.find? .inst key, i.isMarked = true → Instance.marker ∈ finalizers
  | .insertRun _ _ | .touch _ | .requestDeletion _ | .setReady _ _ | .setData _ _ | .setPhase _ _
  | .fail _ _ _ | .failTimes _ _ _ _ | .clearFaults | .request (.getInstance _)
  | .request (.get _ _) | .request (.create .volumeClaim _ _) | .request (.create .configMap _ _)
  | .request (.list _ _ _) | .request (.delete _ _) | .request (.listRuns _ _)
  | .request (.patchStatus _ _ _) => True

instance (s : Store) : (o : Operation) → Decidable (s.Respects o)
  | .insertInstance _ => inferInstanceAs (Decidable (_ ∧ _))
  | .insertDeployment _ _ | .request (.create .deployment _ _) => isFalse id
  | .request (.patchFinalizers _ _ _) => inferInstanceAs (Decidable (_ → ∀ i ∈ _, _))
  | .insertRun _ _ | .touch _ | .requestDeletion _ | .setReady _ _ | .setData _ _ | .setPhase _ _
  | .fail _ _ _ | .failTimes _ _ _ _ | .clearFaults | .request (.getInstance _)
  | .request (.get _ _) | .request (.create .volumeClaim _ _) | .request (.create .configMap _ _)
  | .request (.list _ _ _) | .request (.delete _ _) | .request (.listRuns _ _)
  | .request (.patchStatus _ _ _) => isTrue trivial

/-- Nobody else takes the marker off an Instance. -/
theorem Marked.perform (h : s.Marked key) {o : Operation} (ho : s.Respects o) :
    (s.perform o).Marked key := by
  obtain ⟨i, hi, hm⟩ := h
  have became := became_perform s o key
  rw [hi] at became
  generalize hafter : (s.perform o).find? .inst key = after at became
  cases became with
  | kept => exact ⟨i, hafter, hm⟩
  | filed version j hj hkey =>
    subst hj
    -- the key was vacant, so it is not the one of the marked Instance
    have hvacant : s.find? .inst key = none := hkey ▸ ho.1
    cases hi.symm.trans hvacant
  | touched version j hj hi' =>
    cases hi'
    exact ⟨_, hafter, hm⟩
  | condemned version j hj hi' =>
    cases hi'
    exact ⟨_, hafter, hm⟩
  | removed j hj hi' hnone =>
    cases hi'
    rw [isMarked_iff, hnone] at hm
    cases hm
  | asked r after hr handled =>
    subst hr
    by_cases ha : s.Accepts r
    · have hstays : ¬ r.Releases key := fun hrel => by
        cases r with
        | patchFinalizers k version finalizers =>
          obtain ⟨rfl, hnot⟩ := hrel
          exact hnot (ho ha i hi hm)
        | getInstance | get | create | list | delete | listRuns | patchStatus => cases hrel
      obtain ⟨i', hi', hm'⟩ := handled.isMarked hm hstays
      exact ⟨i', hafter.trans hi', hm'⟩
    · exact ⟨i, (find?_serve_of_not_accepts ha).trans hi, hm⟩

/-- Nobody else creates workloads. -/
theorem Cleared.perform (h : s.Cleared key) {o : Operation} (ho : s.Respects o) :
    (s.perform o).Cleared key := by
  by_cases hkind : o.kind? = some .deployment
  · cases o with
    | insertDeployment ns d => cases ho
    | setReady k replicas =>
      simp only [Store.perform, setReady]
      split
      · exact h
      · next d hd =>
        intro k' d' hd' hns
        rw [find?_put] at hd'
        split at hd'
        · next hk =>
          subst hk
          cases hd'
          exact h k d hd hns
        · exact h k' d' hd' hns
    | request r =>
      refine h.serve fun hr => ?_
      cases r with
      | create c ns d => cases c <;> first | exact ho | cases hr
      | getInstance | get | list | delete | listRuns | patchFinalizers | patchStatus => cases hr
    | insertInstance | insertRun | touch | requestDeletion | setData | setPhase | fail | failTimes
    | clearFaults => cases hkind
  · exact h.congr fun k => find?_perform_of_kind hkind

/-- Others give Instances names that can stand in a selector. -/
theorem Named.perform (h : s.Named) {o : Operation}
    (ho : ∀ i, o = .insertInstance i → Plain i.name) : (s.perform o).Named := by
  intro key i hi
  have became := became_perform s o key
  rw [hi] at became
  generalize hbefore : s.find? .inst key = before at became
  cases became with
  | kept => exact h key i hbefore
  | filed version j hj hkey =>
    subst hkey
    exact ho j hj
  | touched version j hj hi' => exact h key j (hbefore.trans hi')
  | condemned version j hj hi' => exact h key j (hbefore.trans hi')
  | asked r after hr handled =>
    subst hr
    exact h.serve r key i hi

/-- Other users keep the custody. -/
theorem Guarded.perform (h : s.Guarded) {o : Operation} (ho : s.Respects o) :
    (s.perform o).Guarded :=
  fun key => (h key).imp (fun hm => hm.perform ho) (fun hc => hc.perform ho)

end Store

end WorkloadOperator
