import WorkloadOperator.Proofs.Tables

/-!
# How Instances depart

An Instance is gone at once if its deletion is requested while it has no finalizers.  Otherwise it
gets a deletion timestamp and waits, until somebody empties its finalizers.  There is no third way
for it to depart (`departs_iff`), and its timestamp is never taken back, unless another Instance is
filed in its place (`dated_until`).

So no Instance is left behind that has a timestamp and no finalizers, which nobody could ever
release, if none is filed that way (`Releasable`).
-/

namespace WorkloadOperator

/-- Whether an operation files no Instance that has a deletion timestamp already. -/
def Operation.Undated : Operation → Prop
  | .insertInstance i => i.isDeleting = false
  | _ => True

instance : (o : Operation) → Decidable o.Undated
  | .insertInstance i => inferInstanceAs (Decidable (i.isDeleting = false))
  | .insertDeployment _ _ | .insertRun _ _ | .touch _ | .requestDeletion _ | .setReady _ _
  | .setData _ _ | .setPhase _ _ | .fail _ _ _ | .failTimes _ _ _ _ | .clearFaults
  | .request _ => isTrue trivial

/-- Whether an operation files an Instance under a key. -/
def Operation.Overwrites (key : Key) (o : Operation) : Prop :=
  ∃ i, o = .insertInstance i ∧ ⟨i.metadata.ns.getD Store.defaultNamespace, i.name⟩ = key

namespace Store

variable {s : Store} {key : Key} {i : Instance} {o : Operation}

/-- The ways in which an Instance departs. -/
inductive Departs (s : Store) (key : Key) (i : Instance) : Operation → Prop where
  | removed (hnone : i.metadata.finalizerList = []) : Departs s key i (.requestDeletion key)
  | released (version : Option String) (hdeleting : i.isDeleting = true)
      (haccepts : s.Accepts (.patchFinalizers key version [])) :
      Departs s key i (.request (.patchFinalizers key version []))

/-- The Instance under a key is there, and it has a deletion timestamp. -/
def Dated (s : Store) (key : Key) : Prop :=
  ∃ i, s.find? .inst key = some i ∧ i.isDeleting = true

/-- Every Instance with a deletion timestamp waits for a finalizer. -/
def Releasable (s : Store) : Prop :=
  ∀ key i, s.find? .inst key = some i → i.isDeleting = true → i.metadata.finalizerList ≠ []

/-! ## One operation -/

/-- An accepted patch that empties the finalizers is the end of an Instance that is being
deleted. -/
theorem find?_released (hi : s.find? .inst key = some i) (hdeleting : i.isDeleting = true)
    {version : Option String} (haccepts : s.Accepts (.patchFinalizers key version [])) :
    (s.serve (.patchFinalizers key version [])).2.find? .inst key = none := by
  rw [find?_patchFinalizers hi haccepts, if_pos ⟨hdeleting, rfl⟩]

theorem departs_of_gone (hi : s.find? .inst key = some i)
    (hgone : (s.perform o).find? .inst key = none) : Departs s key i o := by
  have became := became_perform s o key
  rw [hi, hgone] at became
  cases became with
  | removed j ho hj hnone =>
    cases hj
    subst ho
    exact .removed hnone
  | asked r after ho handled =>
    subst ho
    cases handled with
    | vanished version j hr hj hdeleting =>
      cases hj
      subst hr
      by_cases haccepts : s.Accepts (.patchFinalizers key version [])
      · exact .released version hdeleting haccepts
      · -- a patch that is refused leaves the Instance there
        cases hi.symm.trans ((find?_serve_of_not_accepts haccepts).symm.trans hgone)

/-- An Instance departs in no other way, and in each of them it does. -/
theorem departs_iff (hi : s.find? .inst key = some i) :
    (s.perform o).find? .inst key = none ↔ Departs s key i o := by
  constructor
  · exact departs_of_gone hi
  · intro departs
    cases departs with
    | removed hnone => simp [perform, requestDeletion, hi, hnone]
    | released version hdeleting haccepts => exact find?_released hi hdeleting haccepts

/-- A deletion timestamp stays, unless the Instance departs or another one is filed in its place. -/
theorem Dated.perform (h : s.Dated key) (hthere : (s.perform o).find? .inst key ≠ none)
    (hsame : ¬ o.Overwrites key) : (s.perform o).Dated key := by
  obtain ⟨i, hi, hdeleting⟩ := h
  have became := became_perform s o key
  rw [hi] at became
  generalize hafter : (s.perform o).find? .inst key = after at became
  cases became with
  | kept => exact ⟨i, hafter, hdeleting⟩
  | filed version j ho hkey => exact absurd ⟨j, ho, hkey⟩ hsame
  | touched version j ho hj =>
    cases hj
    exact ⟨_, hafter, hdeleting⟩
  | condemned version j ho hj => exact ⟨_, hafter, rfl⟩
  | removed j ho hj hnone => exact absurd hafter hthere
  | asked r after ho handled =>
    cases handled with
    | kept => exact ⟨i, hafter, hdeleting⟩
    | vanished version j hr hj hdeleting' => exact absurd hafter hthere
    | finalizers version given finalizers j hr hj =>
      cases hj
      exact ⟨_, hafter, hdeleting⟩
    | status version given patch status j hr hj =>
      cases hj
      exact ⟨_, hafter, hdeleting⟩

theorem Releasable.perform (h : s.Releasable) (ho : o.Undated) : (s.perform o).Releasable := by
  intro key i hi hdeleting
  have became := became_perform s o key
  rw [hi] at became
  generalize hbefore : s.find? .inst key = before at became
  cases became with
  | kept => exact h key i hbefore hdeleting
  | filed version j hinsert hkey =>
    subst hinsert
    have hundated : j.isDeleting = false := ho
    exact nomatch hundated.symm.trans hdeleting
  | touched version j htouch hj =>
    cases hj
    exact h key j hbefore hdeleting
  | condemned version j hrequest hj =>
    cases hj
    subst hrequest
    intro hnone
    -- it would have been gone at once
    have hgone := (departs_iff hbefore).2 (.removed hnone)
    cases hi.symm.trans hgone
  | asked r after hask handled =>
    subst hask
    cases handled with
    | kept => exact h key i hbefore hdeleting
    | finalizers version given finalizers j hr hj =>
      cases hj
      subst hr
      intro hnone
      obtain rfl : finalizers = [] := hnone
      by_cases haccepts : s.Accepts (.patchFinalizers key version [])
      · cases hi.symm.trans (find?_released hbefore hdeleting haccepts)
      · -- a patch that is refused has not emptied the list
        have hkept := (find?_serve_of_not_accepts haccepts).symm.trans hi
        exact h key _ hkept hdeleting rfl
    | status version given patch status j hr hj =>
      cases hj
      exact h key j hbefore hdeleting

/-! ## Runs -/

theorem releasable_empty : empty.Releasable := by
  intro key i hi
  rw [find?_empty] at hi
  cases hi

theorem Releasable.run (h : s.Releasable) {operations : List Operation}
    (hundated : ∀ o ∈ operations, o.Undated) : (s.run operations).Releasable := by
  induction operations generalizing s with
  | nil => exact h
  | cons o operations ih =>
    exact ih (h.perform (hundated o List.mem_cons_self))
      fun o' ho' => hundated o' (List.mem_cons_of_mem o ho')

/-- A deletion timestamp stays along a run up to the operation by which the Instance departs or is
overwritten. -/
theorem dated_until (h : s.Dated key) (operations : List Operation) :
    (s.run operations).Dated key ∨
      ∃ earlier o later, operations = earlier ++ o :: later ∧ (s.run earlier).Dated key ∧
        ((s.run (earlier ++ [o])).find? .inst key = none ∨ o.Overwrites key) := by
  induction operations generalizing s with
  | nil => exact .inl h
  | cons o operations ih =>
    by_cases hthere : (s.perform o).find? .inst key = none
    · exact .inr ⟨[], o, operations, rfl, h, .inl hthere⟩
    by_cases hsame : o.Overwrites key
    · exact .inr ⟨[], o, operations, rfl, h, .inr hsame⟩
    rcases ih (h.perform hthere hsame) with hdated | ⟨earlier, o', later, rfl, hdated, hends⟩
    · exact .inl hdated
    · exact .inr ⟨o :: earlier, o', later, rfl, hdated, hends⟩

/-- Deletions wait for finalizers: as long as no Instance is filed that has a deletion timestamp,
every Instance that has one has finalizers too.  All along such a run, an Instance with finalizers
outlives every request for its deletion, a timestamp stays until the Instance departs or is
overwritten, and an Instance departs if its deletion is requested while it has no finalizers, or if
it is being deleted and its finalizers are emptied, and in no other way. -/
theorem deletion_waits_for_finalizers {operations : List Operation}
    (hundated : ∀ o ∈ operations, o.Undated) :
    (empty.run operations).Releasable ∧
      ∀ earlier later, operations = earlier ++ later → ∀ key i,
        (empty.run earlier).find? .inst key = some i →
        (i.metadata.finalizerList ≠ [] → ∀ k,
          ((empty.run earlier).perform (.requestDeletion k)).find? .inst key ≠ none) ∧
        (i.isDeleting = true → (empty.run operations).Dated key ∨
          ∃ between o rest, later = between ++ o :: rest ∧
            (empty.run (earlier ++ between)).Dated key ∧
            ((empty.run (earlier ++ between ++ [o])).find? .inst key = none ∨
              o.Overwrites key)) ∧
        (∀ o rest, later = o :: rest →
          ((empty.run (earlier ++ [o])).find? .inst key = none ↔
            Departs (empty.run earlier) key i o)) := by
  refine ⟨releasable_empty.run hundated, ?_⟩
  rintro earlier later rfl key i hi
  refine ⟨?_, ?_, ?_⟩
  · intro hfinalizers k hgone
    cases departs_of_gone hi hgone with
    | removed hnone => exact hfinalizers hnone
  · intro hdeleting
    have huntil := dated_until ⟨i, hi, hdeleting⟩ later
    simpa only [run, List.foldl_append] using huntil
  · rintro o rest rfl
    have hdeparts := departs_iff (o := o) hi
    simpa only [run, List.foldl_append, List.foldl_cons, List.foldl_nil] using hdeparts

/-- An Instance that waits for a finalizer when its deletion is requested, and departs when that is
taken off. -/
theorem deletion_waits_for_finalizers_of_backup :
    let key : Key := ⟨"tenant", "bot"⟩
    let operations : List Operation := [.insertInstance {
        metadata := { name := some "bot", ns := some "tenant", finalizers := some ["backup"] } },
      .requestDeletion key]
    let release : Operation := .request (.patchFinalizers key none [])
    (∀ o ∈ operations ++ [release], o.Undated) ∧
      (empty.run (operations ++ [release])).Releasable ∧
      ∃ i, (empty.run operations).find? .inst key = some i ∧ i.isDeleting = true ∧
        ((empty.run (operations ++ [release])).find? .inst key = none ↔
          Departs (empty.run operations) key i release) ∧
        (empty.run (operations ++ [release])).find? .inst key = none := by
  intro key operations release
  have undated : ∀ o ∈ operations ++ [release], o.Undated := by decide +kernel
  have waiting : ∃ i ∈ (empty.run operations).find? .inst key, i.isDeleting = true := by
    decide +kernel
  have gone : (empty.run (operations ++ [release])).find? .inst key = none := by
    decide +kernel
  obtain ⟨i, hi, hdeleting⟩ := waiting
  obtain ⟨releasable, along⟩ := deletion_waits_for_finalizers undated
  obtain ⟨_, _, hdeparts⟩ := along operations [release] rfl key i hi
  exact ⟨undated, releasable, i, hi, hdeleting, hdeparts release [] rfl, gone⟩

end Store

end WorkloadOperator
