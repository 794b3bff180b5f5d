import WorkloadOperator.Proofs.Filing

/-!
# Versions guard patches

A patch that names a version is only applied to the Instance that was read with
that version.  Every change of an Instance gives it the version of a counter that
only grows (`fate_perform`), so a version that an Instance has lost never comes
back to its key (`Lost.run`), neither to the Instance itself nor to another one
that is filed under its name later.
-/

namespace WorkloadOperator

/-- Whether a request patches the Instance under a key and is meant for a version. -/
def Request.Patches (key : Key) (version : String) : Request → Prop
  | .patchFinalizers k v _ | .patchStatus k v _ => k = key ∧ v = some version
  | .getInstance _ | .get _ _ | .create _ _ _ | .list _ _ _ | .delete _ _ | .listRuns _ _ => False

namespace Store

/-- Numbers are told apart by their texts. -/
theorem eq_of_toString_eq {m n : Nat} (h : toString m = toString n) : m = n := by
  have hd : (Nat.repr m).toList = (Nat.repr n).toList := congrArg String.toList h
  rw [Nat.toList_repr, Nat.toList_repr] at hd
  calc
    m = Nat.ofDigitChars 10 (Nat.toDigits 10 m) 0 := Nat.ofDigitChars_ten_toDigits.symm
    _ = Nat.ofDigitChars 10 (Nat.toDigits 10 n) 0 := by rw [hd]
    _ = n := Nat.ofDigitChars_ten_toDigits

/-! ## What becomes of an Instance -/

/-- What may have become of the Instance under a key from one store to a later one. -/
inductive Fate (s s' : Store) (key : Key) : Prop where
  /-- It is what it was. -/
  | kept (h : s'.find? .inst key = s.find? .inst key)
  /-- There is none any more. -/
  | gone (h : s'.find? .inst key = none)
  /-- It has a version that was not given before. -/
  | renewed (i : Instance) (h : s'.find? .inst key = some i)
      (hv : i.metadata.resourceVersion = some (toString s'.version)) (hlt : s.version < s'.version)

variable {s s' : Store} {key key' : Key}

theorem fate_put {i : Instance} (hv : i.metadata.resourceVersion = some s.bump.versionText) :
    Fate s (s.bump.put .inst key' i) key := by
  have hf : (s.bump.put .inst key' i).find? .inst key =
      if key' = key then some i else s.bump.find? .inst key := find?_put (κ := .inst) i
  by_cases hk : key' = key
  · rw [if_pos hk] at hf
    exact .renewed i hf (by rw [hv, version_put]; rfl) (by rw [version_put]; exact Nat.lt_succ_self _)
  · rw [if_neg hk, find?_bump] at hf
    exact .kept hf

theorem fate_drop : Fate s (s.drop .inst key') key := by
  have hf : (s.drop .inst key').find? .inst key =
      if key' = key then none else s.find? .inst key := find?_drop (κ := .inst)
  by_cases hk : key' = key
  · rw [if_pos hk] at hf
    exact .gone hf
  · rw [if_neg hk] at hf
    exact .kept hf

/-- A journal entry does not matter to an Instance. -/
theorem Fate.record (h : Fate s s' key) (verb : Verb) (kind : Kind) (name : String) :
    Fate s (s'.record verb kind name) key := by
  cases h with
  | kept h => exact .kept ((find?_record ..).trans h)
  | gone h => exact .gone ((find?_record ..).trans h)
  | renewed i h hv hlt => exact .renewed i ((find?_record ..).trans h) hv hlt

theorem Fate.of_record {verb : Verb} {kind : Kind} {name : String}
    (h : Fate (s.record verb kind name) s' key) : Fate s s' key := by
  cases h with
  | kept h => exact .kept (h.trans (find?_record ..))
  | gone h => exact .gone h
  | renewed i h hv hlt => exact .renewed i h hv hlt

theorem fate_answer (s : Store) (r : Request) (key : Key) : Fate s (s.answer r).2 key := by
  cases r with
  | getInstance k => exact .kept rfl
  | get c k => exact .kept rfl
  | list c ns selector => exact .kept rfl
  | listRuns ns selector => exact .kept rfl
  | create c ns o => exact .kept (find?_answer_of_kind c.kind_ne_inst)
  | delete c k => exact .kept (find?_answer_of_kind c.kind_ne_inst)
  | patchFinalizers k version finalizers =>
    simp only [Store.answer]
    split
    · exact .kept rfl
    · split
      · split
        · exact fate_drop.of_record
        · apply Fate.of_record
          exact fate_put rfl
      · exact .kept rfl
  | patchStatus k version patch =>
    simp only [Store.answer]
    split
    · exact .kept rfl
    · split
      · split
        · exact .kept rfl
        · apply Fate.record
          exact fate_put rfl
      · exact .kept rfl

/-- Whatever happens, an Instance stays as it is, vanishes, or gets a new version. -/
theorem fate_perform (s : Store) (o : Operation) (key : Key) : Fate s (s.perform o) key := by
  by_cases hkind : o.kind? = some .inst
  · cases o with
    | insertInstance i => exact fate_put rfl
    | touch k =>
      simp only [perform, touch, find?_bump]
      split
      · exact .kept find?_bump
      · exact fate_put rfl
    | requestDeletion k =>
      simp only [perform, requestDeletion]
      split
      · exact .kept rfl
      · split
        · exact fate_drop
        · exact fate_put rfl
    | request r =>
      simp only [perform, serve]
      split
      · exact .kept (find?_faults _)
      · exact fate_answer s r key
    | insertDeployment | insertRun | setReady | setData | setPhase | fail | failTimes
    | clearFaults => cases hkind
  · exact .kept (find?_perform_of_kind hkind)

/-- The counter never goes back. -/
theorem version_le_perform (s : Store) (o : Operation) : s.version ≤ (s.perform o).version :=
  (wrought_perform s o).version_le

/-! ## Lost versions -/

/-- A version that was given, and that the Instance under a key does not have. -/
structure Lost (s : Store) (key : Key) (n : Nat) : Prop where
  given : n ≤ s.version
  absent : ∀ i, s.find? .inst key = some i → i.metadata.resourceVersion ≠ some (toString n)

/-- A version that is lost stays lost. -/
theorem Lost.perform {n : Nat} (h : s.Lost key n) (o : Operation) : (s.perform o).Lost key n := by
  refine ⟨Nat.le_trans h.given (version_le_perform s o), ?_⟩
  intro i hi
  cases fate_perform s o key with
  | kept hk => exact h.absent i (hk ▸ hi)
  | gone hg => rw [hg] at hi; cases hi
  | renewed j hj hv hlt =>
    rw [hj] at hi
    cases hi
    intro he
    have hn : (s.perform o).version = n := eq_of_toString_eq (Option.some.inj (hv.symm.trans he))
    have := h.given
    omega

theorem Lost.run {n : Nat} (h : s.Lost key n) (operations : List Operation) :
    (s.run operations).Lost key n := by
  induction operations generalizing s with
  | nil => exact h
  | cons o operations ih => exact ih (h.perform o)

/-- An operation leaves an Instance as it is, or its version is lost. -/
theorem kept_or_lost {o : Instance} {n : Nat} (h : s.find? .inst key = some o)
    (hle : n ≤ s.version) (operation : Operation) :
    (s.perform operation).find? .inst key = some o ∨ (s.perform operation).Lost key n := by
  have hle' := Nat.le_trans hle (version_le_perform s operation)
  cases fate_perform s operation key with
  | kept hk => exact .inl (hk.trans h)
  | gone hg =>
    refine .inr ⟨hle', fun i hi => ?_⟩
    rw [hg] at hi
    cases hi
  | renewed j hj hv' hlt =>
    refine .inr ⟨hle', fun i hi he => ?_⟩
    rw [hj] at hi
    cases hi
    have hn := eq_of_toString_eq (Option.some.inj (hv'.symm.trans he))
    omega

/-- If the version of an Instance is not lost at the end of a run, then the Instance was
there as it is all the time. -/
theorem kept_of_not_lost {o : Instance} {n : Nat} (h : s.find? .inst key = some o)
    (hle : n ≤ s.version) {operations earlier : List Operation} (hend : ¬ (s.run operations).Lost key n)
    (hpre : earlier <+: operations) : (s.run earlier).find? .inst key = some o := by
  induction operations generalizing s earlier with
  | nil =>
    rw [List.prefix_nil.1 hpre]
    exact h
  | cons operation operations ih =>
    cases earlier with
    | nil => exact h
    | cons operation' earlier =>
      obtain ⟨rfl, hrest⟩ := List.cons_prefix_cons.1 hpre
      -- what is lost once would still be lost at the end
      rcases kept_or_lost h hle operation' with hkept | hlost
      · exact ih hkept (Nat.le_trans hle (version_le_perform ..)) hend hrest
      · exact absurd (hlost.run operations) hend

/-! ## Patches -/

/-- A patch that names a version is refused if that version is lost. -/
theorem not_accepts_of_lost {n : Nat} {r : Request} (h : s.Lost key n)
    (hr : r.Patches key (toString n)) : ¬ s.Accepts r := by
  have stale : ∀ i, s.find? .inst key = some i → meantFor (some (toString n)) i = false := by
    intro i hi
    simpa [meantFor] using h.absent i hi
  intro accepted
  unfold Accepts serve at accepted
  split at accepted
  · cases accepted
  · cases r with
    | patchFinalizers k v finalizers =>
      obtain ⟨rfl, rfl⟩ := hr
      simp only [answer] at accepted
      split at accepted
      · cases accepted
      · next i hi =>
        rw [stale i hi] at accepted
        cases accepted
    | patchStatus k v patch =>
      obtain ⟨rfl, rfl⟩ := hr
      simp only [answer] at accepted
      split at accepted
      · cases accepted
      · next i hi =>
        rw [stale i hi] at accepted
        cases accepted
    | getInstance | get | create | list | delete | listRuns => cases hr

/-- If a patch is accepted that names the version of an Instance that was read before,
then that Instance was there all the time since, and nothing about it has changed.  In
particular nobody deleted it to file another one under its name. -/
theorem unchanged_since_read (before between : List Operation) {key : Key} {o : Instance}
    {version : String} {r : Request}
    (read : ((empty.run before).serve (.getInstance key)).1 = .ok (some o))
    (hv : o.metadata.resourceVersion = some version) (hr : r.Patches key version)
    (accepted : (((empty.run before).serve (.getInstance key)).2.run between).Accepts r) :
    ∀ earlier, earlier <+: between →
      (((empty.run before).serve (.getInstance key)).2.run earlier).find? .inst key = some o := by
  intro earlier hpre
  have filed := filed_empty.run before
  have found := find?_of_read read
  obtain ⟨n, hn, hvn⟩ := (filed .inst key o found).version
  cases hv.symm.trans hvn
  have kept : ((empty.run before).serve (.getInstance key)).2.find? .inst key = some o := by
    unfold serve
    split <;> exact found
  have given : n ≤ ((empty.run before).serve (.getInstance key)).2.version :=
    Nat.le_trans hn (version_le_perform _ (.request (.getInstance key)))
  exact kept_of_not_lost kept given (fun lost => not_accepts_of_lost lost hr accepted) hpre

/-- Others may use up versions, and patches may fail, between the reading and a patch that
is accepted. -/
theorem unchanged_since_read_among_others :
    let key : Key := ⟨"tenant", "bot"⟩
    let before : List Operation :=
      [.insertInstance { metadata := { name := some "bot", ns := some "tenant" } }]
    let between : List Operation :=
      [.touch ⟨"tenant", "cat"⟩, .failTimes .patch .inst 1 (.unavailable "down"),
        .request (.patchStatus key none .null), .setReady key 1]
    let patch : Request := .patchFinalizers key (some "1") [Instance.marker]
    let read := (empty.run before).serve (.getInstance key)
    ∃ o, read.1 = .ok (some o) ∧ o.metadata.resourceVersion = some "1" ∧ patch.Patches key "1" ∧
      (read.2.run between).Accepts patch ∧
      ∀ earlier, earlier <+: between → (read.2.run earlier).find? .inst key = some o := by
  intro key before between patch read
  have accepted : (read.2.run between).Accepts patch := by decide +kernel
  have meant : patch.Patches key "1" := ⟨rfl, rfl⟩
  exact ⟨_, rfl, rfl, meant, accepted, unchanged_since_read before between rfl rfl meant accepted⟩

end Store

end WorkloadOperator
