import WorkloadOperator.Proofs.Tables

/-!
# How objects are filed

Whatever happens to a store, an object stands under its own name in its own
namespace, it has something that tells it apart, and its version is the text of a
number that was given before.  `Filed` says so of all objects of a store, and
`Filed.run` that it holds after every run.

`Wrought` is all that a request and an operation can make of the metadata in a store
(`wrought_perform`), so what has to hold of metadata is shown for its two cases.
-/

namespace WorkloadOperator

namespace Store

/-- What the metadata of an object is like that was filed under a key when so many
versions had been given. -/
structure FiledUnder (given : Nat) (key : Key) (m : Metadata) : Prop where
  name : m.displayName = key.name
  ns : m.ns = some key.ns
  uid : m.uid.isSome
  version : ∃ n ≤ given, m.resourceVersion = some (toString n)

/-- Every object is filed as it has to be. -/
def Filed (s : Store) : Prop :=
  ∀ κ key o, s.find? κ key = some o → FiledUnder s.version key (Resource.metadata o)

theorem FiledUnder.mono {given later : Nat} {key : Key} {m : Metadata}
    (h : FiledUnder given key m) (hle : given ≤ later) : FiledUnder later key m := by
  obtain ⟨n, hn, hv⟩ := h.version
  exact ⟨h.name, h.ns, h.uid, n, Nat.le_trans hn hle, hv⟩

/-- An object may get another version, and whatever else does not tell it apart. -/
theorem FiledUnder.renew {given n : Nat} {key : Key} {m m' : Metadata}
    (h : FiledUnder given key m) (hname : m'.displayName = m.displayName) (hns : m'.ns = m.ns)
    (huid : m'.uid = m.uid) (hle : n ≤ given) (hv : m'.resourceVersion = some (toString n)) :
    FiledUnder given key m' :=
  ⟨hname.trans h.name, hns.trans h.ns, huid ▸ h.uid, n, hle, hv⟩

variable {s s' : Store} {κ κ' : Kind} {key key' : Key}

/-! ## What one step can do -/

/-- The metadata that an object may get under a key: it is a new object, or the one that is
there, which may only change in what does not tell it apart. -/
inductive Issued (s : Store) (κ : Kind) (key : Key) (m : Metadata) : Prop where
  | fresh (hname : m.displayName = key.name) (hns : m.ns = some key.ns) (huid : m.uid.isSome)
      (hcreation : m.creationTimestamp.isSome)
  | renewed (o : κ.Object) (ho : s.find? κ key = some o)
      (hname : m.displayName = (Resource.metadata o).displayName)
      (hns : m.ns = (Resource.metadata o).ns) (huid : m.uid = (Resource.metadata o).uid)
      (hcreation : m.creationTimestamp = (Resource.metadata o).creationTimestamp)

/-- What becomes of the metadata in a store by one step. -/
inductive Wrought (s s' : Store) : Prop where
  /-- Objects may vanish. -/
  | kept (hversion : s.version ≤ s'.version)
      (h : ∀ κ key o, s'.find? κ key = some o →
        ∃ o', s.find? κ key = some o' ∧ Resource.metadata o = Resource.metadata o')
  /-- One object gets the version that is given last. -/
  | issued (κ : Kind) (key : Key) (o : κ.Object) (hversion : s.version < s'.version)
      (ho : s'.find? κ key = some o) (hissued : Issued s κ key (Resource.metadata o))
      (hv : (Resource.metadata o).resourceVersion = some (toString s'.version))
      (hrest : ∀ κ' key', ¬ (κ' = κ ∧ key' = key) → s'.find? κ' key' = s.find? κ' key')

/-- The counter never goes back. -/
theorem Wrought.version_le (h : Wrought s s') : s.version ≤ s'.version := by
  cases h with
  | kept hversion => exact hversion
  | issued κ key o hversion => exact Nat.le_of_lt hversion

/-- An object that is there after a step was there before it, or it has got its version in
that step. -/
theorem Wrought.found (h : Wrought s s') {o : κ.Object} (ho : s'.find? κ key = some o) :
    (∃ o', s.find? κ key = some o' ∧ Resource.metadata o = Resource.metadata o') ∨
      Issued s κ key (Resource.metadata o) ∧ s.version < s'.version ∧
        (Resource.metadata o).resourceVersion = some (toString s'.version) := by
  cases h with
  | kept _ h => exact .inl (h κ key o ho)
  | issued κ₀ key₀ o₀ hversion ho₀ hissued hv hrest =>
    by_cases hplace : κ = κ₀ ∧ key = key₀
    · obtain ⟨rfl, rfl⟩ := hplace
      cases ho₀.symm.trans ho
      exact .inr ⟨hissued, hversion, hv⟩
    · exact .inl ⟨o, (hrest κ key hplace).symm.trans ho, rfl⟩

theorem find?_put_of_not (o : κ.Object) (h : ¬ (κ' = κ ∧ key' = key)) :
    (s.put κ key o).find? κ' key' = s.find? κ' key' := by
  by_cases hκ : κ = κ'
  · subst hκ
    exact find?_put_of_ne o fun hk => h ⟨rfl, hk.symm⟩
  · exact find?_put_of_kind o hκ

theorem find?_drop_of_not (h : ¬ (κ' = κ ∧ key' = key)) :
    (s.drop κ key).find? κ' key' = s.find? κ' key' := by
  by_cases hκ : κ = κ'
  · subst hκ
    exact find?_drop_of_ne fun hk => h ⟨rfl, hk.symm⟩
  · exact find?_drop_of_kind hκ

theorem wrought_of_same (hversion : s.version ≤ s'.version)
    (h : ∀ κ key, s'.find? κ key = s.find? κ key) : Wrought s s' :=
  .kept hversion fun κ key o ho => ⟨o, (h κ key).symm.trans ho, rfl⟩

theorem wrought_refl (s : Store) : Wrought s s := wrought_of_same (Nat.le_refl _) fun _ _ => rfl

theorem wrought_faults (s : Store) (faults : List Fault) : Wrought s { s with faults } :=
  wrought_of_same (Nat.le_refl _) fun _ _ => find?_faults faults

theorem wrought_bump (s : Store) : Wrought s s.bump :=
  wrought_of_same (Nat.le_succ _) fun _ _ => find?_bump

theorem wrought_drop (s : Store) (κ : Kind) (key : Key) : Wrought s (s.drop κ key) := by
  refine .kept (Nat.le_of_eq version_drop.symm) fun κ' key' o ho => ⟨o, ?_, rfl⟩
  by_cases hplace : κ' = κ ∧ key' = key
  · obtain ⟨rfl, rfl⟩ := hplace
    rw [find?_drop_self] at ho
    cases ho
  · rwa [find?_drop_of_not hplace] at ho

/-- Metadata is left alone. -/
theorem wrought_put {o o' : κ.Object} (ho : s.find? κ key = some o)
    (hm : Resource.metadata o' = Resource.metadata o) : Wrought s (s.put κ key o') := by
  refine .kept (Nat.le_of_eq (version_put o').symm) fun κ' key' o'' ho'' => ?_
  by_cases hplace : κ' = κ ∧ key' = key
  · obtain ⟨rfl, rfl⟩ := hplace
    rw [find?_put_self] at ho''
    cases ho''
    exact ⟨o, ho, hm⟩
  · rw [find?_put_of_not o' hplace] at ho''
    exact ⟨o'', ho'', rfl⟩

/-- An object is put under its key with the version that is given next. -/
theorem wrought_issue {o : κ.Object} (hissued : Issued s κ key (Resource.metadata o))
    (hv : (Resource.metadata o).resourceVersion = some s.bump.versionText) :
    Wrought s (s.bump.put κ key o) := by
  have hversion : (s.bump.put κ key o).version = s.version + 1 := version_put o
  refine .issued κ key o (by omega) (find?_put_self o) hissued ?_ fun κ' key' hplace => ?_
  · rw [hv, hversion]
    rfl
  · exact (find?_put_of_not o hplace).trans find?_bump

theorem wrought_insert (s : Store) (κ : Kind) (ns : String) (o : κ.Object) :
    Wrought s (s.insert κ ns o).2 := by
  rw [insert_eq]
  refine wrought_issue (.fresh rfl ?_ ?_ ?_) ?_ <;> simp [Store.insert, stamped, versionText]

/-- A journal entry is no matter of metadata. -/
theorem Wrought.record (h : Wrought s s') (verb : Verb) (kind : Kind) (name : String) :
    Wrought s (s'.record verb kind name) := by
  have found (κ : Kind) (key : Key) : (s'.record verb kind name).find? κ key = s'.find? κ key :=
    find?_record ..
  cases h with
  | kept hversion h =>
    exact .kept hversion fun κ key o ho => h κ key o ((found κ key).symm.trans ho)
  | issued κ key o hversion ho hissued hv hrest =>
    exact .issued κ key o hversion ((found κ key).trans ho) hissued hv fun κ' key' hplace =>
      (found κ' key').trans (hrest κ' key' hplace)

theorem wrought_answer (s : Store) (r : Request) : Wrought s (s.answer r).2 := by
  cases r with
  | getInstance key => exact wrought_refl s
  | get c key => exact wrought_refl s
  | list c ns selector => exact wrought_refl s
  | listRuns ns selector => exact wrought_refl s
  | create c ns o =>
    simp only [Store.answer]
    split
    · exact wrought_refl s
    · split
      · exact wrought_refl s
      · exact (wrought_insert s c.kind ns o).record _ _ _
  | delete c key =>
    simp only [Store.answer]
    split
    · exact (wrought_drop s c.kind key).record _ _ _
    · exact wrought_refl s
  | patchFinalizers key version finalizers =>
    simp only [Store.answer]
    split
    · exact wrought_refl s
    · next i hi =>
      split
      · split
        · exact (wrought_drop s .inst key).record .patch .inst key.name
        · show Wrought s ((s.bump.put .inst key _).record .patch .inst key.name)
          apply Wrought.record
          exact wrought_issue (.renewed i hi rfl rfl rfl rfl) rfl
      · exact wrought_refl s
  | patchStatus key version patch =>
    simp only [Store.answer]
    split
    · exact wrought_refl s
    · next i hi =>
      split
      · split
        · exact wrought_refl s
        · apply Wrought.record
          exact wrought_issue (.renewed i hi rfl rfl rfl rfl) rfl
      · exact wrought_refl s

theorem wrought_serve (s : Store) (r : Request) : Wrought s (s.serve r).2 := by
  rcases serve_cases s r with ⟨e, faults, hserve⟩ | hserve
  · rw [hserve]
    exact wrought_faults s faults
  · rw [hserve]
    exact wrought_answer s r

/-- An operation drops objects, leaves their metadata alone, or gives one version. -/
theorem wrought_perform (s : Store) (o : Operation) : Wrought s (s.perform o) := by
  cases o with
  | insertInstance i => exact wrought_insert s .inst _ _
  | insertDeployment ns d => exact wrought_insert s .deployment ns d
  | insertRun ns r => exact wrought_insert s .run ns r
  | touch key =>
    simp only [perform, touch, find?_bump]
    split
    · exact wrought_bump s
    · next i hi => exact wrought_issue (.renewed i hi rfl rfl rfl rfl) rfl
  | requestDeletion key =>
    simp only [perform, requestDeletion]
    split
    · exact wrought_refl s
    · next i hi =>
      split
      · exact wrought_drop s .inst key
      · exact wrought_issue (.renewed i hi rfl rfl rfl rfl) rfl
  | setReady key replicas =>
    simp only [perform, setReady]
    split
    · exact wrought_refl s
    · next d hd => exact wrought_put hd rfl
  | setData key data =>
    simp only [perform, setData, find?_bump]
    split
    · exact wrought_bump s
    · next c hc => exact wrought_issue (.renewed c hc rfl rfl rfl rfl) rfl
  | setPhase key phase =>
    simp only [perform, setPhase]
    split
    · exact wrought_refl s
    · next r hr => exact wrought_put hr rfl
  | fail verb kind error => exact wrought_faults s _
  | failTimes verb kind times error =>
    cases times with
    | zero => exact wrought_refl s
    | succ n => exact wrought_faults s _
  | clearFaults => exact wrought_faults s _
  | request r => exact wrought_serve s r

/-! ## What stays filed -/

theorem filed_empty : Filed empty := by
  intro κ key o h
  rw [find?_empty] at h
  cases h

/-- Objects that were filed as they have to be are so after a step. -/
theorem Filed.wrought (h : s.Filed) (hw : Wrought s s') : s'.Filed := by
  intro κ key o ho
  rcases hw.found ho with ⟨o', ho', hm⟩ | ⟨hissued, hlt, hv⟩
  · rw [hm]
    exact (h κ key o' ho').mono hw.version_le
  · cases hissued with
    | fresh hname hns huid _ => exact ⟨hname, hns, huid, s'.version, Nat.le_refl _, hv⟩
    | renewed o' ho' hname hns huid _ =>
      exact ((h κ key o' ho').mono hw.version_le).renew hname hns huid (Nat.le_refl _) hv

theorem Filed.faults (h : s.Filed) (faults : List Fault) : Filed { s with faults } :=
  h.wrought (wrought_faults s faults)

theorem Filed.serve (h : s.Filed) (r : Request) : (s.serve r).2.Filed :=
  h.wrought (wrought_serve s r)

theorem Filed.perform (h : s.Filed) (o : Operation) : (s.perform o).Filed :=
  h.wrought (wrought_perform s o)

/-- Objects are filed as they have to be after every run. -/
theorem Filed.run (h : s.Filed) (operations : List Operation) : (s.run operations).Filed := by
  induction operations generalizing s with
  | nil => exact h
  | cons o operations ih => exact ih (h.perform o)

/-- What a selector has found in a store is filed under its own name. -/
theorem Filed.found (h : s.Filed) {ns selector : String} {o : κ.Object}
    (ho : o ∈ s.select κ ns selector) :
    s.find? κ ⟨ns, (Resource.metadata o).displayName⟩ = some o := by
  obtain ⟨key, rfl, hfind, _⟩ := mem_select.1 ho
  rw [(h κ key o hfind).name]
  exact hfind

end Store

end WorkloadOperator
