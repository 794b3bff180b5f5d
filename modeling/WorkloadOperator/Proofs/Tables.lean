import WorkloadOperator.Store.Operation

/-!
# What is read after a change

A change of a store files or drops one object, and everything else is read as
before.  The lemmas here say so for each building block of the store, so that
later proofs never open a table.  `Handled` and `Became` are all that a request and
an operation can make of an Instance, `Tended` is all that a request can make of a
child, and `mem_select` says what a selector finds.
-/

namespace WorkloadOperator

theorem Child.kind_ne_inst (c : Child) : c.kind ≠ .inst := by
  cases c <;> decide

theorem Child.kind_ne_kind {c c' : Child} (h : c ≠ c') : c.kind ≠ c'.kind := by
  cases c <;> cases c' <;> first | decide | exact absurd rfl h

/-- The kind of objects that an operation may change. -/
def Operation.kind? : Operation → Option Kind
  | .insertInstance _ | .touch _ | .requestDeletion _ => some .inst
  | .insertDeployment _ _ | .setReady _ _ => some .deployment
  | .setData _ _ => some .configMap
  | .insertRun _ _ | .setPhase _ _ => some .run
  | .fail _ _ _ | .failTimes _ _ _ _ | .clearFaults => none
  | .request r => some r.kind

namespace Store

variable {s : Store} {κ κ' : Kind} {key key' : Key}

/-! ## Objects -/

@[simp] theorem find?_empty : empty.find? κ key = none := by
  cases κ <;> rfl

@[simp] theorem find?_bump : s.bump.find? κ key = s.find? κ key := by
  cases κ <;> rfl

@[simp] theorem find?_record (verb : Verb) (kind : Kind) (name : String) :
    (s.record verb kind name).find? κ key = s.find? κ key := by
  cases κ <;> rfl

@[simp] theorem find?_faults (faults : List Fault) :
    ({ s with faults } : Store).find? κ key = s.find? κ key := by
  cases κ <;> rfl

@[simp] theorem find?_inject (f : Fault) : (s.inject f).find? κ key = s.find? κ key := by
  cases κ <;> rfl

theorem find?_put (o : κ.Object) :
    (s.put κ key o).find? κ key' = if key = key' then some o else s.find? κ key' := by
  rw [find?, put, table_setTable, Dict.get?_insert]
  rfl

@[simp] theorem find?_put_self (o : κ.Object) : (s.put κ key o).find? κ key = some o := by
  rw [find?_put, if_pos rfl]

theorem find?_put_of_ne (o : κ.Object) (h : key ≠ key') :
    (s.put κ key o).find? κ key' = s.find? κ key' := by
  rw [find?_put, if_neg h]

theorem find?_put_of_kind (o : κ.Object) (h : κ ≠ κ') :
    (s.put κ key o).find? κ' key' = s.find? κ' key' := by
  rw [find?, put, table_setTable_of_ne s _ h]
  rfl

theorem find?_drop :
    (s.drop κ key).find? κ key' = if key = key' then none else s.find? κ key' := by
  rw [find?, drop, table_setTable, Dict.get?_erase]
  rfl

@[simp] theorem find?_drop_self : (s.drop κ key).find? κ key = none := by
  rw [find?_drop, if_pos rfl]

theorem find?_drop_of_ne (h : key ≠ key') : (s.drop κ key).find? κ key' = s.find? κ key' := by
  rw [find?_drop, if_neg h]

theorem find?_drop_of_kind (h : κ ≠ κ') : (s.drop κ key).find? κ' key' = s.find? κ' key' := by
  rw [find?, drop, table_setTable_of_ne s _ h]
  rfl

/-- The object that is filed by an insertion. -/
theorem insert_eq (ns : String) (o : κ.Object) :
    (s.insert κ ns o).2 = s.bump.put κ ⟨ns, κ.nameOf (s.insert κ ns o).1⟩ (s.insert κ ns o).1 := rfl

theorem nameOf_insert (ns : String) (o : κ.Object) :
    κ.nameOf (s.insert κ ns o).1 = κ.nameOf o := by
  simp [Kind.nameOf, insert, stamped, Metadata.displayName]

/-- An object is filed under its own name. -/
theorem find?_insert (ns : String) (o : κ.Object) :
    (s.insert κ ns o).2.find? κ key =
      if ⟨ns, κ.nameOf o⟩ = key then some (s.insert κ ns o).1 else s.find? κ key := by
  rw [insert_eq, find?_put, nameOf_insert, find?_bump]

/-! ## Versions -/

@[simp] theorem version_bump : s.bump.version = s.version + 1 := rfl

@[simp] theorem version_record (verb : Verb) (kind : Kind) (name : String) :
    (s.record verb kind name).version = s.version := rfl

@[simp] theorem version_put (o : κ.Object) : (s.put κ key o).version = s.version :=
  version_setTable ..

@[simp] theorem version_drop : (s.drop κ key).version = s.version := version_setTable ..

@[simp] theorem version_insert (ns : String) (o : κ.Object) :
    (s.insert κ ns o).2.version = s.version + 1 := by
  rw [insert_eq, version_put, version_bump]

/-! ## The journal -/

@[simp] theorem journal_bump : s.bump.journal = s.journal := rfl

@[simp] theorem journal_record (verb : Verb) (kind : Kind) (name : String) :
    (s.record verb kind name).journal = s.journal ++ [⟨verb, kind, name⟩] := rfl

@[simp] theorem journal_put (o : κ.Object) : (s.put κ key o).journal = s.journal :=
  journal_setTable ..

@[simp] theorem journal_drop : (s.drop κ key).journal = s.journal := journal_setTable ..

@[simp] theorem journal_insert (ns : String) (o : κ.Object) :
    (s.insert κ ns o).2.journal = s.journal := by
  rw [insert_eq, journal_put, journal_bump]

/-- What a request writes into the journal. -/
inductive Noted (s : Store) (r : Request) : List Entry → Prop where
  | nothing : Noted s r []
  | created (c : Child) (ns : String) (o : c.Object) (hr : r = .create c ns o)
      (hmissing : s.find? c.kind ⟨ns, c.kind.nameOf o⟩ = none) :
      Noted s r [⟨.create, c.kind, c.kind.nameOf o⟩]
  | deleted (c : Child) (key : Key) (hr : r = .delete c key) :
      Noted s r [⟨.delete, c.kind, key.name⟩]
  | patched (name : String) : Noted s r [⟨.patch, .inst, name⟩]

theorem noted_answer (s : Store) (r : Request) :
    ∃ noted, (s.answer r).2.journal = s.journal ++ noted ∧ Noted s r noted := by
  have nothing : ∃ noted, s.journal = s.journal ++ noted ∧ Noted s r noted :=
    ⟨[], (List.append_nil _).symm, .nothing⟩
  cases r with
  | getInstance key => exact nothing
  | get c key => exact nothing
  | list c ns selector => exact nothing
  | listRuns ns selector => exact nothing
  | create c ns o =>
    simp only [answer]
    split
    · exact nothing
    · split
      · exact nothing
      · next hfresh =>
        exact ⟨_, by simp, .created c ns o rfl (Option.not_isSome_iff_eq_none.1 hfresh)⟩
  | delete c key =>
    simp only [answer]
    split
    · exact ⟨_, by simp, .deleted c key rfl⟩
    · exact nothing
  | patchFinalizers key version finalizers =>
    simp only [answer]
    split
    · exact nothing
    · split
      · split <;> exact ⟨_, by simp, .patched key.name⟩
      · exact nothing
  | patchStatus key version patch =>
    simp only [answer]
    split
    · exact nothing
    · split
      · split
        · exact nothing
        · exact ⟨_, by simp, .patched key.name⟩
      · exact nothing

theorem journal_answer (s : Store) (r : Request) : s.journal <+: (s.answer r).2.journal := by
  obtain ⟨noted, hnoted, _⟩ := noted_answer s r
  exact ⟨noted, hnoted.symm⟩

/-- A journal only grows. -/
theorem journal_serve (s : Store) (r : Request) : s.journal <+: (s.serve r).2.journal := by
  unfold serve
  split
  · exact List.prefix_refl _
  · exact journal_answer s r

/-! ## Faults -/

@[simp] theorem faults_bump : s.bump.faults = s.faults := rfl

@[simp] theorem faults_record (verb : Verb) (kind : Kind) (name : String) :
    (s.record verb kind name).faults = s.faults := rfl

@[simp] theorem faults_put (o : κ.Object) : (s.put κ key o).faults = s.faults := faults_setTable ..

@[simp] theorem faults_drop : (s.drop κ key).faults = s.faults := faults_setTable ..

@[simp] theorem faults_insert (ns : String) (o : κ.Object) :
    (s.insert κ ns o).2.faults = s.faults := by
  rw [insert_eq, faults_put, faults_bump]

/-- Only a fault that strikes is used. -/
theorem faults_answer (s : Store) (r : Request) : (s.answer r).2.faults = s.faults := by
  cases r <;> simp only [answer] <;> (repeat' split) <;> simp

/-- No faults wait. -/
def Faultless (s : Store) : Prop := s.faults = []

instance (s : Store) : Decidable s.Faultless := inferInstanceAs (Decidable (s.faults = []))

theorem serve_of_no_faults (h : s.Faultless) (r : Request) : s.serve r = s.answer r := by
  rw [serve, h]
  rfl

/-! ## Requests -/

theorem find?_insert_of_kind {ns : String} {o : κ.Object} (h : κ ≠ κ') :
    (s.insert κ ns o).2.find? κ' key' = s.find? κ' key' := by
  rw [insert_eq, find?_put_of_kind _ h, find?_bump]

/-- A request changes objects of its own kind only. -/
theorem find?_answer_of_kind {r : Request} (h : r.kind ≠ κ') :
    (s.answer r).2.find? κ' key' = s.find? κ' key' := by
  cases r with
  | getInstance key => rfl
  | get c key => rfl
  | list c ns selector => rfl
  | listRuns ns selector => rfl
  | create c ns o =>
    have hkind : c.kind ≠ κ' := h
    simp only [answer]
    split
    · rfl
    · split
      · rfl
      · exact (find?_record ..).trans (find?_insert_of_kind hkind)
  | delete c key =>
    have hkind : c.kind ≠ κ' := h
    simp only [answer]
    split
    · exact (find?_record ..).trans (find?_drop_of_kind hkind)
    · rfl
  | patchFinalizers key version finalizers =>
    have hkind : Kind.inst ≠ κ' := h
    simp only [answer]
    split
    · rfl
    · split
      · split
        · rw [find?_drop_of_kind hkind, find?_record]
        · rw [find?_put_of_kind _ hkind, find?_bump, find?_record]
      · rfl
  | patchStatus key version patch =>
    have hkind : Kind.inst ≠ κ' := h
    simp only [answer]
    split
    · rfl
    · split
      · split
        · rfl
        · rw [find?_record, find?_put_of_kind _ hkind, find?_bump]
      · rfl

/-- A request that is refused changes nothing. -/
theorem answer_of_error {r : Request} {e : Store.Error} (h : (s.answer r).1 = .error e) :
    (s.answer r).2 = s := by
  cases r with
  | getInstance key => rfl
  | get c key => rfl
  | list c ns selector => rfl
  | listRuns ns selector => rfl
  | create c ns o =>
    simp only [answer] at h ⊢
    split
    · rfl
    · next hname =>
      rw [if_neg hname] at h
      split
      · rfl
      · next hfresh =>
        rw [if_neg hfresh] at h
        cases h
  | delete c key =>
    simp only [answer] at h ⊢
    split
    · next hfound =>
      rw [if_pos hfound] at h
      cases h
    · rfl
  | patchFinalizers key version finalizers =>
    simp only [answer] at h ⊢
    split
    · rfl
    · next i hi =>
      simp only [hi] at h
      split
      · next hv =>
        rw [if_pos hv] at h
        split at h <;> cases h
      · rfl
  | patchStatus key version patch =>
    simp only [answer] at h ⊢
    split
    · rfl
    · next i hi =>
      simp only [hi] at h
      split
      · next hv =>
        rw [if_pos hv] at h
        split
        · rfl
        · next status hs =>
          simp only [hs] at h
          cases h
      · rfl

theorem find?_serve_of_kind {r : Request} (h : r.kind ≠ κ') :
    (s.serve r).2.find? κ' key' = s.find? κ' key' := by
  unfold serve
  split
  · exact find?_faults _
  · exact find?_answer_of_kind h

/-- A request meets a fault, or it is answered. -/
theorem serve_cases (s : Store) (r : Request) :
    (∃ e faults, s.serve r = (.error e, { s with faults })) ∨ s.serve r = s.answer r := by
  unfold serve
  split
  · next e faults _ => exact .inl ⟨e, faults, rfl⟩
  · exact .inr rfl

theorem meantFor_self (i : Instance) : meantFor i.metadata.resourceVersion i = true := by
  unfold meantFor
  split
  · rfl
  · next v hv => simp [hv]

/-- A patch for the version that is there is accepted. -/
theorem ok_patchFinalizers {i : Instance} (hi : s.find? .inst key = some i)
    (finalizers : List String) :
    (s.answer (.patchFinalizers key i.metadata.resourceVersion finalizers)).1 = .ok () := by
  simp only [answer, hi, if_pos (meantFor_self i)]
  split <;> rfl

/-- A request that is not refused is answered as if there were no faults. -/
theorem answer_of_ok {r : Request} {reply : r.Reply} (h : (s.serve r).1 = .ok reply) :
    (s.answer r).1 = .ok reply := by
  rcases serve_cases s r with ⟨e, faults, hserve⟩ | hserve
  · rw [hserve] at h
    cases h
  · rwa [hserve] at h

/-- Whether a request would be answered without an error. -/
def Accepts (s : Store) (r : Request) : Prop := (s.serve r).1.isOk = true

instance (s : Store) (r : Request) : Decidable (s.Accepts r) :=
  inferInstanceAs (Decidable ((s.serve r).1.isOk = true))

/-- A request that is answered without an error has met no fault. -/
theorem serve_of_accepts {r : Request} (h : s.Accepts r) : s.serve r = s.answer r := by
  rcases serve_cases s r with ⟨e, faults, hserve⟩ | hserve
  · rw [Accepts, hserve] at h
    cases h
  · exact hserve

/-- What an accepted patch of finalizers makes of the Instance that it names. -/
theorem find?_patchFinalizers {i : Instance} (hi : s.find? .inst key = some i)
    {version : Option String} {finalizers : List String}
    (accepted : s.Accepts (.patchFinalizers key version finalizers)) :
    (s.serve (.patchFinalizers key version finalizers)).2.find? .inst key =
      if i.isDeleting ∧ finalizers = [] then none
      else some { i with
        metadata := { i.metadata with
          finalizers := some finalizers
          resourceVersion := some s.bump.versionText } } := by
  have hserve := serve_of_accepts accepted
  rw [Accepts, hserve] at accepted
  rw [hserve]
  simp only [answer, hi] at accepted ⊢
  split at accepted
  next hmeant =>
    rw [if_pos hmeant]
    split
    · exact find?_drop_self
    · exact find?_put_self _
  next => cases accepted

theorem find?_serve_of_not_accepts {r : Request} (h : ¬ s.Accepts r) :
    (s.serve r).2.find? κ key = s.find? κ key := by
  unfold Accepts serve at h
  unfold serve
  split
  · exact find?_faults _
  · next hstrike =>
    simp only [hstrike] at h
    cases ha : (s.answer r).1 with
    | ok reply =>
      rw [ha] at h
      exact absurd rfl h
    | error e => rw [answer_of_error ha]

/-- An Instance that was read is there. -/
theorem find?_of_read {o : Instance} (h : (s.serve (.getInstance key)).1 = .ok (some o)) :
    s.find? .inst key = some o := by
  unfold serve at h
  split at h
  · cases h
  · exact Except.ok.inj h

/-- What a request makes of the Instance under a key. -/
inductive Handled (r : Request) (key : Key) (before : Option Instance) : Option Instance → Prop where
  | kept : Handled r key before before
  /-- The last finalizer is taken off. -/
  | vanished (version : Option String) (i : Instance) (hr : r = .patchFinalizers key version [])
      (hi : before = some i) (hdeleting : i.isDeleting = true) : Handled r key before none
  | finalizers (version given : Option String) (finalizers : List String) (i : Instance)
      (hr : r = .patchFinalizers key version finalizers) (hi : before = some i) :
      Handled r key before (some { i with
        metadata := { i.metadata with finalizers := some finalizers, resourceVersion := given } })
  | status (version given : Option String) (patch : Json) (status : Instance.Status)
      (i : Instance) (hr : r = .patchStatus key version patch) (hi : before = some i) :
      Handled r key before (some { i with
        metadata := { i.metadata with resourceVersion := given }
        status := some status })

theorem handled_answer (s : Store) (r : Request) (key : Key) :
    Handled r key (s.find? .inst key) ((s.answer r).2.find? .inst key) := by
  cases r with
  | getInstance k => exact .kept
  | get c k => exact .kept
  | list c ns selector => exact .kept
  | listRuns ns selector => exact .kept
  | create c ns o =>
    rw [find?_answer_of_kind (r := .create c ns o) c.kind_ne_inst]
    exact .kept
  | delete c k =>
    rw [find?_answer_of_kind (r := .delete c k) c.kind_ne_inst]
    exact .kept
  | patchFinalizers k version finalizers =>
    simp only [answer]
    split
    · exact .kept
    · next i hi =>
      split
      · split
        · next hlast =>
          obtain ⟨hdeleting, rfl⟩ := hlast
          by_cases hk : k = key
          · subst hk
            rw [find?_drop_self]
            exact .vanished version i rfl hi hdeleting
          · rw [find?_drop_of_ne hk, find?_record]
            exact .kept
        · by_cases hk : k = key
          · subst hk
            rw [find?_put_self]
            exact .finalizers version _ finalizers i rfl hi
          · rw [find?_put_of_ne _ hk, find?_bump, find?_record]
            exact .kept
      · exact .kept
  | patchStatus k version patch =>
    simp only [answer]
    split
    · exact .kept
    · next i hi =>
      split
      · split
        · exact .kept
        · next status hstatus =>
          rw [find?_record]
          by_cases hk : k = key
          · subst hk
            rw [find?_put_self]
            exact .status version _ patch status i rfl hi
          · rw [find?_put_of_ne _ hk, find?_bump]
            exact .kept
      · exact .kept

theorem handled_serve (s : Store) (r : Request) (key : Key) :
    Handled r key (s.find? .inst key) ((s.serve r).2.find? .inst key) := by
  unfold serve
  split
  · rw [find?_faults]
    exact .kept
  · exact handled_answer s r key

/-- Only patches of Instances change Instances. -/
theorem find?_serve_of_verb {r : Request} (h : r.verb ≠ .patch) :
    (s.serve r).2.find? .inst key = s.find? .inst key := by
  have handled := handled_serve s r key
  generalize s.find? .inst key = before, (s.serve r).2.find? .inst key = after at handled
  cases handled with
  | kept => rfl
  | vanished version i hr hi hdeleting => exact absurd rfl (hr ▸ h)
  | finalizers version given finalizers i hr hi => exact absurd rfl (hr ▸ h)
  | status version given patch status i hr hi => exact absurd rfl (hr ▸ h)

/-- What a request makes of the child of a kind under a key. -/
inductive Tended (r : Request) (c : Child) (key : Key) (before : Option c.Object) :
    Option c.Object → Prop where
  | kept : Tended r c key before before
  | created (version : String) (o : c.Object) (hr : r = .create c key.ns o)
      (hname : c.kind.nameOf o = key.name) (hbefore : before = none) :
      Tended r c key before (some
        (Resource.withMetadata o (stamped key.ns version (Resource.metadata o))))
  | deleted (hr : r = .delete c key) : Tended r c key before none

theorem tended_answer (s : Store) (r : Request) (c : Child) (key : Key) :
    Tended r c key (s.find? c.kind key) ((s.answer r).2.find? c.kind key) := by
  cases r with
  | getInstance k => exact .kept
  | get c' k => exact .kept
  | list c' ns selector => exact .kept
  | listRuns ns selector => exact .kept
  | create c' ns o =>
    by_cases hc : c' = c
    · subst hc
      simp only [answer]
      split
      · exact .kept
      · split
        · exact .kept
        · next hfresh =>
          rw [find?_record, find?_insert]
          split
          · next hk =>
            subst hk
            exact .created _ o rfl rfl (Option.not_isSome_iff_eq_none.1 hfresh)
          · exact .kept
    · rw [find?_answer_of_kind (r := .create c' ns o) (Child.kind_ne_kind hc)]
      exact .kept
  | delete c' k =>
    by_cases hc : c' = c
    · subst hc
      simp only [answer]
      split
      · rw [find?_record, find?_drop]
        split
        · next hk =>
          subst hk
          exact .deleted rfl
        · exact .kept
      · exact .kept
    · rw [find?_answer_of_kind (r := .delete c' k) (Child.kind_ne_kind hc)]
      exact .kept
  | patchFinalizers k version finalizers =>
    rw [find?_answer_of_kind (r := .patchFinalizers k version finalizers) c.kind_ne_inst.symm]
    exact .kept
  | patchStatus k version patch =>
    rw [find?_answer_of_kind (r := .patchStatus k version patch) c.kind_ne_inst.symm]
    exact .kept

theorem tended_serve (s : Store) (r : Request) (c : Child) (key : Key) :
    Tended r c key (s.find? c.kind key) ((s.serve r).2.find? c.kind key) := by
  unfold serve
  split
  · rw [find?_faults]
    exact .kept
  · exact tended_answer s r c key

/-- A child that is there after a request was there before, or it was created. -/
theorem found_serve {r : Request} {c : Child} {o : c.Object}
    (h : (s.serve r).2.find? c.kind key = some o) :
    s.find? c.kind key = some o ∨
      ∃ (version : String) (o' : c.Object), r = .create c key.ns o' ∧
        c.kind.nameOf o' = key.name ∧ s.find? c.kind key = none ∧
        o = Resource.withMetadata o' (stamped key.ns version (Resource.metadata o')) := by
  have tended := tended_serve s r c key
  rw [h] at tended
  generalize s.find? c.kind key = before at tended
  cases tended with
  | kept => exact .inl rfl
  | created version o' hr hname hbefore => exact .inr ⟨version, o', hr, hname, hbefore, rfl⟩

/-- A child that is there before a request is there after it, unless it is deleted. -/
theorem kept_serve {r : Request} {c : Child} {o : c.Object} (h : s.find? c.kind key = some o)
    (hr : r ≠ .delete c key) : (s.serve r).2.find? c.kind key = some o := by
  have tended := tended_serve s r c key
  rw [h] at tended
  generalize (s.serve r).2.find? c.kind key = after at tended
  cases tended with
  | kept => rfl
  | created version o' he hname hbefore => cases hbefore
  | deleted he => exact absurd he hr

/-! ## Operations -/

/-- An operation changes objects of its own kind only. -/
theorem find?_perform_of_kind {o : Operation} (h : o.kind? ≠ some κ') :
    (s.perform o).find? κ' key' = s.find? κ' key' := by
  have hne {κ : Kind} (he : o.kind? = some κ) : κ ≠ κ' := fun hκ => h (hκ ▸ he)
  cases o with
  | insertInstance i => exact find?_insert_of_kind (κ := .inst) (hne rfl)
  | insertDeployment ns d => exact find?_insert_of_kind (κ := .deployment) (hne rfl)
  | insertRun ns r => exact find?_insert_of_kind (κ := .run) (hne rfl)
  | touch k =>
    simp only [perform, touch, find?_bump]
    split
    · exact find?_bump
    · exact (find?_put_of_kind (κ := .inst) _ (hne rfl)).trans find?_bump
  | requestDeletion k =>
    simp only [perform, requestDeletion]
    split
    · rfl
    · split
      · exact find?_drop_of_kind (hne rfl)
      · exact (find?_put_of_kind (κ := .inst) _ (hne rfl)).trans find?_bump
  | setReady k replicas =>
    simp only [perform, setReady]
    split
    · rfl
    · exact find?_put_of_kind (κ := .deployment) _ (hne rfl)
  | setData k data =>
    simp only [perform, setData, find?_bump]
    split
    · exact find?_bump
    · exact (find?_put_of_kind (κ := .configMap) _ (hne rfl)).trans find?_bump
  | setPhase k phase =>
    simp only [perform, setPhase]
    split
    · rfl
    · exact find?_put_of_kind (κ := .run) _ (hne rfl)
  | fail verb kind error => exact find?_inject _
  | failTimes verb kind times error =>
    cases times with
    | zero => rfl
    | succ n => exact find?_inject _
  | clearFaults => exact find?_faults _
  | request r => exact find?_serve_of_kind (hne rfl)

/-- What an operation makes of the Instance under a key. -/
inductive Became (o : Operation) (key : Key) (before : Option Instance) :
    Option Instance → Prop where
  | kept : Became o key before before
  | filed (version : String) (i : Instance) (ho : o = .insertInstance i)
      (hkey : ⟨i.metadata.ns.getD defaultNamespace, i.name⟩ = key) :
      Became o key before (some { i with
        metadata := stamped (i.metadata.ns.getD defaultNamespace) version
          { i.metadata with generation := some (i.metadata.generation.getD 1) } })
  | touched (version : String) (i : Instance) (ho : o = .touch key) (hi : before = some i) :
      Became o key before (some { i with
        metadata := { i.metadata with resourceVersion := some version } })
  /-- It waits for its finalizers. -/
  | condemned (version : String) (i : Instance) (ho : o = .requestDeletion key)
      (hi : before = some i) :
      Became o key before (some { i with
        metadata := { i.metadata with
          deletionTimestamp := some .now
          resourceVersion := some version } })
  | removed (i : Instance) (ho : o = .requestDeletion key) (hi : before = some i)
      (hnone : i.metadata.finalizerList = []) : Became o key before none
  | asked (r : Request) (after : Option Instance) (ho : o = .request r)
      (h : Handled r key before after) : Became o key before after

/-- An operation does no more to an Instance than what `Became` tells. -/
theorem became_perform (s : Store) (o : Operation) (key : Key) :
    Became o key (s.find? .inst key) ((s.perform o).find? .inst key) := by
  by_cases hkind : o.kind? = some .inst
  · cases o with
    | insertInstance i =>
      have hfind : (s.perform (.insertInstance i)).find? .inst key =
          if ⟨i.metadata.ns.getD defaultNamespace, i.name⟩ = key then _ else s.find? .inst key :=
        find?_insert (κ := .inst) (i.metadata.ns.getD defaultNamespace) _
      rw [hfind]
      split
      · next hkey => exact .filed s.bump.versionText i rfl hkey
      · exact .kept
    | touch k =>
      simp only [perform, touch, find?_bump]
      split
      · rw [find?_bump]
        exact .kept
      · next i hi =>
        by_cases hk : k = key
        · subst hk
          rw [find?_put_self]
          exact .touched _ i rfl hi
        · rw [find?_put_of_ne _ hk, find?_bump]
          exact .kept
    | requestDeletion k =>
      simp only [perform, requestDeletion]
      split
      · exact .kept
      · next i hi =>
        by_cases hk : k = key
        · subst hk
          split
          · next hnone =>
            rw [find?_drop_self]
            exact .removed i rfl hi hnone
          · rw [find?_put_self]
            exact .condemned _ i rfl hi
        · split
          · rw [find?_drop_of_ne hk]
            exact .kept
          · rw [find?_put_of_ne _ hk, find?_bump]
            exact .kept
    | request r => exact .asked r _ rfl (handled_serve s r key)
    | insertDeployment | insertRun | setReady | setData | setPhase | fail | failTimes
    | clearFaults => cases hkind
  · rw [find?_perform_of_kind hkind]
    exact .kept

/-! ## Selections -/

/-- What a selector finds in a namespace. -/
theorem mem_select {ns selector : String} {o : κ.Object} :
    o ∈ s.select κ ns selector ↔ ∃ key, key.ns = ns ∧ s.find? κ key = some o ∧
      Selector.admits (Selector.read selector) (Resource.metadata o) = true := by
  constructor
  · intro h
    obtain ⟨⟨key, o'⟩, he, rfl⟩ := List.mem_map.1 h
    obtain ⟨hmem, hp⟩ := List.mem_filter.1 he
    simp only [decide_eq_true_eq] at hp
    exact ⟨key, hp.1, Dict.mem_entries_iff.1 hmem, hp.2⟩
  · rintro ⟨key, hns, hfind, hadmit⟩
    refine List.mem_map.2 ⟨(key, o), List.mem_filter.2 ⟨?_, ?_⟩, rfl⟩
    · exact Dict.mem_entries_iff.2 hfind
    · simp only [decide_eq_true_eq]
      exact ⟨hns, hadmit⟩

end Store

end WorkloadOperator
