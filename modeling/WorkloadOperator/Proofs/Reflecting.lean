import WorkloadOperator.Proofs.Following
import WorkloadOperator.Proofs.Twins

/-!
# What concerns one Instance

A store concerns an Instance by the Instance itself, by its children, and by the Runs.  One
store reflects another one for an Instance if they are the same as far as it is concerned,
apart from what stores give to objects.

Stores that reflect each other give similar answers to a pass for that Instance, and they
reflect each other afterwards (`Reflects.answer`).
-/

namespace WorkloadOperator

open Naming Selector Store Pass

namespace Store

variable {s s' t t' : Store} {κ : Kind} {key key' : Key} {c : Child} {k : Key}

/-! ## Lists -/

theorem admits_bare (requirements : List Requirement) (o : κ.Object) :
    admits requirements (Resource.metadata (bare κ o)) =
      admits requirements (Resource.metadata o) := by
  simp only [bare, Resource.metadata_withMetadata]
  rfl

/-- The object under a key, if a selector selects it. -/
def selected? (s : Store) (κ : Kind) (ns selector : String) (key : Key) : Option κ.Object :=
  (s.find? κ key).filter fun o => key.ns = ns ∧ admits (read selector) (Resource.metadata o)

theorem selected?_eq_some {ns selector : String} {o : κ.Object} :
    s.selected? κ ns selector key = some o ↔
      s.find? κ key = some o ∧ key.ns = ns ∧
        admits (read selector) (Resource.metadata o) = true := by
  rw [selected?, Option.filter_eq_some_iff, decide_eq_true_iff]

theorem selected?_bare (ns selector : String) :
    (s.selected? κ ns selector key).map (bare κ) = ((s.find? κ key).map (bare κ)).filter fun o =>
      key.ns = ns ∧ admits (read selector) (Resource.metadata o) := by
  rw [Option.filter_map]
  simp only [Function.comp_def, admits_bare]
  rfl

/-- A list is determined by what is selected under each key. -/
theorem select_bare_eq {ns selector : String}
    (h : ∀ key, (s.selected? κ ns selector key).map (bare κ) =
      (t.selected? κ ns selector key).map (bare κ)) :
    (s.select κ ns selector).map (bare κ) = (t.select κ ns selector).map (bare κ) := by
  let p (e : Key × κ.Object) : Bool := e.1.ns = ns ∧ admits (read selector) (Resource.metadata e.2)
  let bares (s : Store) := ((s.table κ).entries.filter p).map fun e => (e.1, bare κ e.2)
  have hselect (s : Store) : (s.select κ ns selector).map (bare κ) = (bares s).map Prod.snd := by
    simp only [select, bares, p, List.map_map]
    rfl
  have ascending (s : Store) : Entries.Ascending (bares s) :=
    List.pairwise_map.2 ((s.table κ).ascending.filter p)
  have hget (s : Store) (key : Key) :
      Entries.get? key (bares s) = (s.selected? κ ns selector key).map (bare κ) :=
    Entries.get?_filter_map p (bare κ) key (s.table κ).ascending
  rw [hselect, hselect]
  refine congrArg _ (Entries.eq_of_get?_eq (ascending s) (ascending t) fun key => ?_)
  rw [hget, hget, h key]

/-! ## What is left alone -/

/-- Nothing has changed from one store to a later one that concerns the Instance under a key. -/
structure Leaves (key : Key) (s s' : Store) : Prop where
  inst : s'.find? .inst key = s.find? .inst key
  children : ∀ (c : Child) (k : Key), c.Belongs key k → s'.find? c.kind k = s.find? c.kind k
  runs : s'.runs = s.runs

theorem Leaves.refl (key : Key) (s : Store) : Leaves key s s := ⟨rfl, fun _ _ _ => rfl, rfl⟩

theorem runs_answer (s : Store) (r : Request) : (s.answer r).2.runs = s.runs := by
  cases r with
  | getInstance | get | list | listRuns => rfl
  | create c ns o =>
    simp only [answer]
    split
    · rfl
    · split
      · rfl
      · cases c <;> rfl
  | delete c k =>
    simp only [answer]
    split
    · cases c <;> rfl
    · rfl
  | patchFinalizers | patchStatus =>
    simp only [answer]
    repeat' split
    all_goals rfl

theorem runs_serve (s : Store) (r : Request) : (s.serve r).2.runs = s.runs := by
  unfold serve
  split
  · rfl
  · exact runs_answer s r

/-! ## Reflections -/

/-- Two stores are the same as far as the Instance under a key is concerned, apart from what
they have given to objects. -/
structure Reflects (key : Key) (s t : Store) : Prop where
  inst : (s.find? .inst key).map Instance.unversioned = (t.find? .inst key).map Instance.unversioned
  children : ∀ (c : Child) (k : Key), c.Belongs key k →
    (s.find? c.kind k).map (bare c.kind) = (t.find? c.kind k).map (bare c.kind)
  runs : s.runs = t.runs

theorem Reflects.refl (key : Key) (s : Store) : Reflects key s s := ⟨rfl, fun _ _ _ => rfl, rfl⟩

theorem Reflects.leave (h : Reflects key s t) (hs : Leaves key s s') : Reflects key s' t where
  inst := by rw [hs.inst, h.inst]
  children c k hk := by rw [hs.children c k hk, h.children c k hk]
  runs := hs.runs.trans h.runs

theorem Reflects.isSome_eq (h : Reflects key s t) (hk : c.Belongs key k) :
    (s.find? c.kind k).isSome = (t.find? c.kind k).isSome := by
  rw [← Option.isSome_map (f := bare c.kind), h.children c k hk, Option.isSome_map]

/-- Only children of the Instance are selected for it. -/
theorem Reflects.select_eq (h : Reflects key s t) (hs : s.Tidy) (ht : t.Tidy)
    (hplain : Plain key.name) (c : Child) :
    (s.select c.kind key.ns (componentSelector key.name channelComponent)).map (bare c.kind) =
      (t.select c.kind key.ns (componentSelector key.name channelComponent)).map (bare c.kind) := by
  refine select_bare_eq fun k => ?_
  have stray (hk : ¬ c.Belongs key k) {s : Store} (hs : s.Tidy) :
      s.selected? c.kind key.ns (componentSelector key.name channelComponent) k = none := by
    refine Option.eq_none_iff_forall_ne_some.2 fun o ho => hk ?_
    obtain ⟨hfind, hns, hadmits⟩ := selected?_eq_some.1 ho
    exact hs.belongs hfind hns ((admits_componentSelector hplain _).1 hadmits).2
  by_cases hk : c.Belongs key k
  · rw [selected?_bare, selected?_bare, h.children c k hk]
  · rw [stray hk hs, stray hk ht]

/-! ## Answers -/

variable {adapters : Config.Adapters} {l l' : Lore} {r r' : Request}

theorem Reflects.answers (h : Reflects key s t)
    (hinst : ((s.answer r).2.find? .inst key).map Instance.unversioned =
      ((t.answer r').2.find? .inst key).map Instance.unversioned)
    (hchildren : ∀ (c : Child) (k : Key), c.Belongs key k →
      ((s.answer r).2.find? c.kind k).map (bare c.kind) =
        ((t.answer r').2.find? c.kind k).map (bare c.kind)) :
    Reflects key (s.answer r).2 (t.answer r').2 where
  inst := hinst
  children := hchildren
  runs := by rw [runs_answer, runs_answer, h.runs]

/-- A request about children of one kind concerns the Instance by these only. -/
theorem Reflects.reared (h : Reflects key s t) (hr : r.kind = c.kind) (hr' : r'.kind = c.kind)
    (hchild : ∀ k : Key, c.Belongs key k → ((s.answer r).2.find? c.kind k).map (bare c.kind) =
      ((t.answer r').2.find? c.kind k).map (bare c.kind)) :
    Reflects key (s.answer r).2 (t.answer r').2 := by
  refine h.answers ?_ fun c' k hk => ?_
  · rw [find?_answer_of_kind (hr ▸ c.kind_ne_inst), find?_answer_of_kind (hr' ▸ c.kind_ne_inst),
      h.inst]
  · by_cases hc : c = c'
    · subst hc
      exact hchild k hk
    · have hkind := Child.kind_ne_kind hc
      rw [find?_answer_of_kind (hr ▸ hkind), find?_answer_of_kind (hr' ▸ hkind), h.children c' k hk]

/-- A request about Instances concerns the Instance by itself only. -/
theorem Reflects.patched (h : Reflects key s t) (hr : r.kind = .inst) (hr' : r'.kind = .inst)
    (hinst : ((s.answer r).2.find? .inst key).map Instance.unversioned =
      ((t.answer r').2.find? .inst key).map Instance.unversioned) :
    Reflects key (s.answer r).2 (t.answer r').2 := by
  refine h.answers hinst fun c k hk => ?_
  have hkind := c.kind_ne_inst.symm
  rw [find?_answer_of_kind (hr ▸ hkind), find?_answer_of_kind (hr' ▸ hkind), h.children c k hk]

/-- Stores give the same to an object, apart from what does not count. -/
theorem bare_insert_eq (s t : Store) (ns : String) (o : κ.Object) :
    bare κ (s.insert κ ns o).1 = bare κ (t.insert κ ns o).1 := by
  simp [bare, insert, stamped]

theorem Reflects.create (h : Reflects key s t) {ns : String} {o : c.Object}
    (hplace : c.Belongs key ⟨ns, c.kind.nameOf o⟩) :
    Both (Request.create c ns o).Similar (s.answer (.create c ns o)).1
        (t.answer (.create c ns o)).1 ∧
      Reflects key (s.answer (.create c ns o)).2 (t.answer (.create c ns o)).2 := by
  have hname : c.kind.nameOf o ≠ "" := hplace.name_ne_empty
  have hsame := h.isSome_eq hplace
  by_cases hthere : (s.find? c.kind ⟨ns, c.kind.nameOf o⟩).isSome = true
  · simp only [answer, if_neg hname, if_pos hthere, if_pos (hsame ▸ hthere)]
    exact ⟨.error _, h⟩
  · have hthere' : ¬ (t.find? c.kind ⟨ns, c.kind.nameOf o⟩).isSome = true := hsame ▸ hthere
    refine ⟨?_, h.reared rfl rfl fun k hk => ?_⟩
    · simp only [answer, if_neg hname, if_neg hthere, if_neg hthere']
      exact .ok trivial
    · simp only [answer, if_neg hname, if_neg hthere, if_neg hthere', find?_record, find?_insert]
      split
      · exact congrArg some (bare_insert_eq s t ns o)
      · exact h.children c k hk

theorem Reflects.delete (h : Reflects key s t) (hplace : c.Belongs key k) :
    Both (Request.delete c k).Similar (s.answer (.delete c k)).1 (t.answer (.delete c k)).1 ∧
      Reflects key (s.answer (.delete c k)).2 (t.answer (.delete c k)).2 := by
  have hsame := h.isSome_eq hplace
  by_cases hthere : (s.find? c.kind k).isSome = true
  · have hthere' : (t.find? c.kind k).isSome = true := hsame ▸ hthere
    refine ⟨?_, h.reared rfl rfl fun k' hk' => ?_⟩
    · simp only [answer, if_pos hthere, if_pos hthere']
      exact .ok trivial
    · simp only [answer, if_pos hthere, if_pos hthere', find?_record, find?_drop]
      split
      · rfl
      · exact h.children c k' hk'
  · simp only [answer, if_neg hthere, if_neg (hsame ▸ hthere)]
    exact ⟨.error _, h⟩

/-- Stores that reflect each other answer a pass in similar ways. -/
theorem Reflects.answer (h : Reflects key s t) (hs : s.Tidy) (ht : t.Tidy) (hplain : Plain key.name)
    (hr : Lore.Grants adapters key l r) (hown : l.Own key) (hpatch : r.isPatch = false) :
    Both r.Similar (s.answer r).1 (t.answer r).1 ∧ Reflects key (s.answer r).2 (t.answer r).2 := by
  cases r with
  | getInstance k =>
    obtain ⟨_, _, rfl⟩ := hr
    exact ⟨.ok h.inst, h⟩
  | get c k =>
    obtain ⟨_, i, hseen, _, hbelongs⟩ := hr
    rw [hown.name i hseen] at hbelongs
    exact ⟨.ok (h.children c k hbelongs), h⟩
  | create c ns o => exact h.create (hown.belongs_of_create hr).2.place
  | list c ns selector =>
    obtain ⟨_, i, hseen, _, rfl, rfl⟩ := hr
    rw [hown.name i hseen]
    exact ⟨.ok (h.select_eq hs ht hplain c), h⟩
  | delete c k => exact h.delete (hown.belongs_of_delete hr)
  | listRuns ns selector =>
    refine ⟨.ok ?_, h⟩
    show s.select .run ns selector = t.select .run ns selector
    rw [select, select, show s.table .run = t.table .run from h.runs]
  | patchFinalizers | patchStatus => cases hpatch

/-! ## Patches -/

variable {i j : Instance}

/-- The Instances that two stores hold differ in their versions at most. -/
theorem Reflects.revised (h : Reflects key s t) (hi : s.find? .inst key = some i)
    (hj : t.find? .inst key = some j) : ∃ version, j = i.revised version := by
  have hinst := h.inst
  rw [hi, hj] at hinst
  exact Instance.eq_revised (Option.some.inj hinst)

theorem Reflects.finalizers (h : Reflects key s t) (hi : s.find? .inst key = some i)
    (hj : t.find? .inst key = some j) (finalizers : List String) :
    (s.answer (.patchFinalizers key i.metadata.resourceVersion finalizers)).1 =
        (t.answer (.patchFinalizers key j.metadata.resourceVersion finalizers)).1 ∧
      Reflects key (s.answer (.patchFinalizers key i.metadata.resourceVersion finalizers)).2
        (t.answer (.patchFinalizers key j.metadata.resourceVersion finalizers)).2 := by
  obtain ⟨version, rfl⟩ := h.revised hi hj
  refine ⟨?_, h.patched rfl rfl ?_⟩
  · rw [ok_patchFinalizers hi, ok_patchFinalizers hj]
  · simp only [Store.answer, hi, hj, if_pos (meantFor_self _),
      show (i.revised version).isDeleting = i.isDeleting from rfl]
    split
    · rw [find?_drop_self, find?_drop_self]
    · rw [find?_put_self, find?_put_self]
      rfl

theorem Reflects.status (h : Reflects key s t) (hi : s.find? .inst key = some i)
    (hj : t.find? .inst key = some j) (patch : Json) :
    (s.answer (.patchStatus key i.metadata.resourceVersion patch)).1 =
        (t.answer (.patchStatus key j.metadata.resourceVersion patch)).1 ∧
      Reflects key (s.answer (.patchStatus key i.metadata.resourceVersion patch)).2
        (t.answer (.patchStatus key j.metadata.resourceVersion patch)).2 := by
  obtain ⟨version, rfl⟩ := h.revised hi hj
  have hstatus : (i.revised version).status = i.status := rfl
  refine ⟨?_, h.patched rfl rfl ?_⟩
  · simp only [Store.answer, hi, hj, if_pos (meantFor_self _), hstatus]
    split <;> rfl
  · simp only [Store.answer, hi, hj, if_pos (meantFor_self _), hstatus]
    split
    · exact h.inst
    · rw [find?_record, find?_record, find?_put_self, find?_put_self]
      rfl

end Store

end WorkloadOperator
