import WorkloadOperator.Manifest
import WorkloadOperator.Proofs.Endings
import WorkloadOperator.Proofs.Filing

/-!
# The children that passes work towards

An aim is what an Instance declares, and it says which children passes create for
the Instance: for each name, the manifest of the first declaration that asks for a
child of this name.  A child that is there is left alone.  So the children of a
store, completed by those that are missing, stay the same whatever a pass asks
(`Pursued.serve`), although the children themselves become more.
-/

namespace WorkloadOperator

namespace Store

/-- An object apart from what a store has given to it. -/
def bare (κ : Kind) (o : κ.Object) : κ.Object :=
  Resource.withMetadata o { Resource.metadata o with
    uid := none
    resourceVersion := none
    creationTimestamp := none }

/-- A store adds no more to an object than that. -/
theorem bare_insert {s : Store} {κ : Kind} {ns : String} {o : κ.Object}
    (hns : (Resource.metadata o).ns = some ns) : bare κ (s.insert κ ns o).1 = bare κ o := by
  simp [bare, insert, stamped, ← hns]

end Store

/-- What passes for an Instance work towards. -/
structure Aim where
  key : Key
  uid : String
  spec : Instance.Spec
  /-- The settings that the manifests follow. -/
  adapters : Config.Adapters

namespace Aim

open Store

/-- The Instance as the owner of its children. -/
def owner (a : Aim) : Owner := ⟨a.key.name, a.key.ns, a.uid⟩

/-- Whether a memory store is declared. -/
def wantsMemory (a : Aim) : Bool := ({ spec := a.spec } : Instance).wantsMemory

/-- The manifest of the child that is wanted under a key. -/
def wanted (a : Aim) : (c : Child) → Key → Option c.Object
  | .deployment, k =>
    if k.ns = a.key.ns then
      (a.spec.channels.find? fun d => Naming.workload a.key.name d.channel = k.name).map
        fun d => a.owner.workload d a.adapters
    else none
  | .volumeClaim, k =>
    if k.ns = a.key.ns then
      (a.spec.channels.find? fun d =>
        d.channel.keepsSession ∧ Naming.sessionStore a.key.name d.channel = k.name).map
          fun d => a.owner.sessionStore d a.adapters
    else none
  | .configMap, k =>
    if k = ⟨a.key.ns, Naming.memoryStore a.key.name⟩ ∧ a.wantsMemory then some a.owner.memoryStore
    else none

/-- An Instance has this aim. -/
structure Declares (a : Aim) (i : Instance) : Prop where
  name : i.name = a.key.name
  uid : i.metadata.uid = some a.uid
  spec : i.spec = a.spec
  alive : i.isDeleting = false

variable {a : Aim} {c : Child} {k : Key} {s : Store}

/-- Where the workload for a declaration belongs. -/
def workloadKey (a : Aim) (d : Channel.Declaration) : Key :=
  ⟨a.key.ns, Naming.workload a.key.name d.channel⟩

/-- Where the session store for a declaration belongs. -/
def sessionKey (a : Aim) (d : Channel.Declaration) : Key :=
  ⟨a.key.ns, Naming.sessionStore a.key.name d.channel⟩

/-- Where the memory store belongs. -/
def memoryKey (a : Aim) : Key := ⟨a.key.ns, Naming.memoryStore a.key.name⟩

/-- What a child is asked for by. -/
inductive AskedFor (a : Aim) : (c : Child) → Key → c.Object → Prop where
  | workload (d : Channel.Declaration) (hd : d ∈ a.spec.channels) :
      AskedFor a .deployment (a.workloadKey d) (a.owner.workload d a.adapters)
  | session (d : Channel.Declaration) (hd : d ∈ a.spec.channels)
      (hkeeps : d.channel.keepsSession = true) :
      AskedFor a .volumeClaim (a.sessionKey d) (a.owner.sessionStore d a.adapters)
  | memory (hwants : a.wantsMemory = true) :
      AskedFor a .configMap a.memoryKey a.owner.memoryStore

/-- A wanted child is asked for by a declaration, or it is the memory store. -/
theorem askedFor_of_wanted {o : c.Object} (h : a.wanted c k = some o) : a.AskedFor c k o := by
  obtain ⟨ns, name⟩ := k
  cases c with
  | deployment =>
    simp only [wanted] at h
    split at h
    · next hns =>
      obtain ⟨d, hd, rfl⟩ := Option.map_eq_some_iff.1 h
      cases hns
      have hname := List.find?_some hd
      simp only [decide_eq_true_eq] at hname
      subst hname
      exact .workload d (List.mem_of_find?_eq_some hd)
    · cases h
  | volumeClaim =>
    simp only [wanted] at h
    split at h
    · next hns =>
      obtain ⟨d, hd, rfl⟩ := Option.map_eq_some_iff.1 h
      cases hns
      have hfound := List.find?_some hd
      simp only [decide_eq_true_eq] at hfound
      obtain ⟨hkeeps, rfl⟩ := hfound
      exact .session d (List.mem_of_find?_eq_some hd) hkeeps
    · cases h
  | configMap =>
    simp only [wanted] at h
    split at h
    · next hk =>
      obtain ⟨hkey, hwants⟩ := hk
      cases hkey
      cases h
      exact .memory hwants
    · cases h

/-- A wanted child belongs where it is wanted. -/
theorem wanted_place {o : c.Object} (h : a.wanted c k = some o) :
    (Resource.metadata o).ns = some k.ns ∧ c.kind.nameOf o = k.name := by
  cases askedFor_of_wanted h with
  | workload d hd => exact ⟨rfl, rfl⟩
  | session d hd hkeeps => exact ⟨rfl, rfl⟩
  | memory hwants => exact ⟨rfl, rfl⟩

theorem name_ne_empty {o : c.Object} (h : a.wanted c k = some o) : c.kind.nameOf o ≠ "" := by
  rw [(wanted_place h).2]
  cases askedFor_of_wanted h with
  | workload d hd => exact (Role.workload d.channel).nameFor_ne_empty a.key.name
  | session d hd hkeeps => exact (Role.sessionStore d.channel).nameFor_ne_empty a.key.name
  | memory hwants => exact Role.memoryStore.nameFor_ne_empty a.key.name

/-! ## Declarations in turn -/

/-- The children that a declaration asks for are there. -/
structure Served (a : Aim) (s : Store) (d : Channel.Declaration) : Prop where
  workload : (s.find? .deployment (a.workloadKey d)).isSome = true
  session : d.channel.keepsSession = true → (s.find? .volumeClaim (a.sessionKey d)).isSome = true

variable {served later : List Channel.Declaration} {d : Channel.Declaration}

/-- The first declaration that asks for a workload says what it is like. -/
theorem wanted_workload_of_first (hchannels : a.spec.channels = served ++ d :: later)
    (hfirst : ∀ d' ∈ served, a.workloadKey d' ≠ a.workloadKey d) :
    a.wanted .deployment (a.workloadKey d) = some (a.owner.workload d a.adapters) := by
  have hbefore : served.find? (fun d' => Naming.workload a.key.name d'.channel =
      (a.workloadKey d).name) = none := by
    refine List.find?_eq_none.2 fun d' hd' hname => hfirst d' hd' ?_
    exact congrArg (Key.mk a.key.ns) (of_decide_eq_true hname)
  have hthis : decide (Naming.workload a.key.name d.channel = (a.workloadKey d).name) = true :=
    decide_eq_true rfl
  have hns : (a.workloadKey d).ns = a.key.ns := rfl
  rw [wanted, if_pos hns, hchannels, List.find?_append, hbefore, Option.none_or]
  simp only [List.find?_cons, hthis, Option.map_some]

theorem wanted_session_of_first (hchannels : a.spec.channels = served ++ d :: later)
    (hfirst : ∀ d' ∈ served, d'.channel.keepsSession = true → a.sessionKey d' ≠ a.sessionKey d)
    (hkeeps : d.channel.keepsSession = true) :
    a.wanted .volumeClaim (a.sessionKey d) = some (a.owner.sessionStore d a.adapters) := by
  have hbefore : served.find? (fun d' => d'.channel.keepsSession ∧
      Naming.sessionStore a.key.name d'.channel = (a.sessionKey d).name) = none := by
    refine List.find?_eq_none.2 fun d' hd' hname => ?_
    obtain ⟨hkeeps', hname'⟩ := of_decide_eq_true hname
    exact hfirst d' hd' hkeeps' (congrArg (Key.mk a.key.ns) hname')
  have hthis : decide (d.channel.keepsSession = true ∧
      Naming.sessionStore a.key.name d.channel = (a.sessionKey d).name) = true :=
    decide_eq_true ⟨hkeeps, rfl⟩
  have hns : (a.sessionKey d).ns = a.key.ns := rfl
  rw [wanted, if_pos hns, hchannels, List.find?_append, hbefore, Option.none_or]
  simp only [List.find?_cons, hthis, Option.map_some]

theorem wanted_memory (hwants : a.wantsMemory = true) :
    a.wanted .configMap a.memoryKey = some a.owner.memoryStore := by
  rw [wanted, if_pos ⟨rfl, hwants⟩]

/-- If the declarations before have their workloads, and the workload for this one is
missing, then none of them has asked for it. -/
theorem wanted_workload (hchannels : a.spec.channels = served ++ d :: later)
    (hserved : ∀ d' ∈ served, a.Served s d')
    (hmissing : s.find? .deployment (a.workloadKey d) = none) :
    a.wanted .deployment (a.workloadKey d) = some (a.owner.workload d a.adapters) := by
  refine wanted_workload_of_first hchannels fun d' hd' hkey => ?_
  have hthere := (hserved d' hd').workload
  rw [hkey, hmissing] at hthere
  cases hthere

theorem wanted_session (hchannels : a.spec.channels = served ++ d :: later)
    (hserved : ∀ d' ∈ served, a.Served s d') (hkeeps : d.channel.keepsSession = true)
    (hmissing : s.find? .volumeClaim (a.sessionKey d) = none) :
    a.wanted .volumeClaim (a.sessionKey d) = some (a.owner.sessionStore d a.adapters) := by
  refine wanted_session_of_first hchannels (fun d' hd' hkeeps' hkey => ?_) hkeeps
  have hthere := (hserved d' hd').session hkeeps'
  rw [hkey, hmissing] at hthere
  cases hthere

/-- Every child that is wanted is there. -/
def Complete (a : Aim) (s : Store) : Prop :=
  ∀ (c : Child) (k : Key) (o : c.Object), a.wanted c k = some o → (s.find? c.kind k).isSome = true

/-- Nothing is wanted but what the declarations ask for, and the memory store. -/
theorem complete_of_served (hserved : ∀ d ∈ a.spec.channels, a.Served s d)
    (hmemory : a.wantsMemory = true → (s.find? .configMap a.memoryKey).isSome = true) :
    a.Complete s := by
  intro c k o h
  cases askedFor_of_wanted h with
  | workload d hd => exact (hserved d hd).workload
  | session d hd hkeeps => exact (hserved d hd).session hkeeps
  | memory hwants => exact hmemory hwants

/-- What a declaration asks for is wanted, if not by it then by an earlier one. -/
theorem served_of_complete (h : a.Complete s) (hd : d ∈ a.spec.channels) : a.Served s d where
  workload := by
    have hfirst : (a.spec.channels.find? fun d' =>
        Naming.workload a.key.name d'.channel = (a.workloadKey d).name).isSome = true :=
      List.find?_isSome.2 ⟨d, hd, decide_eq_true rfl⟩
    obtain ⟨first, hfirst⟩ := Option.isSome_iff_exists.1 hfirst
    have hns : (a.workloadKey d).ns = a.key.ns := rfl
    refine h .deployment (a.workloadKey d) (a.owner.workload first a.adapters) ?_
    rw [wanted, if_pos hns, hfirst]
    rfl
  session hkeeps := by
    have hfirst : (a.spec.channels.find? fun d' => d'.channel.keepsSession ∧
        Naming.sessionStore a.key.name d'.channel = (a.sessionKey d).name).isSome = true :=
      List.find?_isSome.2 ⟨d, hd, decide_eq_true ⟨hkeeps, rfl⟩⟩
    obtain ⟨first, hfirst⟩ := Option.isSome_iff_exists.1 hfirst
    have hns : (a.sessionKey d).ns = a.key.ns := rfl
    refine h .volumeClaim (a.sessionKey d) (a.owner.sessionStore first a.adapters) ?_
    rw [wanted, if_pos hns, hfirst]
    rfl

/-! ## The goal -/

/-- The children that are there, and those that are wanted and missing. -/
def completed (a : Aim) (s : Store) (c : Child) (k : Key) :
    Option c.Object :=
  ((s.find? c.kind k).map (bare c.kind)).or ((a.wanted c k).map (bare c.kind))

/-- A store with all wanted children is completed by itself. -/
theorem Complete.completed_eq (h : a.Complete s) :
    a.completed s c k = (s.find? c.kind k).map (bare c.kind) := by
  rw [completed]
  cases hfind : s.find? c.kind k with
  | some o => rfl
  | none =>
    cases hwanted : a.wanted c k with
    | none => rfl
    | some o =>
      have hthere := h c k o hwanted
      rw [hfind] at hthere
      cases hthere

/-- What a pass may ask of a store: it creates what is wanted, and deletes nothing. -/
def Grants (a : Aim) : Request → Prop
  | .create c ns o => a.wanted c ⟨ns, c.kind.nameOf o⟩ = some o
  | .delete _ _ => False
  | _ => True

/-- The Instance is there with its aim, and the children are on the way to a goal. -/
structure Pursued (a : Aim) (goal : (c : Child) → Key → Option c.Object)
    (s : Store) : Prop where
  filed : s.Filed
  declared : ∃ i, s.find? .inst a.key = some i ∧ a.Declares i
  completed : ∀ c k, a.completed s c k = goal c k

/-! ## Requests -/

theorem completed_congr {s' : Store} (h : s'.find? c.kind k = s.find? c.kind k) :
    a.completed s' c k = a.completed s c k := by
  rw [completed, h, completed]

/-- A wanted child that was missing is one that was counted in. -/
theorem completed_insert {ns : String} {o : c.Object} {c' : Child}
    (hwanted : a.wanted c ⟨ns, c.kind.nameOf o⟩ = some o)
    (hmissing : s.find? c.kind ⟨ns, c.kind.nameOf o⟩ = none) :
    a.completed (s.insert c.kind ns o).2 c' k = a.completed s c' k := by
  by_cases hc : c = c'
  · subst hc
    by_cases hk : ⟨ns, c.kind.nameOf o⟩ = k
    · subst hk
      have hbare : bare c.kind (s.insert c.kind ns o).1 = bare c.kind o :=
        bare_insert (wanted_place hwanted).1
      rw [completed, completed, find?_insert, if_pos rfl, hmissing, hwanted]
      exact congrArg some hbare
    · refine completed_congr ?_
      rw [find?_insert, if_neg hk]
  · exact completed_congr (find?_insert_of_kind (Child.kind_ne_kind hc))

/-- A child that is there is not the one that was missing. -/
theorem find?_insert_of_found {ns : String} {o : c.Object}
    (hmissing : s.find? c.kind ⟨ns, c.kind.nameOf o⟩ = none) {c' : Child} {o' : c'.Object}
    (h : s.find? c'.kind k = some o') :
    (s.insert c.kind ns o).2.find? c'.kind k = some o' := by
  by_cases hc : c = c'
  · subst hc
    rw [find?_insert, if_neg]
    · exact h
    · rintro rfl
      cases hmissing.symm.trans h
  · rw [find?_insert_of_kind (Child.kind_ne_kind hc)]
    exact h

/-- What a request that a pass may ask makes of the children: nothing, or it files one
that is wanted and missing. -/
theorem answer_cases {r : Request} (hr : a.Grants r) :
    (∀ (c : Child) (k : Key), (s.answer r).2.find? c.kind k = s.find? c.kind k) ∨
      ∃ (c : Child) (ns : String) (o : c.Object), a.wanted c ⟨ns, c.kind.nameOf o⟩ = some o ∧
        s.find? c.kind ⟨ns, c.kind.nameOf o⟩ = none ∧
        ∀ (c' : Child) (k : Key),
          (s.answer r).2.find? c'.kind k = (s.insert c.kind ns o).2.find? c'.kind k := by
  cases r with
  | getInstance => exact .inl fun _ _ => rfl
  | get => exact .inl fun _ _ => rfl
  | list => exact .inl fun _ _ => rfl
  | listRuns => exact .inl fun _ _ => rfl
  | delete => cases hr
  | create c ns o =>
    simp only [answer]
    split
    · exact .inl fun _ _ => rfl
    · split
      · exact .inl fun _ _ => rfl
      · next hfresh =>
        refine .inr ⟨c, ns, o, hr, Option.not_isSome_iff_eq_none.1 hfresh, fun c' k => ?_⟩
        exact find?_record ..
  | patchFinalizers | patchStatus =>
    exact .inl fun c k => find?_answer_of_kind fun h => c.kind_ne_inst h.symm

theorem completed_answer {r : Request} (hr : a.Grants r) :
    a.completed (s.answer r).2 c k = a.completed s c k := by
  rcases answer_cases (s := s) hr with hsame | ⟨c', ns, o, hwanted, hmissing, hfiled⟩
  · exact completed_congr (hsame c k)
  · exact (completed_congr (hfiled c k)).trans (completed_insert hwanted hmissing)

/-- A child that is there is left alone. -/
theorem kept_answer {r : Request} (hr : a.Grants r) {o : c.Object}
    (h : s.find? c.kind k = some o) : (s.answer r).2.find? c.kind k = some o := by
  rcases answer_cases (s := s) hr with hsame | ⟨c', ns, o', _, hmissing, hfiled⟩
  · exact (hsame c k).trans h
  · exact (hfiled c k).trans (find?_insert_of_found hmissing h)

theorem Handled.declares {r : Request} {key : Key} {i : Instance} {after : Option Instance}
    (h : Handled r key (some i) after) (hi : a.Declares i) : ∃ i', after = some i' ∧ a.Declares i' := by
  cases h with
  | kept => exact ⟨i, rfl, hi⟩
  | vanished version j hr hj hdeleting =>
    cases hj
    rw [hi.alive] at hdeleting
    cases hdeleting
  | finalizers version given finalizers j hr hj =>
    cases hj
    exact ⟨_, rfl, hi.name, hi.uid, hi.spec, hi.alive⟩
  | status version given patch status j hr hj =>
    cases hj
    exact ⟨_, rfl, hi.name, hi.uid, hi.spec, hi.alive⟩

theorem Pursued.faults {goal : (c : Child) → Key → Option c.Object}
    (h : a.Pursued goal s) (faults : List Fault) :
    a.Pursued goal { s with faults } := by
  obtain ⟨i, hi, hdeclares⟩ := h.declared
  refine ⟨h.filed.faults faults, ⟨i, (find?_faults faults).trans hi, hdeclares⟩, fun c k => ?_⟩
  rw [completed_congr (find?_faults faults)]
  exact h.completed c k

/-- What a pass asks leaves the aim and the way to the goal. -/
theorem Pursued.serve {goal : (c : Child) → Key → Option c.Object}
    (h : a.Pursued goal s) {r : Request} (hr : a.Grants r) :
    a.Pursued goal (s.serve r).2 := by
  obtain ⟨i, hi, hdeclares⟩ := h.declared
  have handled := handled_serve s r a.key
  rw [hi] at handled
  refine ⟨h.filed.serve r, Handled.declares handled hdeclares, fun c k => ?_⟩
  rw [← h.completed c k]
  rcases serve_cases s r with ⟨e, faults, hserve⟩ | hserve
  · rw [hserve]
    exact completed_congr (find?_faults faults)
  · rw [hserve]
    exact completed_answer hr

end Aim

namespace Store

variable {a : Aim} {s s' s'' : Store}

/-- The children of a store are still there in a later one. -/
def Grows (s s' : Store) : Prop :=
  ∀ (c : Child) (k : Key) (o : c.Object), s.find? c.kind k = some o → s'.find? c.kind k = some o

theorem Grows.refl (s : Store) : s.Grows s := fun _ _ _ h => h

theorem Grows.trans (h : s.Grows s') (h' : s'.Grows s'') : s.Grows s'' :=
  fun c k o ho => h' c k o (h c k o ho)

theorem Grows.isSome (h : s.Grows s') {c : Child} {k : Key}
    (hk : (s.find? c.kind k).isSome = true) : (s'.find? c.kind k).isSome = true := by
  obtain ⟨o, ho⟩ := Option.isSome_iff_exists.1 hk
  exact Option.isSome_iff_exists.2 ⟨o, h c k o ho⟩

theorem Grows.eq_none (h : s.Grows s') {c : Child} {k : Key} (hk : s'.find? c.kind k = none) :
    s.find? c.kind k = none := by
  cases hs : s.find? c.kind k with
  | none => rfl
  | some o => exact absurd (hk.symm.trans (h c k o hs)) (by simp)

theorem grows_serve {r : Request} (hr : a.Grants r) : s.Grows (s.serve r).2 := by
  intro c k o ho
  rcases serve_cases s r with ⟨e, faults, hserve⟩ | hserve
  · rw [hserve, find?_faults]
    exact ho
  · rw [hserve]
    exact Aim.kept_answer hr ho

end Store

theorem Aim.Served.mono {a : Aim} {s s' : Store} {d : Channel.Declaration} (h : a.Served s d)
    (hg : s.Grows s') : a.Served s' d :=
  ⟨hg.isSome (c := .deployment) h.workload, fun hk => hg.isSome (c := .volumeClaim) (h.session hk)⟩

theorem Aim.Complete.mono {a : Aim} {s s' : Store} (h : a.Complete s) (hg : s.Grows s') :
    a.Complete s' :=
  fun c k o ho => hg.isSome (h c k o ho)

end WorkloadOperator
