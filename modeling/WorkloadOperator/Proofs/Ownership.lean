import WorkloadOperator.Proofs.Endings
import WorkloadOperator.Proofs.Selecting

/-!
# Whose children are whose

A child belongs to the Instance from whose name its own name was made.  Names tell for
whom and in which role they were made, so no key is that of a child of two Instances, or
of two kinds of children (`Child.Belongs.apart`).

A store is tidy if every child in it belongs to the Instance that its labels name, and
if every workload mounts session stores of its own Instance only.  It stays tidy as
long as nobody creates other children.
-/

namespace WorkloadOperator

open Naming Store

/-- The kind of the child in a role. -/
def Role.child : Role → Child
  | .workload _ => .deployment
  | .sessionStore _ => .volumeClaim
  | .memoryStore => .configMap

namespace Child

/-- Whether a key is made from the key of an Instance for a child of it. -/
def Belongs (owner k : Key) : Child → Prop
  | .deployment => k.ns = owner.ns ∧ ∃ channel, k.name = workload owner.name channel
  | .volumeClaim => k.ns = owner.ns ∧ ∃ channel, k.name = sessionStore owner.name channel
  | .configMap => k.ns = owner.ns ∧ k.name = memoryStore owner.name

variable {c c' : Child} {owner owner' k : Key}

theorem Belongs.ns (h : c.Belongs owner k) : k.ns = owner.ns := by
  cases c <;> exact h.1

theorem Belongs.role (h : c.Belongs owner k) :
    ∃ r : Role, r.child = c ∧ k.name = r.nameFor owner.name := by
  cases c with
  | deployment =>
    obtain ⟨_, channel, hname⟩ := h
    exact ⟨.workload channel, rfl, hname⟩
  | volumeClaim =>
    obtain ⟨_, channel, hname⟩ := h
    exact ⟨.sessionStore channel, rfl, hname⟩
  | configMap => exact ⟨.memoryStore, rfl, h.2⟩

/-- A key is that of a child of one Instance, and of one kind of children. -/
theorem Belongs.apart (h : c.Belongs owner k) (h' : c'.Belongs owner' k) :
    owner = owner' ∧ c = c' := by
  obtain ⟨r, rfl, hname⟩ := h.role
  obtain ⟨r', rfl, hname'⟩ := h'.role
  have hns : owner.ns = owner'.ns := h.ns.symm.trans h'.ns
  obtain ⟨hsame, rfl⟩ := (Role.nameFor_eq_iff _ _ r r').1 (hname.symm.trans hname')
  exact ⟨Key.ext hns hsame, rfl⟩

/-- A child belongs to one Instance. -/
theorem Belongs.unique (h : c.Belongs owner k) (h' : c.Belongs owner' k) : owner = owner' :=
  (h.apart h').1

theorem Belongs.name_ne_empty (h : c.Belongs owner k) : k.name ≠ "" := by
  obtain ⟨r, _, hname⟩ := h.role
  rw [hname]
  exact r.nameFor_ne_empty owner.name

/-- The names of the claims that a child mounts. -/
def mounts : (c : Child) → c.Object → List String
  | .deployment, d => d.claims
  | .volumeClaim, _ | .configMap, _ => []

/-- What a child of an Instance is like. -/
structure Proper (c : Child) (owner k : Key) (o : c.Object) : Prop where
  place : c.Belongs owner k
  /-- Its labels name the Instance. -/
  labelled : (Resource.metadata o).label? instanceKey = some owner.name
  /-- What serves a channel is labelled for it. -/
  serves : c ≠ .configMap → (Resource.metadata o).label? componentKey = some channelComponent
  mounts : ∀ claim ∈ c.mounts o, ∃ channel, claim = sessionStore owner.name channel

/-- Two children that carry the same labels and mount the same claims. -/
structure Resembles (c : Child) (o o' : c.Object) : Prop where
  labels : (Resource.metadata o).labels = (Resource.metadata o').labels
  mounts : c.mounts o = c.mounts o'

theorem Resembles.refl (o : c.Object) : c.Resembles o o := ⟨rfl, rfl⟩

theorem Proper.congr {o o' : c.Object} (h : c.Proper owner k o) (hr : c.Resembles o' o) :
    c.Proper owner k o' where
  place := h.place
  labelled := by
    rw [Metadata.label?, hr.labels]
    exact h.labelled
  serves := by
    intro hc
    rw [Metadata.label?, hr.labels]
    exact h.serves hc
  mounts := by
    rw [hr.mounts]
    exact h.mounts

/-- A child is labelled for nobody but the Instance that it belongs to. -/
theorem Proper.owner_eq {o : c.Object} (h : c.Proper owner k o) {key : Key} (hns : k.ns = key.ns)
    (hname : (Resource.metadata o).label? instanceKey = some key.name) : owner = key := by
  have hsame : owner.name = key.name := Option.some.inj (h.labelled.symm.trans hname)
  have hns' : owner.ns = key.ns := h.place.ns.symm.trans hns
  exact Key.ext hns' hsame

/-- What a store adds to a child makes no difference. -/
theorem resembles_stamped (ns version : String) (o : c.Object) :
    c.Resembles (Resource.withMetadata o (stamped ns version (Resource.metadata o))) o := by
  cases c <;> exact ⟨rfl, rfl⟩

end Child

/-! ## Manifests -/

namespace Owner

variable {o : Owner} {d : Channel.Declaration} {adapters : Config.Adapters}

/-- The key of the Instance. -/
def key (o : Owner) : Key := ⟨o.ns, o.name⟩

theorem label?_component (o : Owner) (name : String) (c : Channel) :
    (o.child name (channelLabels o.name c)).label? componentKey = some channelComponent := by
  simp [child, Metadata.label?, channelLabels, Dict.ofList, Dict.get?_insert, componentKey,
    channelKey, instanceKey]

/-- The workload of a channel mounts the session store of the channel, if that keeps one. -/
theorem mem_claims_workload {claim : String} (h : claim ∈ (o.workload d adapters).claims) :
    d.channel.keepsSession = true ∧ claim = Naming.sessionStore o.name d.channel := by
  by_cases hkeeps : d.channel.keepsSession = true
  · simp only [Deployment.claims, workload, pod, hkeeps, ↓reduceIte, Option.bind_some,
      Option.getD_some, List.filterMap_cons, Option.map_some, List.filterMap_nil,
      List.mem_singleton] at h
    exact ⟨hkeeps, h⟩
  · simp [Deployment.claims, workload, pod, hkeeps] at h

theorem proper_workload : Child.deployment.Proper o.key ⟨o.ns, Naming.workload o.name d.channel⟩
    (o.workload d adapters) where
  place := ⟨rfl, d.channel, rfl⟩
  labelled := label?_channelLabels o _ d.channel
  serves := fun _ => label?_component o _ d.channel
  mounts := fun _ h => ⟨d.channel, (mem_claims_workload h).2⟩

theorem proper_sessionStore : Child.volumeClaim.Proper o.key
    ⟨o.ns, Naming.sessionStore o.name d.channel⟩ (o.sessionStore d adapters) where
  place := ⟨rfl, d.channel, rfl⟩
  labelled := label?_channelLabels o _ d.channel
  serves := fun _ => label?_component o _ d.channel
  mounts := fun _ h => nomatch h

theorem proper_memoryStore : Child.configMap.Proper o.key ⟨o.ns, Naming.memoryStore o.name⟩
    o.memoryStore where
  place := ⟨rfl, rfl⟩
  labelled := by
    simp [Resource.metadata, memoryStore, child, Metadata.label?, memoryLabels, Dict.ofList,
      Dict.get?_insert, key]
  serves := fun h => absurd rfl h
  mounts := fun _ h => nomatch h

end Owner

/-! ## Tidy stores -/

/-- Whether an operation files a child. -/
def Operation.Rears : Operation → Prop
  | .insertDeployment _ _ | .request (.create _ _ _) => True
  | .insertInstance _ | .insertRun _ _ | .touch _ | .requestDeletion _ | .setReady _ _ | .setData _ _
  | .setPhase _ _ | .fail _ _ _ | .failTimes _ _ _ _ | .clearFaults | .request (.getInstance _)
  | .request (.get _ _) | .request (.list _ _ _) | .request (.delete _ _) | .request (.listRuns _ _)
  | .request (.patchFinalizers _ _ _) | .request (.patchStatus _ _ _) => False

instance : (o : Operation) → Decidable o.Rears
  | .insertDeployment _ _ | .request (.create _ _ _) => isTrue trivial
  | .insertInstance _ | .insertRun _ _ | .touch _ | .requestDeletion _ | .setReady _ _ | .setData _ _
  | .setPhase _ _ | .fail _ _ _ | .failTimes _ _ _ _ | .clearFaults | .request (.getInstance _)
  | .request (.get _ _) | .request (.list _ _ _) | .request (.delete _ _) | .request (.listRuns _ _)
  | .request (.patchFinalizers _ _ _) | .request (.patchStatus _ _ _) => isFalse id

/-- A child that a request creates belongs to the Instance that it is labelled for. -/
def Request.IsProper : Request → Prop
  | .create c ns o => ∃ owner, c.Proper owner ⟨ns, c.kind.nameOf o⟩ o
  | .getInstance _ | .get _ _ | .list _ _ _ | .delete _ _ | .listRuns _ _ | .patchFinalizers _ _ _
  | .patchStatus _ _ _ => True

namespace Store

variable {s s' : Store}

/-- Every child belongs to the Instance that it is labelled for. -/
def Tidy (s : Store) : Prop :=
  ∀ (c : Child) (k : Key) (o : c.Object), s.find? c.kind k = some o → ∃ owner, c.Proper owner k o

/-- A child that is labelled for an Instance belongs to it. -/
theorem Tidy.belongs (h : s.Tidy) {c : Child} {key k : Key} {o : c.Object}
    (ho : s.find? c.kind k = some o) (hns : k.ns = key.ns)
    (hlabel : (Resource.metadata o).label? instanceKey = some key.name) : c.Belongs key k := by
  obtain ⟨owner, hproper⟩ := h c k o ho
  rw [← hproper.owner_eq hns hlabel]
  exact hproper.place

theorem tidy_empty : empty.Tidy := by
  intro c k o h
  rw [find?_empty] at h
  cases h

/-- An operation that files no child leaves nothing but what resembles a child that was
there. -/
theorem resembles_perform {o : Operation} (ho : ¬ o.Rears) {c : Child} {k : Key} {x : c.Object}
    (hx : (s.perform o).find? c.kind k = some x) :
    ∃ x₀, s.find? c.kind k = some x₀ ∧ c.Resembles x x₀ := by
  by_cases hkind : o.kind? = some c.kind
  · cases o with
    | setReady key replicas =>
      cases c with
      | deployment =>
        simp only [perform, setReady] at hx
        split at hx
        · exact ⟨x, hx, .refl x⟩
        · next d hd =>
          rw [find?_put] at hx
          split at hx
          · next hk =>
            subst hk
            cases hx
            exact ⟨d, hd, rfl, rfl⟩
          · exact ⟨x, hx, .refl x⟩
      | volumeClaim => cases hkind
      | configMap => cases hkind
    | setData key data =>
      cases c with
      | configMap =>
        simp only [perform, setData, find?_bump] at hx
        split at hx
        · rw [find?_bump] at hx
          exact ⟨x, hx, .refl x⟩
        · next m hm =>
          rw [find?_put] at hx
          split at hx
          · next hk =>
            subst hk
            cases hx
            exact ⟨m, hm, rfl, rfl⟩
          · rw [find?_bump] at hx
            exact ⟨x, hx, .refl x⟩
      | deployment => cases hkind
      | volumeClaim => cases hkind
    | request r =>
      rcases found_serve hx with hkept | ⟨_, o, rfl, _⟩
      · exact ⟨x, hkept, .refl x⟩
      · exact absurd trivial ho
    | insertDeployment => exact absurd trivial ho
    | insertInstance | touch | requestDeletion =>
      exact absurd (Option.some.inj hkind).symm c.kind_ne_inst
    | insertRun | setPhase => cases c <;> cases hkind
    | fail | failTimes | clearFaults => cases hkind
  · rw [find?_perform_of_kind hkind] at hx
    exact ⟨x, hx, .refl x⟩

/-- Others keep a store tidy if they file no children. -/
theorem Tidy.perform (h : s.Tidy) {o : Operation} (ho : ¬ o.Rears) : (s.perform o).Tidy := by
  intro c k x hx
  obtain ⟨x₀, hx₀, hresembles⟩ := resembles_perform ho hx
  obtain ⟨owner, hproper⟩ := h c k x₀ hx₀
  exact ⟨owner, hproper.congr hresembles⟩

/-- A request keeps a store tidy if it creates proper children only. -/
theorem Tidy.serve (h : s.Tidy) {r : Request} (hr : r.IsProper) : (s.serve r).2.Tidy := by
  intro c k x hx
  rcases found_serve hx with hkept | ⟨version, o, rfl, hname, _, rfl⟩
  · exact h c k x hkept
  · obtain ⟨owner, hproper⟩ := hr
    rw [hname] at hproper
    exact ⟨owner, hproper.congr (Child.resembles_stamped _ _ o)⟩

end Store

end WorkloadOperator
