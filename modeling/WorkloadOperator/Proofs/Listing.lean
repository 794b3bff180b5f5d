import WorkloadOperator.Proofs.Cancellation
import WorkloadOperator.Proofs.Ownership

/-!
# Selectors list the children of one Instance

A list holds the objects of a namespace that meet the requirements of a selector, each of them once
and in the order of their keys (`Lists`).  The selector is read as it was written if the name of the
Instance is plain, so what is listed are the objects whose labels name the Instance.  An equals sign
in the name does no harm, because a part is split at its first one.

The labels of a workload and of a session store name their owner, so the selector of an Instance
selects its own and no others (`selects_channelChild`).  The label of a memory store says that it
is for another purpose, and no such selector selects it (`not_selects_memoryStore`).
-/

namespace WorkloadOperator

open Naming Selector

/-- Whether a selector selects an object with this metadata. -/
def Selector.Selects (selector : String) (m : Metadata) : Prop := admits (read selector) m = true

instance (selector : String) (m : Metadata) : Decidable (Selects selector m) :=
  inferInstanceAs (Decidable (_ = true))

/-! ## Manifests -/

namespace Owner

variable {n : String}

/-- The labels of what serves a channel name its owner and nobody else. -/
theorem serves_child (o : Owner) (name : String) (channel : Channel) :
    Serves n (o.child name (channelLabels o.name channel)) ↔ n = o.name := by
  rw [Serves, label?_component, label?_channelLabels]
  exact ⟨fun h => (Option.some.inj h.2).symm, fun h => ⟨rfl, congrArg some h.symm⟩⟩

theorem selects_channelChild (h : Plain n) (o : Owner) (name : String) (channel : Channel) :
    Selects (componentSelector n channelComponent)
      (o.child name (channelLabels o.name channel)) ↔ n = o.name := by
  rw [Selects, admits_componentSelector h, serves_child]

theorem label?_memoryStore (o : Owner) :
    o.memoryStore.metadata.label? componentKey = some memoryComponent := by
  simp [memoryStore, child, Metadata.label?, memoryLabels, Dict.ofList, Dict.get?_insert,
    componentKey, instanceKey]

/-- Whatever stands in the place of the name, the component is asked for. -/
theorem not_selects_memoryStore (o : Owner) (n : String) :
    ¬ Selects (componentSelector n channelComponent) o.memoryStore.metadata := by
  have hcomponent : read (equals componentKey channelComponent) =
      [(componentKey, channelComponent)] :=
    read_equals (by decide) (by decide) (by decide)
  have hread : read (componentSelector n channelComponent) =
      (componentKey, channelComponent) :: read (equals instanceKey n) := by
    rw [componentSelector, read_both (by decide), hcomponent]
    rfl
  intro hselects
  rw [Selects, hread, admits, List.all_cons, Bool.and_eq_true, decide_eq_true_eq,
    label?_memoryStore] at hselects
  exact absurd hselects.1 (by decide)

end Owner

/-! ## Lists -/

namespace Store

variable {s : Store} {κ : Kind} {ns : String}

/-- The objects of a namespace whose metadata is as described, each once and in the order of their
keys. -/
def Lists (s : Store) (κ : Kind) (ns : String) (described : Metadata → Prop)
    (os : List κ.Object) : Prop :=
  ∃ entries : List (Key × κ.Object), entries.Pairwise (fun e e' => e.1 < e'.1) ∧
    (∀ key o, (key, o) ∈ entries ↔
      key.ns = ns ∧ s.find? κ key = some o ∧ described (Resource.metadata o)) ∧
    os = entries.map Prod.snd

theorem lists_select (s : Store) (κ : Kind) (ns selector : String) {described : Metadata → Prop}
    (h : ∀ m, Selects selector m ↔ described m) :
    s.Lists κ ns described (s.select κ ns selector) := by
  refine ⟨_, (s.table κ).ascending.filter _, fun key o => ?_, rfl⟩
  rw [List.mem_filter, Dict.mem_entries_iff, decide_eq_true_eq, ← h]
  constructor
  · rintro ⟨hfind, hns, hselects⟩
    exact ⟨hns, hfind, hselects⟩
  · rintro ⟨hns, hfind, hselects⟩
    exact ⟨hfind, hns, hselects⟩

/-- The selectors of an Instance select its own children and Runs.  In every state of a store and
in every namespace, unless a fault strikes, the objects are listed whose labels name the Instance
and a channel as what they are for, and the Runs whose label names the Instance.  Of the workloads
and session stores that are made for an owner those are selected that are made for this Instance,
and no memory store is selected by the name of any Instance. -/
theorem selects_own_children {n : String} (h : Plain n) :
    (∀ (s : Store) (ns : String),
      (∀ c : Child, ¬ s.Faulty .list c.kind →
        ∃ os, s.serve (.list c ns (componentSelector n channelComponent)) = (.ok os, s) ∧
          s.Lists c.kind ns (Serves n) os) ∧
      (¬ s.Faulty .list .run →
        ∃ rs, s.serve (.listRuns ns (instanceSelector n)) = (.ok rs, s) ∧
          s.Lists .run ns (fun m => m.label? instanceKey = some n) rs)) ∧
    ∀ (o : Owner) (d : Channel.Declaration) (adapters : Config.Adapters),
      (Selects (componentSelector n channelComponent) (o.workload d adapters).metadata ↔
        n = o.name) ∧
      (Selects (componentSelector n channelComponent) (o.sessionStore d adapters).metadata ↔
        n = o.name) ∧
      ∀ m, ¬ Selects (componentSelector m channelComponent) o.memoryStore.metadata := by
  constructor
  · intro s ns
    constructor
    · intro c hcalm
      exact ⟨_, serve_of_not_faulty hcalm, lists_select s c.kind ns _ (admits_componentSelector h)⟩
    · intro hcalm
      exact ⟨_, serve_of_not_faulty hcalm, lists_select s .run ns _ (admits_instanceSelector h)⟩
  · intro o d adapters
    exact ⟨o.selects_channelChild h _ _, o.selects_channelChild h _ _, o.not_selects_memoryStore⟩

/-- The children of an Instance with an equals sign in its name are told from those of the Instance
that is named like what stands before it. -/
theorem selects_own_children_of_sign :
    let n := "bot=2"
    let s := empty.run [
      .insertDeployment "tenant" ((Owner.mk n "tenant" "a").workload { channel := .telegram } {}),
      .insertDeployment "tenant" ((Owner.mk "bot" "tenant" "b").workload { channel := .slack } {})]
    Plain n ∧ ¬ s.Faulty .list .deployment ∧
      (∃ ds, s.serve (.list .deployment "tenant" (componentSelector n channelComponent)) =
          (.ok ds, s) ∧
        s.Lists .deployment "tenant" (Serves n) ds) ∧
      (s.select .deployment "tenant" (componentSelector n channelComponent)).map
        (Kind.nameOf .deployment) = ["bot=2-channel-telegram"] := by
  intro n s
  have plain : Plain n := by decide +kernel
  have calm : ¬ s.Faulty .list .deployment := by decide +kernel
  refine ⟨plain, calm, ?_, by decide +kernel⟩
  obtain ⟨lists, _⟩ := selects_own_children plain
  exact (lists s "tenant").1 .deployment calm

end Store

end WorkloadOperator
