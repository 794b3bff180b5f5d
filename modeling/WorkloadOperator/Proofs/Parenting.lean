import WorkloadOperator.Proofs.Clearing
import WorkloadOperator.Proofs.Grounds
import WorkloadOperator.Proofs.Listing
import WorkloadOperator.Proofs.Stamping

/-!
# What children are born with

All that a child needs to be found again is in the manifest that a pass hands to the store.  It
names the Instance that the pass has read last as its only owner, with the uid that this Instance
has, even if another one had the name when the pass began.  A teardown of the Instance lists with a
selector that selects the child, or deletes it by its name (`Child.Reached`).  Its key is that of
no child that another Instance wants (`Instance.Wants.apart`).

The labels of a workload, those that it selects its pods by and those that its pods get are the
same.  They name the Instance and the channel, so it takes its own pods for its own, and none of
another workload (`Deployment.Secluded`).
-/

namespace WorkloadOperator

open Naming Selector Store

/-! ## Pods -/

namespace Deployment

/-- The labels by which a workload selects pods. -/
def selector? (d : Deployment) : Option Labels := d.spec.bind (·.selector)

/-- The labels that the pods of a workload get. -/
def podLabels? (d : Deployment) : Option Labels :=
  (d.spec.bind (·.template.metadata)).bind (·.labels)

/-- Whether a workload selects the pods of a workload: they are in its namespace, and they have all
labels that it asks for. -/
def SelectsPodsOf (d d' : Deployment) : Prop :=
  d'.metadata.ns = d.metadata.ns ∧ ∃ wanted given, d.selector? = some wanted ∧
    d'.podLabels? = some given ∧
    ∀ key value, wanted.get? key = some value → given.get? key = some value

/-- The labels of a workload are the same in all three places, and of all workloads that are made
for channels it selects the pods of those that are made for the same Instance and channel. -/
def Secluded (ns owner : String) (d : Deployment) : Prop :=
  ∃ (labels : Labels) (channel : Channel), d.metadata.labels = some labels ∧
    d.selector? = some labels ∧ d.podLabels? = some labels ∧ d.SelectsPodsOf d ∧
    d.metadata.name = some (workload owner channel) ∧
    ∀ (o' : Owner) (d' : Channel.Declaration) (adapters' : Config.Adapters),
      d.SelectsPodsOf (o'.workload d' adapters') ↔
        o'.ns = ns ∧ o'.name = owner ∧ d'.channel = channel

end Deployment

theorem Channel.name_inj {c c' : Channel} (h : c.name = c'.name) : c = c' := by
  revert h
  cases c <;> cases c' <;> decide

theorem Naming.get?_channelLabels (owner : String) (channel : Channel) (key : String) :
    (channelLabels owner channel).get? key =
      if instanceKey = key then some owner
      else if channelKey = key then some channel.name
      else if componentKey = key then some channelComponent
      else none := by
  simp [channelLabels, Dict.ofList, Dict.get?_insert]

/-- The labels of a channel are told apart by the Instance and by the channel. -/
theorem Naming.channelLabels_sub_iff {owner owner' : String} {channel channel' : Channel} :
    (∀ key value, (channelLabels owner channel).get? key = some value →
      (channelLabels owner' channel').get? key = some value) ↔
        owner' = owner ∧ channel' = channel := by
  constructor
  · intro h
    have howner := h instanceKey owner (by simp [get?_channelLabels])
    have hchannel := h channelKey channel.name
      (by simp [get?_channelLabels, instanceKey, channelKey])
    rw [get?_channelLabels, if_pos rfl, Option.some.injEq] at howner
    rw [get?_channelLabels, if_neg (by decide), if_pos rfl, Option.some.injEq] at hchannel
    exact ⟨howner, Channel.name_inj hchannel⟩
  · rintro ⟨rfl, rfl⟩ key value h
    exact h

theorem Owner.selectsPodsOf_iff (o o' : Owner) (d d' : Channel.Declaration)
    (adapters adapters' : Config.Adapters) :
    (o.workload d adapters).SelectsPodsOf (o'.workload d' adapters') ↔
      o'.ns = o.ns ∧ o'.name = o.name ∧ d'.channel = d.channel := by
  rw [← channelLabels_sub_iff]
  constructor
  · rintro ⟨hns, wanted, given, hwanted, hgiven, hsub⟩
    cases hwanted
    cases hgiven
    exact ⟨Option.some.inj hns, hsub⟩
  · rintro ⟨hns, hsub⟩
    exact ⟨congrArg some hns, _, _, rfl, rfl, hsub⟩

theorem Owner.secluded_workload (o : Owner) (d : Channel.Declaration) (adapters : Config.Adapters) :
    (o.workload d adapters).Secluded o.ns o.name :=
  ⟨channelLabels o.name d.channel, d.channel, rfl, rfl, rfl,
    (o.selectsPodsOf_iff o d d adapters adapters).2 ⟨rfl, rfl, rfl⟩, rfl,
    fun o' d' adapters' => o.selectsPodsOf_iff o' d d' adapters adapters'⟩

/-! ## Children -/

namespace Child

/-- Whether a teardown finds a child of an Instance: by the selector that it lists with, or by the
name that it deletes. -/
def Reached (owner : String) : (c : Child) → c.Object → Prop
  | .deployment, d => Selects (componentSelector owner channelComponent) d.metadata
  | .volumeClaim, v => Selects (componentSelector owner channelComponent) v.metadata
  | .configMap, m => Kind.nameOf .configMap m = memoryStore owner

/-- Whether a child keeps to itself, if it has pods. -/
def Secluded (ns owner : String) : (c : Child) → c.Object → Prop
  | .deployment, d => d.Secluded ns owner
  | .volumeClaim, _ | .configMap, _ => True

/-- A child that a teardown finds goes with the Instance, as long as it keeps its labels. -/
theorem Reached.doomed {key : Key} {c : Child} {object o : c.Object}
    (h : c.Reached key.name object) (hplain : Plain key.name)
    (hlabels : (Resource.metadata o).labels = (Resource.metadata object).labels) :
    c.Doomed key ⟨key.ns, c.kind.nameOf object⟩ o := by
  have serves (hselects : Selects (componentSelector key.name channelComponent)
      (Resource.metadata object)) : Serves key.name (Resource.metadata o) := by
    have hserves := (admits_componentSelector hplain _).1 hselects
    rw [Serves, Metadata.label?, Metadata.label?, hlabels]
    exact hserves
  cases c with
  | deployment => exact ⟨rfl, serves h⟩
  | volumeClaim => exact ⟨rfl, serves h⟩
  | configMap =>
    show Key.mk key.ns (Kind.nameOf .configMap object) = ⟨key.ns, memoryStore key.name⟩
    rw [h]

end Child

namespace Instance

variable {i : Instance} {adapters : Config.Adapters} {o : Owner} {c : Child} {object : c.Object}

theorem Wants.metadata (h : i.Wants adapters o c object) :
    ∃ name labels, Resource.metadata object = o.child name labels := by
  cases h <;> exact ⟨_, _, rfl⟩

theorem Wants.proper (h : i.Wants adapters o c object) :
    c.Proper o.key ⟨o.ns, c.kind.nameOf object⟩ object := by
  cases h with
  | session d hd hkeeps => exact o.proper_sessionStore
  | workload d hd => exact o.proper_workload
  | memory hwants => exact o.proper_memoryStore

/-- Two Instances never want children under one key, and no Instance wants children of two kinds
under one name. -/
theorem Wants.apart {i' : Instance} {adapters' : Config.Adapters} {o' : Owner} {c' : Child}
    {object' : c'.Object} (h : i.Wants adapters o c object)
    (h' : i'.Wants adapters' o' c' object')
    (hkey : Key.mk o.ns (c.kind.nameOf object) = ⟨o'.ns, c'.kind.nameOf object'⟩) :
    o.key = o'.key ∧ c = c' := by
  have hplace := h'.proper.place
  rw [← hkey] at hplace
  exact h.proper.place.apart hplace

theorem Wants.reached (h : i.Wants adapters o c object) (hplain : Plain o.name) :
    c.Reached o.name object := by
  cases h with
  | session d hd hkeeps => exact (o.selects_channelChild hplain _ _).2 rfl
  | workload d hd => exact (o.selects_channelChild hplain _ _).2 rfl
  | memory hwants => rfl

theorem Wants.secluded (h : i.Wants adapters o c object) : c.Secluded o.ns o.name object := by
  cases h with
  | session d hd hkeeps => trivial
  | workload d hd => exact o.secluded_workload d adapters
  | memory hwants => trivial

/-- What a child of an Instance is like when it is handed to a store in a namespace. -/
structure Bears (i : Instance) (ns : String) (c : Child) (object : c.Object) : Prop where
  owned : ∃ uid, i.metadata.uid = some uid ∧ (Resource.metadata object).ownerReferences = some [{
    apiVersion := "agents.dev/v1alpha1"
    kind := "Instance"
    name := i.name
    uid := uid
    controller := some true
    blockOwnerDeletion := some true }]
  placed : i.metadata.ns = some ns ∧ (Resource.metadata object).ns = some ns
  reached : c.Reached i.name object
  secluded : c.Secluded ns i.name object

theorem bears_of_wants {ns uid : String} (huid : i.metadata.uid = some uid)
    (hns : i.metadata.ns = some ns) (hplain : Plain i.name)
    (h : i.Wants adapters ⟨i.name, ns, uid⟩ c object) : i.Bears ns c object := by
  obtain ⟨name, labels, hmetadata⟩ := h.metadata
  refine ⟨⟨uid, huid, ?_⟩, ⟨hns, ?_⟩, h.reached hplain, h.secluded⟩
  · rw [hmetadata]
    rfl
  · rw [hmetadata]
    rfl

end Instance

/-! ## Passes -/

namespace Pass

variable {cfg : Config} {key : Key} {b : Company} {i : Instance}

/-- The Instance under a key was read, and it was not read again. -/
def ReadLast (key : Key) (log : List Call) (i : Instance) : Prop :=
  ∃ before r rest, log = before ++ r :: rest ∧ r.Reads key i ∧
    ∀ c ∈ rest, ∀ k, c.request ≠ .getInstance k

/-- An undisturbed pass for an Instance that is held while it is being deleted leaves nothing that
goes with it. -/
theorem swept_of_doomed (cfg : Config) {s : Store} (hfiled : s.Filed) (hplain : Plain key.name)
    (hi : s.find? .inst key = some i) (hdeleting : i.isDeleting = true)
    (hmarked : i.isMarked = true) {c : Child} {k : Key}
    (hdoomed : ∀ o, s.find? c.kind k = some o → c.Doomed key k o) :
    (undisturbed cfg key s).find? c.kind k = none := by
  let a : Outset := ⟨key, i, s⟩
  have outset : a.Wanes s := by
    refine ⟨hfiled, Grows.refl s, fun _ _ _ ho _ => ho, rfl, fun _ _ => rfl, ?_⟩
    intro j hj
    cases hi.symm.trans hj
    exact ⟨hdeleting, fun _ => rfl⟩
  obtain ⟨-, torn⟩ := tornDown_undisturbed cfg outset ⟨i, hi, hmarked⟩ hplain
  rw [torn.children c k, Option.filter_eq_none_iff]
  intro o ho hkept
  exact absurd (hdoomed o ho) (by simpa using hkept)

/-- Whatever others do, and wherever requests fail and passes are cancelled, the manifest of a child
that a pass creates has all that the child is found by later.  It is in the namespace of the
Instance that the pass has read last and has that Instance as its one owner, a teardown finds it by
the labels or by the name that it has, and a workload selects its own pods and no others.  So
whenever the Instance is held while it is being deleted, and the child is still there with its
labels, an undisturbed pass deletes it. -/
theorem born_of_create {operations : List Operation} (hplain : Plain key.name)
    {earlier later : List Call} {c : Call}
    (h : calls cfg key b (Store.empty.run operations) = earlier ++ c :: later) {child : Child}
    {ns : String} {object : child.Object} (hr : c.request = .create child ns object) :
    ns = key.ns ∧ (∃ i, ReadLast key earlier i ∧ i.name = key.name ∧ i.Bears ns child object) ∧
      ∀ (operations' : List Operation) (i : Instance),
        (Store.empty.run operations').find? .inst key = some i → i.isDeleting = true →
        i.isMarked = true → (∀ o,
          (Store.empty.run operations').find? child.kind ⟨ns, child.kind.nameOf object⟩ = some o →
            (Resource.metadata o).labels = (Resource.metadata object).labels) →
        (undisturbed cfg key (Store.empty.run operations')).find? child.kind
          ⟨ns, child.kind.nameOf object⟩ = none := by
  have hnext := course h
  rw [hr] at hnext
  obtain ⟨i, hlog, -, rfl, uid, huid, hwants⟩ := hnext.creates
  obtain ⟨before, r, rest, rfl, -, hread, hrest⟩ := hlog.split
  have hmem : r ∈ calls cfg key b (Store.empty.run operations) := by
    rw [h]
    simp
  have orderly := orderly_of_mem (orderly_empty.run operations) hmem
  have filed := orderly.filed .inst key i hread.find?
  have hname : i.name = key.name := filed.name
  have bears : i.Bears key.ns child object :=
    Instance.bears_of_wants huid filed.ns (hname ▸ hplain) hwants
  refine ⟨rfl, ⟨i, ⟨before, r, rest, rfl, hread, ?_⟩, hname, bears⟩, ?_⟩
  · exact fun c' hc' k => not_getInstance_of_advances (hrest c' hc') k
  · intro operations' j hj hdeleting hmarked hlabels
    refine swept_of_doomed cfg (filed_empty.run operations') hplain hj hdeleting hmarked ?_
    intro o ho
    have reached : child.Reached key.name object := hname ▸ bears.reached
    exact reached.doomed hplain (hlabels o ho)

/-- A run that leaves an Instance to be torn down, with a workload that was created for it. -/
def bereaved (d : Deployment) : List Operation :=
  [.insertInstance {
      metadata := {
        name := some "bot"
        ns := some "tenant"
        finalizers := some [Instance.marker] } },
    .request (.create .deployment "tenant" d),
    .requestDeletion ⟨"tenant", "bot"⟩]

/-- An Instance is replaced just before it is read again.  The workload that the pass creates names
the new one as its owner, and it is gone after a teardown. -/
theorem born_of_create_after_replacement :
    let key : Key := ⟨"tenant", "bot"⟩
    let d : Deployment := Owner.workload ⟨"bot", "tenant", "uid-4"⟩ { channel := .telegram } {}
    let s := Store.empty.run (bereaved d)
    Plain key.name ∧ ∃ earlier c later,
      calls {} key replacer (Store.empty.run [.insertInstance talkative]) = earlier ++ c :: later ∧
      c.request = .create .deployment "tenant" d ∧
      (∃ i, ReadLast key earlier i ∧ i.metadata.uid = some "uid-4" ∧
        i.Bears "tenant" .deployment d) ∧
      s.names .deployment "tenant" = ["bot-channel-telegram"] ∧
      (undisturbed {} key s).find? .deployment ⟨"tenant", "bot-channel-telegram"⟩ = none := by
  have created : (calls {} ⟨"tenant", "bot"⟩ replacer
      (Store.empty.run [.insertInstance talkative]))[4]?.map Call.request =
        some (.create .deployment "tenant"
          (Owner.workload ⟨"bot", "tenant", "uid-4"⟩ { channel := .telegram } {})) := by
    rfl
  intro key d s
  have plain : Plain key.name := by decide +kernel
  have held : ∃ i ∈ s.find? .inst key, i.isDeleting = true ∧ i.isMarked = true := by
    decide +kernel
  have there : s.names .deployment "tenant" = ["bot-channel-telegram"] := by decide +kernel
  have labelled : ∀ o ∈ s.find? .deployment ⟨"tenant", Kind.nameOf .deployment d⟩,
      o.metadata.labels = d.metadata.labels := by
    decide +kernel
  obtain ⟨c, hc, hr⟩ := Option.map_eq_some_iff.1 created
  obtain ⟨hsplit, -⟩ := split_of_getElem? hc
  obtain ⟨-, ⟨i, hread, -, hbears⟩, swept⟩ := born_of_create plain hsplit hr
  obtain ⟨uid, huid, howned⟩ := hbears.owned
  obtain rfl : "uid-4" = uid :=
    congrArg (fun os => (((os.bind List.head?).map OwnerReference.uid).getD "")) howned
  obtain ⟨j, hj, hdeleting, hmarked⟩ := held
  exact ⟨plain, _, c, _, hsplit, hr, ⟨i, hread, huid, hbears⟩, there,
    swept (bereaved d) j hj hdeleting hmarked labelled⟩

end Pass

end WorkloadOperator
