import WorkloadOperator.Proofs.Cancellation
import WorkloadOperator.Proofs.Course
import WorkloadOperator.Proofs.Protocol
import WorkloadOperator.Proofs.Versions

/-!
# Every store is in order

In a store that was empty at first, every object stands under its own name and namespace, has
something that tells it apart and a time of its creation, and has a version that no other object
has, of whatever kind.  A store with these marks is `Orderly`, and one step keeps it so
(`Orderly.wrought`).

Passes rely on that order.  They delete what they have listed by the names that it has, which
therefore are the names under which it is filed (`deletable`), and they give up on an Instance that
nothing tells apart, which therefore they never find (`not_invariant`).
-/

namespace WorkloadOperator

namespace Store

/-- What the metadata of an object is like that is stored under a key when so many versions
have been given. -/
structure Stamped (given : Nat) (key : Key) (m : Metadata) : Prop where
  name : m.displayName = key.name
  ns : m.ns = some key.ns
  uid : m.uid.isSome
  creation : m.creationTimestamp.isSome
  version : ∃ n, 1 ≤ n ∧ n ≤ given ∧ m.resourceVersion = some (toString n)

/-- Every object is stamped, and no two of them have one version. -/
structure Orderly (s : Store) : Prop where
  stamped : ∀ κ key o, s.find? κ key = some o → Stamped s.version key (Resource.metadata o)
  distinct : ∀ κ key o κ' key' o', s.find? κ key = some o → s.find? κ' key' = some o' →
    (Resource.metadata o).resourceVersion = (Resource.metadata o').resourceVersion →
      κ = κ' ∧ key = key'

variable {s s' : Store} {κ : Kind} {key : Key}

theorem Stamped.mono {given later : Nat} {m : Metadata} (h : Stamped given key m)
    (hle : given ≤ later) : Stamped later key m := by
  obtain ⟨n, hpos, hn, hv⟩ := h.version
  exact ⟨h.name, h.ns, h.uid, h.creation, n, hpos, Nat.le_trans hn hle, hv⟩

/-! ## What one step keeps -/

theorem orderly_empty : Orderly empty where
  stamped κ key o h := by
    rw [find?_empty] at h
    cases h
  distinct κ key o κ' key' o' h := by
    rw [find?_empty] at h
    cases h

/-- An object that is there after a step is stamped. -/
theorem Orderly.stamped_of_wrought (h : s.Orderly) (hw : Wrought s s') {o : κ.Object}
    (ho : s'.find? κ key = some o) : Stamped s'.version key (Resource.metadata o) := by
  rcases hw.found ho with ⟨o', ho', hm⟩ | ⟨hissued, hlt, hv⟩
  · rw [hm]
    exact (h.stamped κ key o' ho').mono hw.version_le
  · have hversion : ∃ n, 1 ≤ n ∧ n ≤ s'.version ∧
        (Resource.metadata o).resourceVersion = some (toString n) :=
      ⟨s'.version, Nat.zero_lt_of_lt hlt, Nat.le_refl _, hv⟩
    cases hissued with
    | fresh hname hns huid hcreation => exact ⟨hname, hns, huid, hcreation, hversion⟩
    | renewed o' ho' hname hns huid hcreation =>
      have old := h.stamped κ key o' ho'
      exact ⟨hname.trans old.name, hns.trans old.ns, huid ▸ old.uid, hcreation ▸ old.creation,
        hversion⟩

/-- A version that was not given before is nobody's. -/
theorem Orderly.not_version (h : s.Orderly) {n : Nat} (hlt : s.version < n) {o : κ.Object}
    (ho : s.find? κ key = some o) :
    (Resource.metadata o).resourceVersion ≠ some (toString n) := by
  obtain ⟨m, _, hm, hv⟩ := (h.stamped κ key o ho).version
  intro he
  have hn : m = n := eq_of_toString_eq (Option.some.inj (hv.symm.trans he))
  omega

/-- A step leaves a store in order. -/
theorem Orderly.wrought (h : s.Orderly) (hw : Wrought s s') : s'.Orderly where
  stamped _ _ _ ho := h.stamped_of_wrought hw ho
  distinct := by
    intro κ key o κ' key' o' ho ho' heq
    cases hw with
    | kept _ hkept =>
      obtain ⟨p, hp, hm⟩ := hkept κ key o ho
      obtain ⟨p', hp', hm'⟩ := hkept κ' key' o' ho'
      rw [hm, hm'] at heq
      exact h.distinct κ key p κ' key' p' hp hp' heq
    | issued κ₀ key₀ o₀ hlt ho₀ _ hv hrest =>
      -- whatever is elsewhere was there before, and does not have the new version
      by_cases hplace : κ = κ₀ ∧ key = key₀ <;> by_cases hplace' : κ' = κ₀ ∧ key' = key₀
      · exact ⟨hplace.1.trans hplace'.1.symm, hplace.2.trans hplace'.2.symm⟩
      · obtain ⟨rfl, rfl⟩ := hplace
        cases ho₀.symm.trans ho
        rw [hrest κ' key' hplace'] at ho'
        exact absurd (heq.symm.trans hv) (h.not_version hlt ho')
      · obtain ⟨rfl, rfl⟩ := hplace'
        cases ho₀.symm.trans ho'
        rw [hrest κ key hplace] at ho
        exact absurd (heq.trans hv) (h.not_version hlt ho)
      · rw [hrest κ key hplace] at ho
        rw [hrest κ' key' hplace'] at ho'
        exact h.distinct κ key o κ' key' o' ho ho' heq

theorem Orderly.faults (h : s.Orderly) (faults : List Fault) : Orderly { s with faults } :=
  h.wrought (wrought_faults s faults)

/-- A store is in order after every run. -/
theorem Orderly.run (h : s.Orderly) (operations : List Operation) : (s.run operations).Orderly := by
  induction operations generalizing s with
  | nil => exact h
  | cons o operations ih => exact ih (h.wrought (wrought_perform s o))

theorem Orderly.becomes (h : s.Orderly) (hs : s.Becomes s') : s'.Orderly := by
  obtain ⟨operations, rfl⟩ := hs
  exact h.run operations

theorem Orderly.filed (h : s.Orderly) : s.Filed := by
  intro κ key o ho
  have stamped := h.stamped κ key o ho
  obtain ⟨n, _, hn, hv⟩ := stamped.version
  exact ⟨stamped.name, stamped.ns, stamped.uid, n, hn, hv⟩

/-! ## Deletions by name -/

variable {c : Child} {ns selector : String}

/-- A child is there under a key, and a deletion by that key removes it and nothing else, unless
it meets a fault. -/
structure Removes (s : Store) (c : Child) (key : Key) (o : c.Object) : Prop where
  found : s.find? c.kind key = some o
  accepted : s.Accepts (.delete c key) ↔ ¬ s.Faulty .delete c.kind
  gone : s.Accepts (.delete c key) → (s.serve (.delete c key)).2.find? c.kind key = none
  kept : ¬ s.Accepts (.delete c key) → (s.serve (.delete c key)).2.find? c.kind key = some o
  rest : ∀ κ k, ¬ (κ = c.kind ∧ k = key) →
    (s.serve (.delete c key)).2.find? κ k = s.find? κ k

/-- A deletion leaves alone what is filed elsewhere. -/
theorem find?_delete_of_not {k : Key} (h : ¬ (κ = c.kind ∧ k = key)) :
    (s.serve (.delete c key)).2.find? κ k = s.find? κ k := by
  rcases serve_cases s (.delete c key) with ⟨e, faults, hserve⟩ | hserve
  · rw [hserve]
    exact find?_faults faults
  · rw [hserve]
    simp only [answer]
    split
    · rw [find?_record, find?_drop_of_not h]
    · rfl

theorem answer_delete_of_found {o : c.Object} (h : s.find? c.kind key = some o) :
    s.answer (.delete c key) =
      (.ok (), (s.drop c.kind key).record .delete c.kind key.name) := by
  simp only [answer, h, Option.isSome_some, if_true]

theorem removes_of_found {o : c.Object} (h : s.find? c.kind key = some o) : s.Removes c key o where
  found := h
  accepted := by
    constructor
    · intro haccepts hfaulty
      obtain ⟨e, faults, _, hserve⟩ := serve_of_faulty (r := .delete c key) hfaulty
      rw [Accepts, hserve] at haccepts
      cases haccepts
    · intro hnot
      rw [Accepts, serve_of_not_faulty (r := .delete c key) hnot, answer_delete_of_found h]
      rfl
  gone haccepts := by
    rw [serve_of_accepts haccepts, answer_delete_of_found h, find?_record, find?_drop_self]
  kept hnot := (find?_serve_of_not_accepts hnot).trans h
  rest _ _ hplace := find?_delete_of_not hplace

/-- The deletions of children one after the other, each by its name. -/
def deletions (c : Child) (ns : String) (os : List c.Object) : List Operation :=
  os.map fun o => .request (.delete c ⟨ns, c.kind.nameOf o⟩)

/-- When children are deleted one after the other that a selector finds in a namespace, then each
of them is there when it is its turn.  Whatever else is done before that turn, if it leaves the child
alone, then its deletion removes it and nothing else. -/
def Deletable (s : Store) (c : Child) (ns selector : String) : Prop :=
  ∀ earlier o later, s.select c.kind ns selector = earlier ++ o :: later →
    (s.run (deletions c ns earlier)).Removes c ⟨ns, c.kind.nameOf o⟩ o ∧
      ∀ between, (s.run between).find? c.kind ⟨ns, c.kind.nameOf o⟩ = some o →
        (s.run between).Removes c ⟨ns, c.kind.nameOf o⟩ o

theorem find?_run_deletions {os : List c.Object} (h : ∀ o ∈ os, c.kind.nameOf o ≠ key.name) :
    (s.run (deletions c ns os)).find? c.kind key = s.find? c.kind key := by
  induction os generalizing s with
  | nil => rfl
  | cons o os ih =>
    have hplace : ¬ (c.kind = c.kind ∧ key = ⟨ns, c.kind.nameOf o⟩) := fun hk =>
      h o List.mem_cons_self (congrArg Key.name hk.2.symm)
    exact (ih fun o' ho' => h o' (List.mem_cons_of_mem _ ho')).trans (find?_delete_of_not hplace)

/-- No two objects of a selection have one name. -/
theorem Filed.pairwise_select (h : s.Filed) :
    (s.select κ ns selector).Pairwise fun o o' => κ.nameOf o ≠ κ.nameOf o' := by
  refine List.pairwise_map.2 (List.Pairwise.imp_of_mem ?_ ((s.table κ).ascending.filter _))
  rintro ⟨key, o⟩ ⟨key', o'⟩ he he' hlt hname
  obtain ⟨hmem, hp⟩ := List.mem_filter.1 he
  obtain ⟨hmem', hp'⟩ := List.mem_filter.1 he'
  simp only [decide_eq_true_eq] at hp hp'
  have hns : key.ns = key'.ns := hp.1.trans hp'.1.symm
  have hkey : key.name = key'.name := by
    rw [← (h κ key o (Dict.mem_entries_iff.1 hmem)).name,
      ← (h κ key' o' (Dict.mem_entries_iff.1 hmem')).name]
    exact hname
  obtain rfl := Key.ext hns hkey
  exact Std.Irrefl.irrefl (r := (· < ·)) key hlt

theorem Filed.deletable (h : s.Filed) (c : Child) (ns selector : String) :
    s.Deletable c ns selector := by
  intro earlier o later hselect
  have hmem : o ∈ s.select c.kind ns selector := by
    rw [hselect]
    exact List.mem_append_right _ List.mem_cons_self
  have hnames : (s.select c.kind ns selector).Pairwise fun o o' =>
      c.kind.nameOf o ≠ c.kind.nameOf o' := h.pairwise_select
  rw [hselect] at hnames
  have hearlier : ∀ o' ∈ earlier, c.kind.nameOf o' ≠ c.kind.nameOf o := fun o' ho' =>
    (List.pairwise_append.1 hnames).2.2 o' ho' o List.mem_cons_self
  refine ⟨removes_of_found ?_, fun _ => removes_of_found⟩
  exact (find?_run_deletions hearlier).trans (h.found hmem)

end Store

namespace Pass

open Store Naming

/-! ## What the lore of a pass comes from -/

/-- What a pass has learned by the calls of a log. -/
def lore (log : List Call) : Lore := log.foldl (fun l c => l.learn c.request c.answer) {}

theorem lore_append (log : List Call) (c : Call) :
    lore (log ++ [c]) = (lore log).learn c.request c.answer := List.foldl_append ..

/-- A call lists a child by a selector, and the child has a key by its name. -/
inductive Call.Lists : Call → (c : Child) → Key → c.Object → Prop where
  | listed {met : Store} {c : Child} {ns selector : String} {os : List c.Object} (o : c.Object)
      (answered : (met.serve (.list c ns selector)).1 = .ok os) (ho : o ∈ os) :
      Lists ⟨met, .list c ns selector⟩ c ⟨ns, c.kind.nameOf o⟩ o

variable {cfg : Config} {key k : Key} {b : Company} {s : Store} {log : List Call} {r : Call}
  {child : Child} {i : Instance}

/-- What is listed is filed under the key that it has by its name. -/
theorem Call.Lists.found {o : child.Object} (h : r.Lists child k o) (hfiled : r.met.Filed) :
    r.met.find? child.kind k = some o := by
  cases h with
  | listed o answered ho =>
    cases answer_of_ok answered
    exact hfiled.found ho

/-- What a pass has seen and what it has listed stays or is forgotten, unless the pass reads the
Instance or lists children. -/
theorem learn_retains (l : Lore) (r : Request) (answer : r.Answer) :
    ((l.learn r answer).sight = l.sight ∨ (l.learn r answer).sight = .unseen ∨
        ∃ k, r = .getInstance k) ∧
      ((l.learn r answer).listed = l.listed ∨ (l.learn r answer).listed = [] ∨
        ∃ c ns selector, r = .list c ns selector) := by
  cases r with
  | getInstance k =>
    rcases answer with e | _ | i
    · exact ⟨.inl rfl, .inl rfl⟩
    · exact ⟨.inr (.inr ⟨k, rfl⟩), .inr (.inl rfl)⟩
    · exact ⟨.inr (.inr ⟨k, rfl⟩), .inr (.inl rfl)⟩
  | get c k => rcases answer with e | _ | o <;> exact ⟨.inl rfl, .inl rfl⟩
  | create c ns o =>
    rcases answer with e | o
    · cases e <;> exact ⟨.inl rfl, .inl rfl⟩
    · exact ⟨.inl rfl, .inl rfl⟩
  | list c ns selector =>
    rcases answer with e | os <;> cases c <;>
      exact ⟨.inl rfl, .inr (.inr ⟨_, ns, selector, rfl⟩)⟩
  | delete c k => rcases answer with e | _ <;> exact ⟨.inl rfl, .inl rfl⟩
  | listRuns ns selector => rcases answer with e | runs <;> exact ⟨.inl rfl, .inl rfl⟩
  | patchFinalizers k version finalizers =>
    rcases answer with e | _
    · exact ⟨.inl rfl, .inl rfl⟩
    · simp only [Lore.learn]
      -- after the marking, the Instance is read again
      split
      · exact ⟨.inr (.inl rfl), .inr (.inl rfl)⟩
      · exact ⟨.inl rfl, .inl rfl⟩
  | patchStatus k version patch => exact ⟨.inl rfl, .inl rfl⟩

/-- The lore after a list was answered. -/
theorem listed_learn_list {l : Lore} {c : Child} {ns selector : String} {os : List c.Object} :
    (l.learn (.list c ns selector) (.ok os)).listed =
      os.map fun o => (c, ⟨ns, c.kind.nameOf o⟩) := by
  cases c <;> rfl

/-- An Instance that is seen after a call was seen before it, or the call has read it. -/
theorem reads_of_learn {l : Lore} {c : Call} (h : (l.learn c.request c.answer).sight = .seen i) :
    l.sight = .seen i ∨ ∃ k, c.Reads k i := by
  obtain ⟨met, r⟩ := c
  rcases (learn_retains l r (Call.answer ⟨met, r⟩)).1 with hsame | hunseen | ⟨k, rfl⟩
  · exact .inl (hsame.symm.trans h)
  · cases hunseen.symm.trans h
  · cases hanswer : (met.serve (.getInstance k)).1 with
    | error e =>
      simp only [Call.answer, hanswer] at h
      exact .inl h
    | ok found =>
      simp only [Call.answer, hanswer] at h
      cases found with
      | none => cases h
      | some j =>
        cases h
        exact .inr ⟨k, rfl, hanswer⟩

/-- A child whose key is known from a list after a call was known before it, or the call has listed
it. -/
theorem lists_of_learn {l : Lore} {c : Call}
    (h : (child, k) ∈ (l.learn c.request c.answer).listed) :
    (child, k) ∈ l.listed ∨ ∃ o, c.Lists child k o := by
  obtain ⟨met, r⟩ := c
  rcases (learn_retains l r (Call.answer ⟨met, r⟩)).2 with hsame | hnone | ⟨c, ns, selector, rfl⟩
  · exact .inl (hsame ▸ h)
  · rw [hnone] at h
    cases h
  · cases hanswer : (met.serve (.list c ns selector)).1 with
    | error e =>
      simp only [Call.answer, hanswer] at h
      cases c <;> exact .inl h
    | ok os =>
      simp only [Call.answer, hanswer] at h
      have hmem := listed_learn_list ▸ h
      obtain ⟨o, ho, he⟩ := List.mem_map.1 hmem
      cases he
      exact .inr ⟨o, .listed o hanswer ho⟩

/-- What is in the lore of a pass, and can only come there by a call of some kind, comes from such a
call. -/
theorem source_of_lore {P : Lore → Prop} {Q : Call → Prop} (hnothing : ¬ P {})
    (hstep : ∀ l c, P (l.learn c.request c.answer) → P l ∨ Q c) (h : P (lore log)) :
    ∃ r ∈ log, Q r := by
  induction log using List.reverseRecOn with
  | nil => exact absurd h hnothing
  | append_singleton log c ih =>
    rw [lore_append] at h
    rcases hstep _ _ h with hsooner | hnow
    · obtain ⟨r, hr, hQ⟩ := ih hsooner
      exact ⟨r, List.mem_append_left _ hr, hQ⟩
    · exact ⟨c, List.mem_append_right _ (List.mem_singleton_self c), hnow⟩

/-- All calls of a pass follow the protocol, and the pass ends as the protocol says. -/
theorem follows_calls (cfg : Config) (key : Key) (b : Company) (s : Store) :
    Throughout (fun earlier c => (lore earlier).Grants cfg.adapters key c.request)
        (calls cfg key b s) ∧
      Ends key True ((reconcile cfg key).run (amid b s) []).1 (lore (calls cfg key b s)) :=
  Keeps.run (w := amid b s) lore
    (Throughout fun earlier c => (lore earlier).Grants cfg.adapters key c.request)
    (follows_reconcile cfg key True) throughout_nil
    (fun log r hlog hr => ⟨hlog.append hr, (lore_append log (b.call s log r)).symm⟩)
    (fun _ _ => trivial) fun _ _ => rfl

/-! ## Passes on an orderly store -/

/-- A call goes by a list: if it deletes a workload or a session store, then an earlier call has
listed an object that was filed under the key of the deletion, and if that object is still there,
it is what the call removes. -/
def Call.GoesByList (earlier : List Call) (c : Call) : Prop :=
  ∀ child k, c.request = .delete child k → child ≠ .configMap → ∃ r ∈ earlier, ∃ o,
    r.Lists child k o ∧ r.met.find? child.kind k = some o ∧
      (c.met.find? child.kind k = some o → c.met.Removes child k o)

/-- All that a pass meets is in order. -/
theorem orderly_of_mem (h : s.Orderly) (hr : r ∈ calls cfg key b s) : r.met.Orderly := by
  obtain ⟨earlier, later, hsplit⟩ := List.append_of_mem hr
  have genuine := genuine_calls cfg key b s
  rw [hsplit] at genuine
  exact h.becomes genuine.becomes

/-- No pass gives up because something is not as it has to be. -/
theorem not_invariant (h : s.Orderly) (what : String) :
    ((reconcile cfg key).run (amid b s) []).1 ≠ .error (.invariant what) := by
  intro hresult
  obtain ⟨i, hseen, hnone⟩ := (follows_calls cfg key b s).2.excused _ hresult
  obtain ⟨r, hr, k, hreads⟩ :=
    source_of_lore (P := fun l => l.sight = .seen i) nofun (fun _ _ => reads_of_learn) hseen
  have huid : i.metadata.uid.isSome :=
    ((orderly_of_mem h hr).stamped .inst k i hreads.find?).uid
  rw [hnone] at huid
  cases huid

/-- What a pass deletes of what is listed, it has listed. -/
theorem mem_listed_of_grants {l : Lore} {adapters : Config.Adapters}
    (h : l.Grants adapters key (.delete child k)) (hne : child ≠ .configMap) :
    (child, k) ∈ l.listed := by
  obtain ⟨_, i, _, hallows⟩ := h
  cases child with
  | deployment => exact hallows.2
  | volumeClaim => exact hallows.2.2
  | configMap => exact absurd rfl hne

theorem goesByList_calls (h : s.Orderly) : Throughout Call.GoesByList (calls cfg key b s) := by
  intro earlier c later hsplit child k hrequest hne
  have granted : (lore earlier).Grants cfg.adapters key c.request :=
    (follows_calls cfg key b s).1 earlier c later hsplit
  rw [hrequest] at granted
  obtain ⟨r, hr, o, hlists⟩ :=
    source_of_lore (P := fun l => (child, k) ∈ l.listed) nofun (fun _ _ => lists_of_learn)
      (mem_listed_of_grants granted hne)
  have hmem : r ∈ calls cfg key b s := by
    rw [hsplit]
    exact List.mem_append_left _ hr
  exact ⟨r, hr, o, hlists, hlists.found (orderly_of_mem h hmem).filed, removes_of_found⟩

/-- Whatever was done to a store that was empty at first, it is in order.  So whatever faults wait,
whatever others do and whenever a pass is cancelled: no pass finds anything that is not as it has to
be, and to delete by its name what was listed removes exactly that. -/
theorem order_of_run (operations : List Operation) (faults : List Fault) :
    let s : Store := { empty.run operations with faults }
    s.Orderly ∧
      (∀ cfg key b what, ((reconcile cfg key).run (amid b s) []).1 ≠ .error (.invariant what)) ∧
      (∀ c ns selector, s.Deletable c ns selector) ∧
      ∀ cfg key b, Throughout Call.GoesByList (calls cfg key b s) := by
  intro s
  have orderly : s.Orderly := (orderly_empty.run operations).faults faults
  refine ⟨orderly, ?_, ?_, ?_⟩
  · exact fun cfg key b what => not_invariant orderly what
  · exact orderly.filed.deletable
  · exact fun cfg key b => goesByList_calls orderly

/-- A run that leaves an Instance to be torn down, with two workloads that are labelled for it.
None of them has a name of its own, and one came with marks from elsewhere. -/
def borrowed : List Operation :=
  let labels := some (channelLabels "bot" .telegram)
  [.insertInstance {
      metadata := { generateName := some "bot", finalizers := some [Instance.marker] } },
    .insertDeployment "default" {
      metadata := {
        generateName := some "first"
        ns := some "elsewhere"
        uid := some "uid-1"
        resourceVersion := some "1"
        labels } },
    .insertDeployment "default" { metadata := { generateName := some "second", labels } },
    .requestDeletion ⟨"default", "bot"⟩]

/-- Somebody who uses up versions after the workloads were listed, and files a workload under a name
that was not listed. -/
def unconcerned : Company where
  others n :=
    if n = 2 then
      [.touch ⟨"default", "cat"⟩,
        .insertDeployment "default" { metadata := { name := some "third" } }]
    else []

/-- The workloads of the Instance are listed and deleted by the names that were generated for them,
while no session store can be deleted. -/
theorem order_of_run_borrowed :
    let key : Key := ⟨"default", "bot"⟩
    let selector := componentSelector "bot" channelComponent
    let s : Store := { empty.run borrowed with
      faults := [⟨.delete, .volumeClaim, .unavailable "down", none⟩] }
    s.Orderly ∧
      (∃ d d', s.select .deployment "default" selector = [d, d'] ∧
        d.metadata.uid = some "uid-1" ∧
        (s.run (deletions .deployment "default" [d])).Removes .deployment
          ⟨"default", Kind.deployment.nameOf d'⟩ d') ∧
      ∃ c k, (calls {} key unconcerned s)[3]? = some c ∧ c.request = .delete .deployment k ∧
        ∃ r ∈ (calls {} key unconcerned s).take 3, ∃ o, r.Lists .deployment k o ∧
          r.met.find? .deployment k = some o := by
  intro key selector s
  obtain ⟨orderly, _, deletable, byList⟩ :=
    order_of_run borrowed [⟨.delete, .volumeClaim, .unavailable "down", none⟩]
  have two : (s.select .deployment "default" selector).map (·.metadata.uid) =
      [some "uid-1", some "uid-3"] := by decide +kernel
  have deletes : ∃ c ∈ (calls {} key unconcerned s)[3]?, c.request.verb = .delete ∧
      c.request.kind = .deployment := by
    decide +kernel
  refine ⟨orderly, ?_, ?_⟩
  · obtain ⟨d, rest, hselect, huid, hrest⟩ := List.map_eq_cons_iff.1 two
    obtain ⟨d', rest', rfl, -, hnil⟩ := List.map_eq_cons_iff.1 hrest
    cases List.map_eq_nil_iff.1 hnil
    exact ⟨d, d', hselect, huid, (deletable .deployment "default" selector [d] d' [] hselect).1⟩
  · obtain ⟨c, hc, hverb, hkind⟩ := deletes
    have goes := byList {} key unconcerned _ c _ (split_of_getElem? hc).1
    cases hrequest : c.request with
    | delete child k =>
      rw [hrequest] at hkind
      cases child with
      | deployment =>
        obtain ⟨r, hr, o, hlists, hfound, -⟩ := goes .deployment k hrequest nofun
        exact ⟨c, k, hc, hrequest, r, hr, o, hlists, hfound⟩
      | volumeClaim | configMap => cases hkind
    | getInstance | get | create | list | listRuns | patchFinalizers | patchStatus =>
      rw [hrequest] at hverb
      cases hverb

end Pass

end WorkloadOperator
