import WorkloadOperator.Proofs.Filing
import WorkloadOperator.Proofs.Protocol
import WorkloadOperator.Proofs.World

/-!
# Passes that follow the protocol

In every world, whatever others do to the store, each pass that was started follows the
protocol with what is left of it (`World.followed_run`).  So a turn of a pass leaves the
store alone, or asks something that the protocol grants (`Follows.turn`).

A pass keeps to its own Instance if the store is filed and tidy: it asks for nothing but
the Instance under its key and the children that belong to that one (`Own.learn`,
`Grants.find?_child`, `Grants.find?_instance`).
-/

namespace WorkloadOperator

open Naming Selector Store

namespace Pass

variable {adapters : Config.Adapters} {key : Key} {l : Lore} {r : Request}

/-- What is due is a proper child of the owner. -/
theorem Due.proper {i : Instance} {o : Owner} {c : Child} {object : c.Object}
    (h : Due adapters i o l c object) : c.Proper o.key ⟨o.ns, c.kind.nameOf object⟩ object := by
  cases h with
  | session d hchannels hserved hkeeps => exact o.proper_sessionStore
  | workload d hchannels hserved hsession => exact o.proper_workload
  | memory hserved hwants => exact o.proper_memoryStore

namespace Lore

/-- What a pass may create is proper. -/
theorem Grants.isProper (h : Grants adapters key l r) : r.IsProper := by
  cases r with
  | create c ns object =>
    obtain ⟨_, i, _, _, rfl, _, o, howns, hdue⟩ := h
    have hproper := hdue.proper
    rw [howns.ns] at hproper
    exact ⟨o.key, hproper⟩
  | getInstance | get | list | delete | listRuns | patchFinalizers | patchStatus => trivial

/-- A store answers a creation so that the child is known to be there. -/
theorem learn_create {s : Store} {c : Child} {ns : String} {o : c.Object}
    (hname : c.kind.nameOf o ≠ "") :
    l.learn (.create c ns o) (s.answer (.create c ns o)).1 = l.meet c ⟨ns, c.kind.nameOf o⟩ := by
  simp only [answer, if_neg hname]
  split <;> rfl

/-- What a pass has seen, found and listed is its own. -/
structure Own (key : Key) (l : Lore) : Prop where
  name : ∀ i, l.sight = .seen i → i.name = key.name
  plain : ∀ i, l.sight = .seen i → Plain key.name
  there : ∀ c k, (c, k) ∈ l.there → c.Belongs key k
  listed : ∀ c k, (c, k) ∈ l.listed → c.Belongs key k

theorem own_of_unseen (key : Key) {l : Lore} (hseen : ∀ i, l.sight ≠ .seen i)
    (hthere : l.there = []) (hlisted : l.listed = []) : Own key l where
  name i h := absurd h (hseen i)
  plain i h := absurd h (hseen i)
  there c k h := by rw [hthere] at h; cases h
  listed c k h := by rw [hlisted] at h; cases h

theorem own_initial (key : Key) : Own key {} :=
  own_of_unseen key (fun _ h => nomatch h) rfl rfl

theorem Own.slip (h : Own key l) (e : Store.Error) : Own key (l.slip e) :=
  ⟨h.name, h.plain, h.there, h.listed⟩

theorem Own.meet (h : Own key l) {c : Child} {k : Key} (hk : c.Belongs key k) :
    Own key (l.meet c k) where
  name := h.name
  plain := h.plain
  there c' k' hmem := by
    rcases List.mem_cons.1 hmem with he | hold
    · cases he
      exact hk
    · exact h.there c' k' hold
  listed := h.listed

/-- What a pass lists is its own, if the name of the Instance can stand in a selector. -/
theorem own_listed {s : Store} (hfiled : s.Filed) (htidy : s.Tidy) (hplain : Plain key.name)
    {c : Child} {o : c.Object}
    (ho : o ∈ s.select c.kind key.ns (componentSelector key.name channelComponent)) :
    c.Belongs key ⟨key.ns, c.kind.nameOf o⟩ := by
  obtain ⟨k, hns, hfind, hadmits⟩ := mem_select.1 ho
  obtain ⟨_, hlabel⟩ := (admits_componentSelector hplain _).1 hadmits
  have hname : c.kind.nameOf o = k.name := (hfiled c.kind k o hfind).name
  rw [hname, ← hns]
  exact htidy.belongs hfind hns hlabel

/-- A child that a pass may create belongs to its Instance. -/
theorem Own.belongs_of_create (h : Own key l) {c : Child} {ns : String} {object : c.Object}
    (hr : Grants adapters key l (.create c ns object)) :
    ns = key.ns ∧ c.Proper key ⟨ns, c.kind.nameOf object⟩ object := by
  obtain ⟨_, i, hseen, _, rfl, _, o, howns, hdue⟩ := hr
  have hkey : o.key = key := by
    rw [Owner.key, howns.ns, howns.name, h.name i hseen]
  have hproper := hdue.proper
  rw [hkey, howns.ns] at hproper
  exact ⟨rfl, hproper⟩

/-- A child that a pass may delete belongs to its Instance. -/
theorem Own.belongs_of_delete (h : Own key l) {c : Child} {k : Key}
    (hr : Grants adapters key l (.delete c k)) : c.Belongs key k := by
  obtain ⟨_, i, hseen, hallows⟩ := hr
  cases c with
  | deployment => exact h.listed _ _ hallows.2
  | volumeClaim => exact h.listed _ _ hallows.2.2
  | configMap =>
    obtain ⟨_, _, rfl⟩ := hallows
    exact ⟨rfl, by rw [h.name i hseen]⟩

theorem Own.learn {s : Store} (h : Own key l) (hfiled : s.Filed) (htidy : s.Tidy)
    (hplain : ∀ i, s.find? .inst key = some i → Plain key.name) (hr : Grants adapters key l r) :
    Own key (l.learn r (s.serve r).1) := by
  cases r with
  | getInstance k =>
    obtain ⟨_, _, rfl⟩ := hr
    cases hanswer : (s.serve (.getInstance k)).1 with
    | error e => exact h.slip e
    | ok found =>
      cases found with
      | none => exact own_of_unseen k (fun _ hs => nomatch hs) rfl rfl
      | some i =>
        have hfind := find?_of_read hanswer
        refine ⟨fun j hj => ?_, fun j hj => hplain i hfind, fun _ _ hl => (nomatch hl),
          fun _ _ hl => nomatch hl⟩
        cases hj
        exact (hfiled .inst k i hfind).name
  | get c k =>
    obtain ⟨_, i, hseen, _, hbelongs⟩ := hr
    rw [h.name i hseen] at hbelongs
    rcases (s.serve (.get c k)).1 with e | _ | x
    · exact h.slip e
    · exact ⟨h.name, h.plain, h.there, h.listed⟩
    · exact h.meet hbelongs
  | create c ns object =>
    have hbelongs := (h.belongs_of_create hr).2.place
    rcases (s.serve (.create c ns object)).1 with e | x
    · cases e with
      | alreadyExists what => exact h.meet hbelongs
      | notFound | conflict | unavailable | invalid => exact h.slip _
    · exact h.meet hbelongs
  | list c ns selector =>
    obtain ⟨_, i, hseen, _, rfl, rfl⟩ := hr
    rw [h.name i hseen]
    rcases serve_cases s (.list c key.ns (componentSelector key.name channelComponent)) with
      ⟨e, faults, hserve⟩ | hserve
    · rw [hserve]
      cases c <;> exact h.slip e
    · rw [hserve]
      have hlisted : ∀ c' k, (c', k) ∈ (s.select c.kind key.ns
          (componentSelector key.name channelComponent)).map
            (fun o => (c, (⟨key.ns, c.kind.nameOf o⟩ : Key))) → c'.Belongs key k := by
        intro c' k hmem
        obtain ⟨o, ho, he⟩ := List.mem_map.1 hmem
        cases he
        exact own_listed hfiled htidy (h.plain i hseen) ho
      cases c <;> exact ⟨h.name, h.plain, h.there, hlisted⟩
  | delete c k =>
    rcases (s.serve (.delete c k)).1 with e | _
    · exact h.slip e
    · exact h
  | listRuns ns selector =>
    rcases (s.serve (.listRuns ns selector)).1 with e | _
    · exact h.slip e
    · exact h
  | patchFinalizers k version finalizers =>
    rcases (s.serve (.patchFinalizers k version finalizers)).1 with e | _
    · exact ⟨h.name, h.plain, h.there, h.listed⟩
    · simp only [Lore.learn]
      split
      · exact own_of_unseen key (fun _ hs => nomatch hs) rfl rfl
      · exact ⟨h.name, h.plain, h.there, h.listed⟩
  | patchStatus k version patch => exact ⟨h.name, h.plain, h.there, h.listed⟩

/-- A request of a pass makes nothing of the children of another Instance. -/
theorem Grants.find?_child (hr : Grants adapters key l r) (h : Own key l) {c : Child} {k : Key}
    (hk : ¬ c.Belongs key k) (s : Store) : (s.serve r).2.find? c.kind k = s.find? c.kind k := by
  have tended := tended_serve s r c k
  generalize (s.serve r).2.find? c.kind k = after at tended ⊢
  cases tended with
  | kept => rfl
  | created version o he hname hbefore =>
    subst he
    have hplace := (h.belongs_of_create hr).2.place
    rw [hname] at hplace
    exact absurd hplace hk
  | deleted he =>
    subst he
    exact absurd (h.belongs_of_delete hr) hk

/-- A request of a pass makes nothing of another Instance. -/
theorem Grants.find?_instance (hr : Grants adapters key l r) (h : Own key l) {k : Key}
    (hk : k ≠ key) (s : Store) : (s.serve r).2.find? .inst k = s.find? .inst k := by
  have own {k' : Key} {i : Instance} (hseen : l.sight = .seen i) (hk' : k' = ⟨key.ns, i.name⟩) :
      k' = key := by
    rw [hk', h.name i hseen]
  have handled := handled_serve s r k
  generalize (s.serve r).2.find? .inst k = after at handled ⊢
  cases handled with
  | kept => rfl
  | vanished version j he hj hdeleting =>
    subst he
    obtain ⟨_, i, hseen, hk', _⟩ := hr
    exact absurd (own hseen hk') hk
  | finalizers version given finalizers j he hj =>
    subst he
    obtain ⟨_, i, hseen, hk', _⟩ := hr
    exact absurd (own hseen hk') hk
  | status version given patch status j he hj =>
    subst he
    obtain ⟨_, i, hseen, hk', _⟩ := hr
    exact absurd (own hseen hk') hk

end Lore

end Pass

open Pass

/-! ## Flights -/

namespace Flight

variable {adapters : Config.Adapters} {mayCancel : Prop} {l : Lore} {f : Flight}

/-- What is left of a pass follows the protocol. -/
def Follows (adapters : Config.Adapters) (mayCancel : Prop) (l : Lore) (f : Flight) : Prop :=
  f.rest.Keeps (protocol adapters f.key mayCancel) l (Ends f.key mayCancel)

theorem follows_start (cfg : Config) (key : Key) (mayCancel : Prop) :
    Follows cfg.adapters mayCancel {} ⟨key, reconcile cfg key, false⟩ :=
  follows_reconcile cfg key mayCancel

/-- What a turn does: it asks something that is granted, or it leaves the store alone. -/
inductive Turned (adapters : Config.Adapters) (mayCancel : Prop) (l : Lore) (f : Flight)
    (s : Store) : Flight → Store → Prop where
  | quiet (f' : Flight) (hkey : f'.key = f.key) (h : Follows adapters mayCancel l f') :
      Turned adapters mayCancel l f s f' s
  | asked (r : Request) (next : r.Answer → Pass Pass.Error Action)
      (hrest : f.rest = .request r next) (hgrants : Lore.Grants adapters f.key l r)
      (h : Follows adapters mayCancel (l.learn r (s.serve r).1)
        { f with rest := next (s.serve r).1 }) :
      Turned adapters mayCancel l f s { f with rest := next (s.serve r).1 } (s.serve r).2

theorem Follows.turn (h : f.Follows adapters mayCancel l) (hc : f.cancelled = true → mayCancel)
    (s : Store) : Turned adapters mayCancel l f s (f.turn s).1 (f.turn s).2 := by
  obtain ⟨key, rest, cancelled⟩ := f
  cases rest with
  | done a => exact .quiet _ rfl h
  | fail e => exact .quiet _ rfl h
  | request r next => exact .asked r next rfl h.1 (h.2 _ _ rfl)
  | poll next => exact .quiet ⟨key, next cancelled, cancelled⟩ rfl (h cancelled hc)
  | publish e next => exact .quiet ⟨key, next, cancelled⟩ rfl h

/-- A pass that is over has ended as the protocol says. -/
theorem Follows.ends (h : f.Follows adapters mayCancel l) {result : Except Pass.Error Action}
    (hover : f.rest.outcome? = some result) : Ends f.key mayCancel result l := by
  obtain ⟨key, rest, cancelled⟩ := f
  cases rest <;> cases hover <;> exact h

end Flight

/-! ## Worlds -/

namespace World

variable {cfg : Config} {w : World}

/-- Others may do anything but create children. -/
def unreared : Law := fun _ m =>
  match m with
  | .operation o => ¬ o.Rears
  | .start _ | .turn _ | .cancel _ => True

instance (w : World) : (m : Move) → Decidable (unreared w m)
  | .operation o => inferInstanceAs (Decidable (¬ o.Rears))
  | .start _ | .turn _ | .cancel _ => isTrue trivial

/-- The store is filed and tidy, and all passes follow the protocol. -/
structure Followed (cfg : Config) (w : World) : Prop where
  filed : w.store.Filed
  tidy : w.store.Tidy
  follows : ∀ f ∈ w.flights, ∃ l, f.Follows cfg.adapters True l

theorem Followed.perform (h : Followed cfg w) {m : Move} (hm : unreared w m) :
    Followed cfg (w.perform cfg m) := by
  cases m with
  | operation o => exact ⟨h.filed.perform o, h.tidy.perform hm, h.follows⟩
  | start key =>
    refine ⟨h.filed, h.tidy, fun f hf => ?_⟩
    rcases List.mem_append.1 hf with hold | hnew
    · exact h.follows f hold
    · cases List.mem_singleton.1 hnew
      exact ⟨{}, Flight.follows_start cfg key True⟩
  | turn n =>
    simp only [World.perform]
    split
    · exact h
    · next f hf =>
      obtain ⟨l, hl⟩ := h.follows f (List.mem_of_getElem? hf)
      have turned := hl.turn (fun _ => trivial) w.store
      have others {f' : Flight} (hf' : ∃ l, f'.Follows cfg.adapters True l) :
          ∀ g ∈ w.flights.set n f', ∃ l, g.Follows cfg.adapters True l := by
        intro g hg
        rcases List.mem_or_eq_of_mem_set hg with hold | rfl
        · exact h.follows g hold
        · exact hf'
      generalize (f.turn w.store).1 = f', (f.turn w.store).2 = s' at turned
      cases turned with
      | quiet _ hkey hf' => exact ⟨h.filed, h.tidy, others ⟨l, hf'⟩⟩
      | asked r next hrest hgrants hf' =>
        exact ⟨h.filed.serve r, h.tidy.serve hgrants.isProper, others ⟨_, hf'⟩⟩
  | cancel n =>
    simp only [World.perform]
    split
    · exact h
    · next f hf =>
      refine ⟨h.filed, h.tidy, fun g hg => ?_⟩
      rcases List.mem_or_eq_of_mem_set hg with hold | rfl
      · exact h.follows g hold
      · exact h.follows f (List.mem_of_getElem? hf)

/-- In a world in which others create no children, all children are proper and all passes
follow the protocol. -/
theorem followed_run {moves : List Move} (lawful : Lawful unreared cfg {} moves) :
    Followed cfg (run cfg {} moves) :=
  lawful.invariant (fun _ _ h hm => h.perform hm) ⟨filed_empty, tidy_empty, fun _ h => nomatch h⟩

end World

end WorkloadOperator
