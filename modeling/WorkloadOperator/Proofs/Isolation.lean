import WorkloadOperator.Proofs.Reflecting

/-!
# Passes for different Instances

A pass leaves alone what concerns other Instances (`Goes.turn`).  So the store beside another
pass reflects the store without it, and the pass is a twin of itself alone on that store
(`Trio.run`).  It comes out the same, and what concerns its Instance does as well
(`isolated`).
-/

namespace WorkloadOperator

open Naming Selector Store Pass

namespace Store

variable {s s' t : Store} {key : Key}

/-- A store of which a pass can rely on what it lists, and that meets no faults. -/
structure Steady (s : Store) : Prop where
  filed : s.Filed
  tidy : s.Tidy
  faultless : s.Faultless

theorem Steady.serve (h : s.Steady) {r : Request} (hr : r.IsProper) : (s.serve r).2.Steady where
  filed := h.filed.serve r
  tidy := h.tidy.serve hr
  faultless := by
    rw [serve_of_no_faults h.faultless]
    exact (faults_answer s r).trans h.faultless

/-- Whether an object is labelled for an Instance. -/
def labelledFor (key : Key) {κ : Kind} (o : κ.Object) : Bool :=
  (Resource.metadata o).label? instanceKey = some key.name

/-- What belongs to the Instance under a key is exactly what it was. -/
structure Spares (key : Key) (s s' : Store) : Prop where
  inst : s'.find? .inst key = s.find? .inst key
  labelled : ∀ (c : Child) (k : Key) (o : c.Object), k.ns = key.ns → labelledFor key o = true →
    (s'.find? c.kind k = some o ↔ s.find? c.kind k = some o)
  memory : s'.find? .configMap ⟨key.ns, memoryStore key.name⟩ =
    s.find? .configMap ⟨key.ns, memoryStore key.name⟩

/-- What belongs to the Instance under a key is the same in two stores, apart from what the
stores have given to objects. -/
structure Same (key : Key) (s t : Store) : Prop where
  inst : (s.find? .inst key).map Instance.unversioned = (t.find? .inst key).map Instance.unversioned
  labelled : ∀ (c : Child) (k : Key), k.ns = key.ns →
    ((s.find? c.kind k).filter (labelledFor key)).map (bare c.kind) =
      ((t.find? c.kind k).filter (labelledFor key)).map (bare c.kind)
  memory : (s.find? .configMap ⟨key.ns, memoryStore key.name⟩).map (bare .configMap) =
    (t.find? .configMap ⟨key.ns, memoryStore key.name⟩).map (bare .configMap)

theorem Tidy.belongs_of_labelledFor (h : s.Tidy) {c : Child} {k : Key} {o : c.Object}
    (ho : s.find? c.kind k = some o) (hns : k.ns = key.ns) (hlabel : labelledFor key o = true) :
    c.Belongs key k :=
  h.belongs ho hns (of_decide_eq_true hlabel)

theorem Leaves.spares (h : Leaves key s s') (hs : s.Tidy) (hs' : s'.Tidy) : Spares key s s' where
  inst := h.inst
  labelled c k o hns hlabel := by
    constructor
    · intro ho
      rw [← h.children c k (hs'.belongs_of_labelledFor ho hns hlabel)]
      exact ho
    · intro ho
      rw [h.children c k (hs.belongs_of_labelledFor ho hns hlabel)]
      exact ho
  memory := h.children .configMap _ ⟨rfl, rfl⟩

theorem labelledFor_bare (key : Key) {κ : Kind} (o : κ.Object) :
    labelledFor key (bare κ o) = labelledFor key o := by
  simp only [labelledFor, bare, Resource.metadata_withMetadata]
  rfl

theorem Reflects.same (h : Reflects key s t) (hs : s.Tidy) (ht : t.Tidy) : Same key s t where
  inst := h.inst
  labelled c k hns := by
    have labels (x : Option c.Object) : (x.filter (labelledFor key)).map (bare c.kind) =
        (x.map (bare c.kind)).filter (labelledFor key) := by
      rw [Option.filter_map]
      simp only [Function.comp_def, labelledFor_bare]
    by_cases hk : c.Belongs key k
    · rw [labels, labels, h.children c k hk]
    · have stray {s : Store} (hs : s.Tidy) :
          (s.find? c.kind k).filter (labelledFor key) = none := by
        refine Option.eq_none_iff_forall_ne_some.2 fun o ho => hk ?_
        obtain ⟨hfind, hlabel⟩ := Option.filter_eq_some_iff.1 ho
        exact hs.belongs_of_labelledFor hfind hns hlabel
      rw [stray hs, stray ht]
  memory := h.children .configMap _ ⟨rfl, rfl⟩

end Store

/-! ## What a pass has seen -/

namespace Pass.Lore

variable {adapters : Config.Adapters} {key : Key} {s s' : Store} {l l' : Lore} {r : Request}

/-- The Instance is what the pass has seen, unless the pass has patched it since. -/
def Current (s : Store) (key : Key) (l : Lore) : Prop :=
  ∀ i, l.sight = .seen i → l.patched = none → s.find? .inst key = some i

theorem Current.congr (h : l.Current s key) (hinst : s'.find? .inst key = s.find? .inst key)
    (hsight : l'.sight = l.sight) (hpatched : l'.patched = l.patched) : l'.Current s' key := by
  intro i hi hnone
  rw [hinst]
  exact h i (hsight ▸ hi) (hpatched ▸ hnone)

theorem current_of_unseen (hseen : l.sight = .unseen) : l.Current s key :=
  fun _ hi => nomatch hseen.symm.trans hi

theorem current_of_patched {answer : Except Store.Error Unit} (hpatched : l.patched = some answer) :
    l.Current s key :=
  fun _ _ hnone => nomatch hpatched.symm.trans hnone

/-- A pass that may patch the Instance that it has seen may patch what is stored. -/
theorem Current.stored (h : l.Current s key) (hown : l.Own key) {k : Key}
    {version : Option String} {P : Instance → Prop}
    (hgrants : l.patched = none ∧ ∃ i, l.sight = .seen i ∧ k = ⟨key.ns, i.name⟩ ∧
      version = i.metadata.resourceVersion ∧ P i) :
    k = key ∧ ∃ i, s.find? .inst key = some i ∧ version = i.metadata.resourceVersion := by
  obtain ⟨hnone, i, hseen, hk, hversion, _⟩ := hgrants
  rw [hown.name i hseen] at hk
  exact ⟨hk, i, h i hseen hnone, hversion⟩

theorem Current.learn (h : l.Current s key) (hr : Grants adapters key l r) :
    (l.learn r (s.serve r).1).Current (s.serve r).2 key := by
  have child {answer : r.Answer} (hkind : r.kind ≠ .inst)
      (hl : (l.learn r answer).sight = l.sight ∧ (l.learn r answer).patched = l.patched) :
      (l.learn r answer).Current (s.serve r).2 key :=
    h.congr (find?_serve_of_kind hkind) hl.1 hl.2
  cases r with
  | getInstance k =>
    obtain ⟨_, _, rfl⟩ := hr
    rcases serve_cases s (.getInstance k) with ⟨e, faults, hserve⟩ | hserve
    · rw [hserve]
      exact h.congr (find?_faults faults) rfl rfl
    · rw [hserve]
      intro i hi _
      have hanswer : (s.answer (.getInstance k)).1 = .ok (s.find? .inst k) := rfl
      rw [hanswer] at hi
      cases hfind : s.find? .inst k with
      | none => rw [hfind] at hi; cases hi
      | some j =>
        rw [hfind] at hi
        cases hi
        exact hfind
  | get c k =>
    refine child c.kind_ne_inst ?_
    rcases (s.serve (.get c k)).1 with e | _ | x <;> exact ⟨rfl, rfl⟩
  | create c ns o =>
    refine child c.kind_ne_inst ?_
    rcases (s.serve (.create c ns o)).1 with e | x
    · cases e <;> exact ⟨rfl, rfl⟩
    · exact ⟨rfl, rfl⟩
  | list c ns selector =>
    refine child c.kind_ne_inst ?_
    rcases (s.serve (.list c ns selector)).1 with e | os <;> cases c <;> exact ⟨rfl, rfl⟩
  | delete c k =>
    refine child c.kind_ne_inst ?_
    rcases (s.serve (.delete c k)).1 with e | _ <;> exact ⟨rfl, rfl⟩
  | listRuns ns selector =>
    refine child (show Kind.run ≠ Kind.inst by decide) ?_
    rcases (s.serve (.listRuns ns selector)).1 with e | _ <;> exact ⟨rfl, rfl⟩
  | patchFinalizers k version finalizers =>
    rcases (s.serve (.patchFinalizers k version finalizers)).1 with e | reply
    · exact current_of_patched rfl
    · simp only [Lore.learn]
      split
      · exact current_of_unseen rfl
      · exact current_of_patched rfl
  | patchStatus k version patch => exact current_of_patched rfl

end Pass.Lore

/-! ## Turns -/

namespace Flight

variable {adapters : Config.Adapters} {key key' : Key} {s s' t : Store} {f g : Flight} {l m : Lore}

/-- A pass for the Instance under a key that follows the protocol, and that knows what is its
own and how its Instance is. -/
structure Goes (adapters : Config.Adapters) (key : Key) (s : Store) (f : Flight) (l : Lore) :
    Prop where
  subject : f.key = key
  follows : f.Follows adapters True l
  own : l.Own key
  current : l.Current s key

theorem goes_start (cfg : Config) (key : Key) (s : Store) :
    Goes cfg.adapters key s ⟨key, reconcile cfg key, false⟩ {} :=
  ⟨rfl, follows_start cfg key True, Lore.own_initial key, Lore.current_of_unseen rfl⟩

theorem Goes.leave (h : f.Goes adapters key s l) (hs : Leaves key s s') :
    f.Goes adapters key s' l :=
  ⟨h.subject, h.follows, h.own, h.current.congr hs.inst rfl rfl⟩

theorem Goes.cancel (h : f.Goes adapters key s l) :
    Goes adapters key s { f with cancelled := true } l :=
  ⟨h.subject, h.follows, h.own, h.current⟩

/-- By a turn, a pass leaves alone what concerns other Instances. -/
theorem Goes.turn (h : f.Goes adapters key s l) (hs : s.Steady) (hplain : Plain key.name) :
    (f.turn s).2.Steady ∧ (∃ l', (f.turn s).1.Goes adapters key (f.turn s).2 l') ∧
      ∀ key', key' ≠ key → Leaves key' s (f.turn s).2 := by
  have turned := h.follows.turn (fun _ => trivial) s
  have hkey := (f.key_turn s).trans h.subject
  generalize (f.turn s).1 = f', (f.turn s).2 = s' at turned hkey ⊢
  cases turned with
  | quiet _ _ hf' =>
    exact ⟨hs, ⟨l, hkey, hf', h.own, h.current⟩, fun key' _ => .refl key' s⟩
  | asked r next hrest hgrants hf' =>
    rw [h.subject] at hgrants
    have hown := h.own.learn hs.filed hs.tidy (fun _ _ => hplain) hgrants
    refine ⟨hs.serve hgrants.isProper, ⟨_, hkey, hf', hown, h.current.learn hgrants⟩, ?_⟩
    intro key' hne
    exact {
      inst := hgrants.find?_instance h.own hne s
      children := fun c k hk => hgrants.find?_child h.own (fun hk' => hne (hk.unique hk')) s
      runs := runs_serve s r }

/-- Twins on stores that reflect each other take their turns alike. -/
theorem turn_twins (hs : s.Steady) (ht : t.Steady) (hplain : Plain key.name) (h : Reflects key s t)
    (hf : f.Goes adapters key s l) (hg : g.Goes adapters key t m) (htwins : Twins Eq f.rest g.rest)
    (hcancelled : f.cancelled = g.cancelled) :
    Reflects key (f.turn s).2 (g.turn t).2 ∧ Twins Eq (f.turn s).1.rest (g.turn t).1.rest := by
  obtain ⟨key, rest, cancelled⟩ := f
  obtain ⟨key', rest', cancelled'⟩ := g
  obtain rfl := hf.subject
  obtain rfl := hg.subject
  cases htwins with
  | done hsame => exact ⟨h, .done hsame⟩
  | fail e => exact ⟨h, .fail e⟩
  | poll hnext =>
    cases hcancelled
    exact ⟨h, hnext cancelled⟩
  | publish e e' hrest => exact ⟨h, hrest⟩
  | @request r hr next next' hnext =>
    obtain ⟨hboth, hreflects⟩ := h.answer hs.tidy ht.tidy hplain hf.follows.1 hf.own hr
    rw [← serve_of_no_faults hs.faultless, ← serve_of_no_faults ht.faultless] at hboth hreflects
    exact ⟨hreflects, hnext _ _ hboth⟩
  | @finalizers k version version' finalizers next next' hnext =>
    obtain ⟨rfl, i, hi, rfl⟩ := hf.current.stored hf.own hf.follows.1
    obtain ⟨_, j, hj, rfl⟩ := hg.current.stored hg.own hg.follows.1
    obtain ⟨hsame, hreflects⟩ := h.finalizers hi hj finalizers
    rw [← serve_of_no_faults hs.faultless, ← serve_of_no_faults ht.faultless] at hsame hreflects
    exact ⟨hreflects, Eq.subst (motive := fun x => Twins Eq _ (next' x)) hsame (hnext _)⟩
  | @status k version version' patch next next' hnext =>
    obtain ⟨rfl, i, hi, rfl⟩ := hf.current.stored hf.own hf.follows.1
    obtain ⟨_, j, hj, rfl⟩ := hg.current.stored hg.own hg.follows.1
    obtain ⟨hsame, hreflects⟩ := h.status hi hj patch
    rw [← serve_of_no_faults hs.faultless, ← serve_of_no_faults ht.faultless] at hsame hreflects
    exact ⟨hreflects, Eq.subst (motive := fun x => Twins Eq _ (next' x)) hsame (hnext _)⟩

end Flight

/-! ## Beside each other, and alone -/

/-- A move by which passes go on, or are cancelled. -/
def Move.Continues : Move → Prop
  | .turn _ | .cancel _ => True
  | .operation _ | .start _ => False

instance : (m : Move) → Decidable m.Continues
  | .turn _ | .cancel _ => isTrue trivial
  | .operation _ | .start _ => isFalse id

/-- Whether a move is one of the pass that was the first to start. -/
def Move.isOfFirst : Move → Bool
  | .turn n | .cancel n => n = 0
  | .operation _ | .start _ => false

/-- Two passes for different Instances on one store, and the first of them alone on
another store. -/
structure Trio (adapters : Config.Adapters) (a b : Key) (s t : Store) (f g f' : Flight) : Prop where
  steady : s.Steady
  steady' : t.Steady
  first : ∃ l, f.Goes adapters a s l
  second : ∃ l, g.Goes adapters b s l
  alone : ∃ l, f'.Goes adapters a t l
  reflects : Reflects a s t
  twins : Twins Eq f.rest f'.rest
  cancelled : f.cancelled = f'.cancelled

namespace Trio

variable {adapters : Config.Adapters} {a b : Key} {s t : Store} {f g f' : Flight} {cfg : Config}

theorem turn_first (h : Trio adapters a b s t f g f') (hab : a ≠ b) (ha : Plain a.name) :
    Trio adapters a b (f.turn s).2 (f'.turn t).2 (f.turn s).1 g (f'.turn t).1 := by
  obtain ⟨l, hf⟩ := h.first
  obtain ⟨m, hg⟩ := h.second
  obtain ⟨l', hf'⟩ := h.alone
  obtain ⟨steady, first, leaves⟩ := hf.turn h.steady ha
  obtain ⟨steady', alone, _⟩ := hf'.turn h.steady' ha
  obtain ⟨hreflects, htwins⟩ :=
    Flight.turn_twins h.steady h.steady' ha h.reflects hf hf' h.twins h.cancelled
  refine ⟨steady, steady', first, ⟨m, hg.leave (leaves b hab.symm)⟩, alone, hreflects, htwins, ?_⟩
  rw [Flight.cancelled_turn, Flight.cancelled_turn, h.cancelled]

theorem turn_second (h : Trio adapters a b s t f g f') (hab : a ≠ b) (hb : Plain b.name) :
    Trio adapters a b (g.turn s).2 t f (g.turn s).1 f' := by
  obtain ⟨l, hf⟩ := h.first
  obtain ⟨m, hg⟩ := h.second
  obtain ⟨steady, second, leaves⟩ := hg.turn h.steady hb
  exact { h with
    steady := steady
    first := ⟨l, hf.leave (leaves a hab)⟩
    second := second
    reflects := h.reflects.leave (leaves a hab) }

theorem cancel_first (h : Trio adapters a b s t f g f') :
    Trio adapters a b s t { f with cancelled := true } g { f' with cancelled := true } := by
  obtain ⟨l, hf⟩ := h.first
  obtain ⟨l', hf'⟩ := h.alone
  exact { h with first := ⟨l, hf.cancel⟩, alone := ⟨l', hf'.cancel⟩, cancelled := rfl }

theorem cancel_second (h : Trio adapters a b s t f g f') :
    Trio adapters a b s t f { g with cancelled := true } f' := by
  obtain ⟨m, hg⟩ := h.second
  exact { h with second := ⟨m, hg.cancel⟩ }

/-- The first pass goes the same way beside the second one as alone. -/
theorem run (h : Trio cfg.adapters a b s t f g f') (hab : a ≠ b) (ha : Plain a.name)
    (hb : Plain b.name) {moves : List Move} (hmoves : ∀ m ∈ moves, m.Continues) :
    ∃ s₁ t₁ f₁ g₁ f₁', World.run cfg ⟨s, [f, g]⟩ moves = ⟨s₁, [f₁, g₁]⟩ ∧
      World.run cfg ⟨t, [f']⟩ (moves.filter Move.isOfFirst) = ⟨t₁, [f₁']⟩ ∧
      Trio cfg.adapters a b s₁ t₁ f₁ g₁ f₁' := by
  induction moves generalizing s t f g f' with
  | nil => exact ⟨s, t, f, g, f', rfl, rfl, h⟩
  | cons m moves ih =>
    have hrest : ∀ m ∈ moves, m.Continues := fun m hm => hmoves m (List.mem_cons_of_mem _ hm)
    cases m with
    | operation o => exact absurd (hmoves _ List.mem_cons_self) id
    | start key => exact absurd (hmoves _ List.mem_cons_self) id
    | turn n =>
      match n with
      | 0 => exact ih (h.turn_first hab ha) hrest
      | 1 => exact ih (h.turn_second hab hb) hrest
      | n + 2 => exact ih h hrest
    | cancel n =>
      match n with
      | 0 => exact ih h.cancel_first hrest
      | 1 => exact ih h.cancel_second hrest
      | n + 2 => exact ih h hrest

theorem start (cfg : Config) (a b : Key) (hs : s.Steady) :
    Trio cfg.adapters a b s s ⟨a, reconcile cfg a, false⟩ ⟨b, reconcile cfg b, false⟩
      ⟨a, reconcile cfg a, false⟩ :=
  ⟨hs, hs, ⟨{}, Flight.goes_start cfg a s⟩, ⟨{}, Flight.goes_start cfg b s⟩,
    ⟨{}, Flight.goes_start cfg a s⟩, .refl a s, twins_reconcile cfg a, rfl⟩

end Trio

namespace World

variable {cfg : Config} {a b : Key} {s : Store}

/-- The world in which passes for two Instances have started on a store, after moves. -/
def together (cfg : Config) (a b : Key) (s : Store) (moves : List Move) : World :=
  run cfg ⟨s, []⟩ (.start a :: .start b :: moves)

/-- The world in which a pass for one Instance has made its own moves only. -/
def alone (cfg : Config) (a : Key) (s : Store) (moves : List Move) : World :=
  run cfg ⟨s, []⟩ (.start a :: moves.filter Move.isOfFirst)

/-- The first of two passes makes nothing of what belongs to the Instance of the second one, and
it comes out as without the second one. -/
structure Isolated (cfg : Config) (a b : Key) (s : Store) (moves : List Move) : Prop where
  spares : ∀ before, before ++ [.turn 0] <+: moves →
    Spares b (together cfg a b s before).store (together cfg a b s (before ++ [.turn 0])).store
  outcome : (together cfg a b s moves).flights[0]?.map (fun f => f.rest.outcome?) =
    (alone cfg a s moves).flights[0]?.map (fun f => f.rest.outcome?)
  same : Same a (together cfg a b s moves).store (alone cfg a s moves).store

/-- Two passes at different points of the same schedule are a trio with the first one alone. -/
theorem trio_of_moves (hs : s.Steady) (hab : a ≠ b) (ha : Plain a.name) (hb : Plain b.name)
    {moves : List Move} (hmoves : ∀ m ∈ moves, m.Continues) :
    ∃ s₁ t₁ f g f', together cfg a b s moves = ⟨s₁, [f, g]⟩ ∧ alone cfg a s moves = ⟨t₁, [f']⟩ ∧
      Trio cfg.adapters a b s₁ t₁ f g f' :=
  (Trio.start cfg a b hs).run hab ha hb hmoves

theorem together_append (before moves : List Move) :
    together cfg a b s (before ++ moves) = run cfg (together cfg a b s before) moves := by
  simp only [together, run, List.foldl_cons, List.foldl_append]

/-- In every world in which others create no children, passes for different Instances do not
interfere with each other, if the names of the Instances can stand in a selector and no faults
wait. -/
theorem isolated {history : List Move} (lawful : Lawful unreared cfg {} history)
    (hfaultless : (run cfg {} history).store.Faultless) (hab : a ≠ b) (ha : Plain a.name)
    (hb : Plain b.name) {moves : List Move} (hmoves : ∀ m ∈ moves, m.Continues) :
    Isolated cfg a b (run cfg {} history).store moves := by
  have followed := followed_run lawful
  have hs : (run cfg {} history).store.Steady := ⟨followed.filed, followed.tidy, hfaultless⟩
  generalize (run cfg {} history).store = s at hs
  obtain ⟨s₁, t₁, f, g, f', htogether, halone, trio⟩ := trio_of_moves hs hab ha hb hmoves
  refine ⟨fun before hbefore => ?_, ?_, ?_⟩
  · have hearlier : ∀ m ∈ before, m.Continues := fun m hm =>
      hmoves m (hbefore.subset (List.mem_append_left _ hm))
    obtain ⟨s₂, t₂, f₂, g₂, f₂', hbefore', _, trio₂⟩ := trio_of_moves hs hab ha hb hearlier
    obtain ⟨l, hf₂⟩ := trio₂.first
    obtain ⟨steady, _, leaves⟩ := hf₂.turn trio₂.steady ha
    rw [together_append, hbefore']
    exact (leaves b hab.symm).spares trio₂.steady.tidy steady.tidy
  · rw [htogether, halone]
    exact congrArg some trio.twins.outcome?_eq
  · rw [htogether, halone]
    exact trio.reflects.same trio.steady.tidy trio.steady'.tidy

/-- An Instance is served, and is to be deleted then.  Another one is named like the beginning
of its workload. -/
def namesakes : List Move :=
  [.operation (.insertInstance {
      metadata := { name := some "bot", ns := some "tenant" }
      spec := {
        channels := [{ channel := .slack }, { channel := .whatsapp }]
        memory := some { enabled := true } } }),
    .operation (.insertInstance {
      metadata := { name := some "bot-channel-slack", ns := some "tenant" }
      spec := { channels := [{ channel := .whatsapp }], memory := some { enabled := true } } }),
    .start ⟨"tenant", "bot"⟩] ++ List.replicate 24 (.turn 0) ++
  [.operation (.requestDeletion ⟨"tenant", "bot"⟩)]

/-- The one is torn down while the other one is served for the first time. -/
theorem isolated_of_namesakes :
    let a : Key := ⟨"tenant", "bot"⟩
    let b : Key := ⟨"tenant", "bot-channel-slack"⟩
    let s := (run {} {} namesakes).store
    let moves := (List.replicate 20 [Move.turn 0, Move.turn 1]).flatten
    Lawful unreared {} {} namesakes ∧ s.Faultless ∧ a ≠ b ∧ Plain a.name ∧ Plain b.name ∧
      (∀ m ∈ moves, m.Continues) ∧ (∀ f ∈ (together {} a b s moves).flights, f.IsOver) ∧
      Isolated {} a b s moves := by
  intro a b s moves
  have lawful : Lawful unreared {} {} namesakes := by decide +kernel
  have hfaultless : s.Faultless := by decide +kernel
  have hab : a ≠ b := by decide
  have ha : Plain a.name := by decide
  have hb : Plain b.name := by decide
  have hmoves : ∀ m ∈ moves, m.Continues := by decide
  have ended : ∀ f ∈ (together {} a b s moves).flights, f.IsOver := by decide +kernel
  exact ⟨lawful, hfaultless, hab, ha, hb, hmoves, ended,
    isolated lawful hfaultless hab ha hb hmoves⟩

end World

end WorkloadOperator
