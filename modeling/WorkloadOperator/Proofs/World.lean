import Mathlib.Logic.Hydra
import WorkloadOperator.Pass.Reconcile
import WorkloadOperator.Pass.Step
import WorkloadOperator.Store.Operation

/-!
# Passes among others

A world is a store with the passes that were started on it.  A move of the world
is something that happens to the store, the start of a pass, one step of a pass,
or the cancellation of a pass.  So a list of moves is an interleaving of passes
with each other and with all others who use the store, request by request.

A law says which moves may be made in which world, and `Lawful` that all moves of
a run are lawful.  `Lawful.invariant` is the induction over lawful runs.  A world
is `Exclusive` if no two passes are under way for the same Instance.

However passes take turns, all of them come to an end (`turns_end`).
-/

namespace WorkloadOperator

/-- A pass that was started for the Instance under a key. -/
structure Flight where
  key : Key
  /-- What is left of the pass. -/
  rest : Pass Pass.Error Action
  /-- Whether the pass was cancelled. -/
  cancelled : Bool := false

namespace Flight

/-- Whether the pass is over. -/
def IsOver (f : Flight) : Prop := f.rest.outcome?.isSome = true

instance (f : Flight) : Decidable f.IsOver := inferInstanceAs (Decidable (_ = true))

/-- One step of a pass: a request with its answer, a look at the cancellation, or an
event. -/
def turn (f : Flight) (s : Store) : Flight × Store :=
  match f.rest with
  | .done _ | .fail _ => (f, s)
  | .request r next =>
    let (answer, s) := s.serve r
    ({ f with rest := next answer }, s)
  | .poll next => ({ f with rest := next f.cancelled }, s)
  | .publish _ next => ({ f with rest := next }, s)

@[simp] theorem key_turn (f : Flight) (s : Store) : (f.turn s).1.key = f.key := by
  unfold turn
  split <;> rfl

@[simp] theorem cancelled_turn (f : Flight) (s : Store) :
    (f.turn s).1.cancelled = f.cancelled := by
  unfold turn
  split <;> rfl

/-- A pass that is over does nothing. -/
theorem turn_of_isOver {f : Flight} (h : f.IsOver) (s : Store) : f.turn s = (f, s) := by
  obtain ⟨key, rest, cancelled⟩ := f
  cases rest with
  | done a => rfl
  | fail e => rfl
  | request r next => cases h
  | poll next => cases h
  | publish e next => cases h

/-- A pass that is not over goes on by a turn. -/
theorem follows_turn {f : Flight} (h : ¬ f.IsOver) (s : Store) :
    Pass.Follows (f.turn s).1.rest f.rest := by
  obtain ⟨key, rest, cancelled⟩ := f
  cases rest with
  | done a => exact absurd rfl h
  | fail e => exact absurd rfl h
  | request r next => exact .request r next _
  | poll next => exact .poll next _
  | publish e next => exact .publish e next

end Flight

/-- A store with the passes that were started on it, in the order of their starts. -/
structure World where
  store : Store := {}
  flights : List Flight := []

/-- A move of the world. -/
inductive Move where
  /-- Something happens to the store. -/
  | operation (o : Operation)
  /-- A pass starts for the Instance under a key. -/
  | start (key : Key)
  /-- A pass takes one step. -/
  | turn (n : Nat)
  /-- A pass is cancelled. -/
  | cancel (n : Nat)

namespace World

variable {cfg : Config} {w : World}

/-- The world after a move. -/
def perform (cfg : Config) (w : World) : Move → World
  | .operation o => { w with store := w.store.perform o }
  | .start key => { w with flights := w.flights ++ [⟨key, Pass.reconcile cfg key, false⟩] }
  | .turn n =>
    match w.flights[n]? with
    | none => w
    | some f => ⟨(f.turn w.store).2, w.flights.set n (f.turn w.store).1⟩
  | .cancel n =>
    match w.flights[n]? with
    | none => w
    | some f => { w with flights := w.flights.set n { f with cancelled := true } }

/-- The world after moves in turn. -/
def run (cfg : Config) (w : World) (moves : List Move) : World := moves.foldl (perform cfg) w

/-- Which moves may be made in which world. -/
abbrev Law := World → Move → Prop

/-- All moves are lawful, one after the other. -/
def Lawful (law : Law) (cfg : Config) : World → List Move → Prop
  | _, [] => True
  | w, m :: moves => law w m ∧ Lawful law cfg (w.perform cfg m) moves

instance decidableLawful (law : Law) [∀ w m, Decidable (law w m)] (cfg : Config) :
    (w : World) → (moves : List Move) → Decidable (Lawful law cfg w moves)
  | _, [] => isTrue trivial
  | w, m :: moves =>
    have := decidableLawful law cfg (w.perform cfg m) moves
    inferInstanceAs (Decidable (_ ∧ _))

/-- What every lawful move keeps holds after a lawful run. -/
theorem Lawful.invariant {law : Law} {inv : World → Prop}
    (step : ∀ w m, inv w → law w m → inv (w.perform cfg m)) {moves : List Move}
    (h : inv w) (lawful : Lawful law cfg w moves) : inv (w.run cfg moves) := by
  induction moves generalizing w with
  | nil => exact h
  | cons m moves ih => exact ih (step w m h lawful.1) lawful.2

/-! ## Turns -/

/-- The world after so many turns of passes by a schedule. -/
def turns (cfg : Config) (w : World) (schedule : Nat → Nat) : Nat → World
  | 0 => w
  | m + 1 => (w.turns cfg schedule m).perform cfg (.turn (schedule m))

/-- What is left of all passes. -/
def rests (w : World) : Multiset (Pass Pass.Error Action) := (w.flights.map Flight.rest : List _)

/-- By a turn, what is left of one pass becomes less, and the others stay as they are. -/
theorem cutExpand_turn {n : Nat} {f : Flight} (hf : w.flights[n]? = some f) (hover : ¬ f.IsOver) :
    Relation.CutExpand Pass.Follows (w.perform cfg (.turn n)).rests w.rests := by
  obtain ⟨before, after, hflights, hset⟩ : ∃ before after, w.flights = before ++ f :: after ∧
      ∀ g, w.flights.set n g = before ++ g :: after := by
    obtain ⟨hn, rfl⟩ := List.getElem?_eq_some_iff.1 hf
    refine ⟨w.flights.take n, w.flights.drop (n + 1), ?_, fun g => ?_⟩
    · rw [← List.drop_eq_getElem_cons hn, List.take_append_drop]
    · rw [List.set_eq_take_append_cons_drop, if_pos hn]
  have hbefore :
      w.rests = f.rest ::ₘ (before.map Flight.rest ++ after.map Flight.rest : List _) := by
    rw [rests, hflights, List.map_append, List.map_cons, Multiset.cons_coe]
    exact Multiset.coe_eq_coe.2 List.perm_middle
  have hafter : (w.perform cfg (.turn n)).rests = (f.turn w.store).1.rest ::ₘ
      (before.map Flight.rest ++ after.map Flight.rest : List _) := by
    simp only [perform, hf, rests]
    rw [hset, List.map_append, List.map_cons, Multiset.cons_coe]
    exact Multiset.coe_eq_coe.2 List.perm_middle
  rw [hbefore, hafter, ← Multiset.singleton_add, ← Multiset.singleton_add]
  exact Relation.cutExpand_single_add (Flight.follows_turn hover w.store) _

/-- However passes take turns, it comes to the turn of a pass that is over. -/
theorem turns_end (cfg : Config) (w : World) (schedule : Nat → Nat) :
    ∃ m, ∀ f, (w.turns cfg schedule m).flights[schedule m]? = some f → f.IsOver := by
  have wf : IsWellFounded (Multiset (Pass Pass.Error Action)) (Relation.CutExpand Pass.Follows) :=
    ⟨Pass.follows_wf.cutExpand⟩
  obtain ⟨m, hm⟩ := WellFounded.not_rel_apply_succ (h := wf) fun m => (w.turns cfg schedule m).rests
  exact ⟨m, fun f hf => Classical.not_not.1 fun hover => hm (cutExpand_turn hf hover)⟩

/-! ## One pass at a time -/

/-- No pass is under way for the Instance under a key. -/
def Idle (w : World) (key : Key) : Prop := ∀ f ∈ w.flights, f.key = key → f.IsOver

instance (w : World) (key : Key) : Decidable (w.Idle key) :=
  inferInstanceAs (Decidable (∀ f ∈ w.flights, f.key = key → f.IsOver))

/-- No two passes are under way for one Instance. -/
def Exclusive (w : World) : Prop :=
  ∀ (m n : Nat) (f g : Flight), w.flights[m]? = some f → w.flights[n]? = some g → f.key = g.key →
    ¬ f.IsOver → ¬ g.IsOver → m = n

/-- Passes may go on, and may end, one by one. -/
theorem Exclusive.set (h : w.Exclusive) {n : Nat} {f f' : Flight} (hf : w.flights[n]? = some f)
    (hkey : f'.key = f.key) (hover : f.IsOver → f'.IsOver) (s : Store) :
    Exclusive ⟨s, w.flights.set n f'⟩ := by
  -- a pass of the new list is one of the old list, and no more under way than that one
  have old : ∀ (m : Nat) (g : Flight), (w.flights.set n f')[m]? = some g →
      ∃ g₀, w.flights[m]? = some g₀ ∧ g.key = g₀.key ∧ (g₀.IsOver → g.IsOver) := by
    intro m g hg
    rw [List.getElem?_set] at hg
    split at hg
    · next hnm =>
      subst hnm
      split at hg
      · cases hg
        exact ⟨f, hf, hkey, hover⟩
      · cases hg
    · exact ⟨g, hg, rfl, id⟩
  intro m m' g g' hg hg' hkeys hgoing hgoing'
  obtain ⟨g₀, hg₀, hk, ho⟩ := old m g hg
  obtain ⟨g₀', hg₀', hk', ho'⟩ := old m' g' hg'
  exact h m m' g₀ g₀' hg₀ hg₀' (hk ▸ hk' ▸ hkeys) (fun o => hgoing (ho o))
    (fun o => hgoing' (ho' o))

theorem Exclusive.start (h : w.Exclusive) {f : Flight} (hidle : w.Idle f.key) :
    Exclusive { w with flights := w.flights ++ [f] } := by
  have cases' : ∀ m g, (w.flights ++ [f])[m]? = some g →
      w.flights[m]? = some g ∨ (m = w.flights.length ∧ g = f) := by
    intro m g hg
    rw [List.getElem?_append] at hg
    split at hg
    · exact .inl hg
    · next hlt =>
      rw [List.getElem?_singleton] at hg
      split at hg
      · next hm => exact .inr ⟨by omega, (Option.some.inj hg).symm⟩
      · cases hg
  intro m n g g' hg hg' hkeys hgoing hgoing'
  rcases cases' m g hg with hm | ⟨rfl, rfl⟩ <;> rcases cases' n g' hg' with hn | ⟨rfl, rfl⟩
  · exact h m n g g' hm hn hkeys hgoing hgoing'
  · exact absurd (hidle g (List.mem_of_getElem? hm) hkeys) hgoing
  · exact absurd (hidle g' (List.mem_of_getElem? hn) hkeys.symm) hgoing'
  · rfl

/-! ## Rules -/

/-- What may happen in a world in which no two passes are under way for one Instance. -/
structure Rules where
  /-- What others may do to a store. -/
  operation : Store → Operation → Prop
  /-- For which Instances passes may start. -/
  start : Key → Prop := fun _ => True
  /-- Which passes may take a step. -/
  turn : Store → Flight → Prop := fun _ _ => True

namespace Rules

/-- The law that rules make. -/
def law (rules : Rules) : Law := fun w m =>
  match m with
  | .operation o => rules.operation w.store o
  | .start key => rules.start key ∧ w.Idle key
  | .turn n => ∀ f ∈ w.flights[n]?, rules.turn w.store f
  | .cancel _ => True

instance (rules : Rules) [∀ s o, Decidable (rules.operation s o)]
    [∀ key, Decidable (rules.start key)] [∀ s f, Decidable (rules.turn s f)] (w : World) :
    (m : Move) → Decidable (rules.law w m)
  | .operation o => inferInstanceAs (Decidable (rules.operation w.store o))
  | .start key => inferInstanceAs (Decidable (rules.start key ∧ w.Idle key))
  | .turn n => inferInstanceAs (Decidable (∀ f ∈ w.flights[n]?, rules.turn w.store f))
  | .cancel _ => isTrue trivial

/-- Under these rules every store is sound, and what is said of the passes under way
is true, if that is so in the beginning. -/
structure Upkeep (rules : Rules) (cfg : Config) (sound : Store → Prop)
    (informed : Store → Flight → Prop) : Prop where
  operation : ∀ s o, sound s → rules.operation s o →
    sound (s.perform o) ∧ ∀ f, informed s f → informed (s.perform o) f
  start : ∀ s key, sound s → rules.start key → informed s ⟨key, Pass.reconcile cfg key, false⟩
  cancel : ∀ s f, informed s f → informed s { f with cancelled := true }
  finished : ∀ s f, f.IsOver → informed s f
  /-- The other passes under way are for other Instances. -/
  turn : ∀ s f, sound s → informed s f → rules.turn s f →
    sound (f.turn s).2 ∧ informed (f.turn s).2 (f.turn s).1 ∧
      ∀ g, g.key ≠ f.key → informed s g → informed (f.turn s).2 g

/-- A world with a sound store, in which what is said of the passes is true. -/
structure Kept (sound : Store → Prop) (informed : Store → Flight → Prop) (w : World) : Prop where
  sound : sound w.store
  exclusive : w.Exclusive
  informed : ∀ (n : Nat) (f : Flight), w.flights[n]? = some f → informed w.store f

variable {rules : Rules} {sound : Store → Prop} {informed : Store → Flight → Prop}

theorem Upkeep.turn_kept (h : Upkeep rules cfg sound informed) {n : Nat} {f : Flight}
    (hf : w.flights[n]? = some f) (hturn : rules.turn w.store f) (kept : Kept sound informed w) :
    Kept sound informed ⟨(f.turn w.store).2, w.flights.set n (f.turn w.store).1⟩ := by
  obtain ⟨hsound, hinformed, hothers⟩ := h.turn w.store f kept.sound (kept.informed n f hf) hturn
  have hover : f.IsOver → (f.turn w.store).1.IsOver := fun ho => by
    rw [f.turn_of_isOver ho]
    exact ho
  refine ⟨hsound, kept.exclusive.set hf (f.key_turn _) hover _, ?_⟩
  intro m g hg
  rw [List.getElem?_set] at hg
  split at hg
  · split at hg
    · cases hg
      exact hinformed
    · cases hg
  · next hne =>
    by_cases hgo : g.IsOver
    · exact h.finished _ g hgo
    · by_cases hfo : f.IsOver
      · rw [f.turn_of_isOver hfo]
        exact kept.informed m g hg
      · refine hothers g (fun hkey => hne ?_) (kept.informed m g hg)
        exact kept.exclusive n m f g hf hg hkey.symm hfo hgo

theorem Upkeep.perform (h : Upkeep rules cfg sound informed) {m : Move} (hm : rules.law w m)
    (kept : Kept sound informed w) : Kept sound informed (w.perform cfg m) := by
  cases m with
  | operation o =>
    obtain ⟨hsound, hinformed⟩ := h.operation w.store o kept.sound hm
    exact ⟨hsound, kept.exclusive, fun n f hf => hinformed f (kept.informed n f hf)⟩
  | start key =>
    obtain ⟨hstart, hidle⟩ := hm
    refine ⟨kept.sound, kept.exclusive.start hidle, ?_⟩
    intro n f hf
    rcases List.mem_append.1 (List.mem_of_getElem? hf) with hold | hnew
    · obtain ⟨m, hm⟩ := List.getElem?_of_mem hold
      exact kept.informed m f hm
    · cases List.mem_singleton.1 hnew
      exact h.start w.store key kept.sound hstart
  | turn n =>
    simp only [World.perform]
    split
    · exact kept
    · next f hf => exact h.turn_kept hf (hm f hf) kept
  | cancel n =>
    simp only [World.perform]
    split
    · exact kept
    · next f hf =>
      have hcancelled := h.cancel w.store f (kept.informed n f hf)
      have hexclusive : Exclusive ⟨w.store, w.flights.set n { f with cancelled := true }⟩ := by
        refine kept.exclusive.set hf ?_ ?_ w.store
        · rfl
        · exact id
      refine ⟨kept.sound, hexclusive, ?_⟩
      intro m g hg
      rcases List.mem_or_eq_of_mem_set (List.mem_of_getElem? hg) with hold | rfl
      · obtain ⟨m, hm⟩ := List.getElem?_of_mem hold
        exact kept.informed m g hm
      · exact hcancelled

/-- What the rules keep up holds after every run that obeys them, from a store on which
no pass was started yet. -/
theorem Upkeep.run (h : Upkeep rules cfg sound informed) {s : Store} (hs : sound s)
    {moves : List Move} (lawful : Lawful rules.law cfg ⟨s, []⟩ moves) :
    Kept sound informed (run cfg ⟨s, []⟩ moves) := by
  refine lawful.invariant (fun w m kept hm => h.perform hm kept) ⟨hs, ?_, ?_⟩
  · intro m n f g hf
    cases hf
  · intro n f hf
    cases hf

end Rules

end World

end WorkloadOperator
