/-!
# Timing wheels

A timing wheel keeps items up to their times, which are counted in ticks.  It has
six levels of slots, 64 on each level.  A slot of the lowest level stands for one
tick, and a slot of every other level for a whole turn of the level below it.

An item is filed on the highest level on which its time and the time that the
wheel has come to are in different slots.  When the wheel comes to a slot, its
items move down a level, or leave if this is the lowest one.  A slot is a stack:
what was filed last is taken out first.  So each move turns the order of the items
of a slot around.

The wheel only turns to the times at which there is something to do.
-/

namespace WorkloadOperator

namespace Controller

/-- How many ticks a slot of a level stands for. -/
def slotWidth (level : Nat) : Nat := 1 <<< (6 * level)

/-- An item on a wheel. -/
structure Filed (α : Type) where
  level : Nat
  time : Nat
  item : α

namespace Filed

variable {α : Type}

/-- The number of a slot on a level at a time. -/
def slotAt (level time : Nat) : Nat := time / slotWidth level % 64

/-- The slot of an item on its level. -/
def slot (f : Filed α) : Nat := slotAt f.level f.time

/-- Whether two items are in the same slot. -/
def besides (f g : Filed α) : Bool := f.level = g.level && f.slot = g.slot

/-- The item on the next lower level. -/
def lower (f : Filed α) : Filed α := { f with level := f.level - 1 }

/-- All levels of some items together. -/
def height (fs : List (Filed α)) : Nat := (fs.map Filed.level).foldr (· + ·) 0

@[simp] theorem height_nil : height ([] : List (Filed α)) = 0 := rfl

@[simp] theorem height_cons (f : Filed α) (fs : List (Filed α)) :
    height (f :: fs) = f.level + height fs := rfl

@[simp] theorem height_append (fs gs : List (Filed α)) :
    height (fs ++ gs) = height fs + height gs := by
  induction fs with
  | nil => simp
  | cons f fs ih => simp [ih, Nat.add_assoc]

@[simp] theorem height_reverse (fs : List (Filed α)) : height fs.reverse = height fs := by
  induction fs with
  | nil => rfl
  | cons f fs ih => simp [ih, Nat.add_comm]

theorem height_filter (p : Filed α → Bool) (fs : List (Filed α)) :
    height (fs.filter p) + height (fs.filter fun f => !p f) = height fs := by
  induction fs with
  | nil => rfl
  | cons f fs ih => by_cases h : p f <;> simp [h] <;> omega

theorem height_map_lower_le (fs : List (Filed α)) : height (fs.map lower) ≤ height fs := by
  induction fs with
  | nil => exact Nat.le_refl _
  | cons f fs ih => simp only [List.map_cons, height_cons, lower]; omega

/-- Items that move down come to stand lower. -/
theorem height_map_lower_lt {fs : List (Filed α)} {f : Filed α} (h : f ∈ fs)
    (hl : f.level ≠ 0) : height (fs.map lower) < height fs := by
  induction fs with
  | nil => cases h
  | cons g gs ih =>
    simp only [List.map_cons, height_cons, lower]
    have := height_map_lower_le gs
    rcases List.mem_cons.1 h with rfl | h
    · omega
    · have := ih h
      omega

end Filed

/-- A timing wheel. -/
structure Wheel (α : Type) where
  /-- The time that the wheel has come to. -/
  reached : Nat := 0
  /-- The items, of which the last filed stands first. -/
  filed : List (Filed α) := []

namespace Wheel

variable {α : Type}

/-- How many ticks the wheel may be behind the time of an item. -/
def span : Nat := slotWidth 6 - 1

/-- The levels from the highest to the lowest. -/
def levels : List Nat := [5, 4, 3, 2, 1, 0]

/-- The level on which a time is filed. -/
def levelOf (reached time : Nat) : Nat :=
  (levels.find? fun l => reached / slotWidth l ≠ time / slotWidth l).getD 0

/-- File an item. -/
def file (w : Wheel α) (time : Nat) (item : α) : Wheel α :=
  { w with filed := ⟨levelOf w.reached time, time, item⟩ :: w.filed }

/-- How many slots the wheel is before the slot of an item. -/
def distance (w : Wheel α) (f : Filed α) : Nat :=
  (f.slot + 64 - Filed.slotAt f.level w.reached) % 64

/-- Of two items the one whose slot the wheel comes to first.  A lower level goes
before a higher one. -/
def sooner (w : Wheel α) (f g : Filed α) : Filed α :=
  if g.level < f.level ∨ (g.level = f.level ∧ w.distance g < w.distance f) then g else f

/-- An item of the slot that the wheel comes to next. -/
def next? (w : Wheel α) : Option (Filed α) :=
  match w.filed with
  | [] => none
  | f :: fs => some (fs.foldl w.sooner f)

theorem sooner_mem (w : Wheel α) {fs : List (Filed α)} {f g : Filed α} (hf : f ∈ fs)
    (hg : g ∈ fs) : w.sooner f g ∈ fs := by
  unfold sooner
  split
  · exact hg
  · exact hf

theorem mem_of_next? {w : Wheel α} {f : Filed α} (h : w.next? = some f) : f ∈ w.filed := by
  have key : ∀ (gs : List (Filed α)) (g : Filed α), g ∈ w.filed → (∀ x ∈ gs, x ∈ w.filed) →
      gs.foldl w.sooner g ∈ w.filed := by
    intro gs
    induction gs with
    | nil => exact fun g hg _ => hg
    | cons x xs ih =>
      exact fun g hg hx => ih _ (w.sooner_mem hg (hx x (List.mem_cons_self ..)))
        fun y hy => hx y (List.mem_cons_of_mem _ hy)
  unfold next? at h
  split at h
  · cases h
  · next f' fs hw =>
    cases h
    exact key fs f' (hw ▸ List.mem_cons_self ..) fun x hx => hw ▸ List.mem_cons_of_mem _ hx

/-- When the wheel comes to the slot of an item.  A slot that lies behind belongs
to the next turn. -/
def arrival (w : Wheel α) (f : Filed α) : Nat :=
  let turn := slotWidth (f.level + 1)
  let time := w.reached - w.reached % turn + f.slot * slotWidth f.level
  if time < w.reached then time + turn else time

/-- When the wheel comes to a slot with items. -/
def due? (w : Wheel α) : Option Nat := w.next?.map w.arrival

/-- Move the items in the slot of an item down a level. -/
def descend (w : Wheel α) (f : Filed α) : Wheel α where
  reached := w.arrival f
  filed := ((w.filed.filter f.besides).map Filed.lower).reverse ++
    w.filed.filter fun g => !f.besides g

theorem height_descend_lt {w : Wheel α} {f : Filed α} (h : f ∈ w.filed) (hl : f.level ≠ 0) :
    Filed.height (w.descend f).filed < Filed.height w.filed := by
  have hm : f ∈ w.filed.filter f.besides := List.mem_filter.2 ⟨h, by simp [Filed.besides]⟩
  have := Filed.height_map_lower_lt hm hl
  have := Filed.height_filter f.besides w.filed
  simp only [descend, Filed.height_append, Filed.height_reverse]
  omega

/-- The items without the first of those in the slot of an item. -/
def without (f : Filed α) : List (Filed α) → List (Filed α)
  | [] => []
  | g :: gs => if f.besides g then gs else g :: without f gs

/-- Turn the wheel up to a time or to the first item that leaves. -/
def turn (limit : Nat) (w : Wheel α) : Option α × Wheel α :=
  match _h : w.next? with
  | none => (none, { w with reached := max w.reached limit })
  | some f =>
    if limit < w.arrival f then (none, { w with reached := max w.reached limit })
    else if _hl : f.level = 0 then (some f.item, { w with filed := without f w.filed })
    else turn limit (w.descend f)
termination_by Filed.height w.filed
decreasing_by exact height_descend_lt (mem_of_next? _h) _hl

end Wheel

end Controller

end WorkloadOperator
