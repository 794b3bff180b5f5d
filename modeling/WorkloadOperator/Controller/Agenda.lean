import WorkloadOperator.Controller.Wheel

/-!
# Agendas

An agenda says what is to be done at which time.  It keeps its items on a timing
wheel, and an alarm says when the wheel is to be turned next.  An item is on the
agenda once at most: to put it there again moves it.

The wheel falls behind when it has nothing to do, and items are only taken that
are not too far ahead of it.  An item whose time the wheel has passed is overdue.
Of those the last goes first.
-/

namespace WorkloadOperator

namespace Controller

/-- What is to be done at which time. -/
structure Agenda (α : Type) where
  wheel : Wheel α := {}
  /-- The items whose time had passed when they were put here, the last one first. -/
  overdue : List α := []
  /-- When the wheel is to be turned next. -/
  alarm : Option Nat := none
  /-- The alarm that went off last. -/
  rung : Nat := 0

namespace Agenda

variable {α : Type} [DecidableEq α]

/-- Whether an item is on the agenda. -/
def holds (item : α) (a : Agenda α) : Bool :=
  a.overdue.contains item || a.wheel.filed.any (·.item = item)

/-- Take an item off the agenda. -/
def remove (item : α) (a : Agenda α) : Agenda α :=
  { a with
    overdue := a.overdue.filter (· ≠ item)
    wheel := { a.wheel with filed := a.wheel.filed.filter (·.item ≠ item) } }

/-- Put an item that is not there, without an alarm for it. -/
def enter? (item : α) (time : Nat) (a : Agenda α) : Option (Agenda α) :=
  if time ≤ a.wheel.reached then some { a with overdue := item :: a.overdue }
  else if Wheel.span < time - a.wheel.reached then none
  else some { a with wheel := a.wheel.file time item }

/-- Set the alarm for an item that is new at a time. -/
def ring (time : Nat) (a : Agenda α) : Agenda α :=
  let time := max time a.wheel.reached
  match a.alarm with
  | none => { a with alarm := some time }
  | some t => if time < max t a.wheel.reached then { a with alarm := some time } else a

/-- Set the alarm again for an item that was moved. -/
def ringAgain (a : Agenda α) : Agenda α :=
  match a.alarm, a.wheel.due? with
  | some _, some t => { a with alarm := some t }
  | _, _ => a

/-- Put an item on the agenda, or move it there.  Nothing can be put too far
ahead. -/
def put? (item : α) (time : Nat) (a : Agenda α) : Option (Agenda α) :=
  if a.holds item then ((a.remove item).enter? item time).map ringAgain
  else (a.enter? item time).map (ring time)

/-- Turn the wheel as often as the alarm has gone off by now, or up to the first
item that leaves. -/
def turn (now : Nat) (a : Agenda α) : Option α × Agenda α :=
  let rung := a.alarm.getD a.rung
  if now < rung then (none, a)
  else
    let (item, wheel) := a.wheel.turn rung
    let turned : Agenda α := { a with wheel, alarm := wheel.due?, rung }
    if item.isSome then (item, turned)
    else
      match _h : turned.alarm with
      | none => (none, turned)
      | some t => if rung < t ∧ t ≤ now then turn now turned else (none, turned)
termination_by now + 1 - a.alarm.getD a.rung
decreasing_by
  have h : wheel.due? = some t := _h
  rw [h, Option.getD_some]
  omega

/-- The next item that is due by now. -/
def take (now : Nat) (a : Agenda α) : Option α × Agenda α :=
  match a.overdue with
  | item :: overdue => (some item, { a with overdue })
  | [] => a.turn now

/-- How many items are on the agenda. -/
def size (a : Agenda α) : Nat := a.overdue.length + a.wheel.filed.length

/-- The first `n` items that are due by now, in the order in which they leave. -/
def takeUpTo (now : Nat) : (n : Nat) → Agenda α → List α × Agenda α
  | 0, a => ([], a)
  | n + 1, a =>
    match a.take now with
    | (none, a) => ([], a)
    | (some item, a) =>
      let (items, a) := takeUpTo now n a
      (item :: items, a)

/-- All items that are due by now, in the order in which they leave.  The wheel is
turned once more than there are items. -/
def takeDue (now : Nat) (a : Agenda α) : List α × Agenda α := a.takeUpTo now (a.size + 1)

end Agenda

end Controller

end WorkloadOperator
