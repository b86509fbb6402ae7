import Logid.Backend.EventHandlerList
import Mathlib.Logic.Function.Basic

/-!
# Owners of event handlers

Rendering of `EventHandlerLock` (`backend/EventHandlerList.h:89-136`). The list outlives the locks here;
without it they do nothing.
-/

namespace Logid.Backend.EventHandlerLock

/-- A list, and the objects that hold iterators of it. -/
structure State where
  list : EventHandlerList.State := {}
  /-- `_iterator` of each object, `none` where `_list` is null or there is no object. -/
  locks : Nat → Option Nat := fun _ => none

inductive Op where
  /-- A lock is made of what `add` returns, as in `addEventHandler`. -/
  | addEventHandler (lock : Nat)
  | moveConstruct (lock other : Nat)
  | moveAssign (lock other : Nat)
  | destroy (lock : Nat)
  /-- The steps of the runs. -/
  | run (op : EventHandlerList.Op)
  deriving DecidableEq, Repr

/-- `list->remove(_iterator)` where the lock is not empty. -/
def State.release (s : State) (lock : Nat) : Option EventHandlerList.State :=
  match s.locks lock with
  | some it => EventHandlerList.step s.list (.remove it)
  | none => if s.list.canCall then some s.list else none

/-- The iterator goes from one lock to another. -/
def State.moved (s : State) (lock other : Nat) : Nat → Option Nat :=
  Function.update (Function.update s.locks lock (s.locks other)) other none

def step (s : State) : Op → Option State
  | .addEventHandler lock =>
    if s.locks lock = none then
      (EventHandlerList.step s.list .add).map fun list =>
        { list, locks := Function.update s.locks lock (some s.list.fresh) }
    else none
  | .moveConstruct lock other =>
    if s.list.canCall ∧ s.locks lock = none ∧ lock ≠ other then
      some { s with locks := s.moved lock other }
    else none
  | .moveAssign lock other =>
    if lock = other then if s.list.canCall then some s else none
    else (s.release lock).map fun list => { list, locks := s.moved lock other }
  | .destroy lock =>
    (s.release lock).map fun list => { list, locks := Function.update s.locks lock none }
  | .run op =>
    match op with
    | .add
    | .remove _ => none
    | op => (EventHandlerList.step s.list op).map fun list => { s with list }

def machine : Machine State Op where
  init := {}
  step := step

end Logid.Backend.EventHandlerLock
