import Logid.Misc.ListCursor
import Logid.Misc.Machine

/-!
# Lists of event handlers

Rendering of `EventHandlerList` (`backend/EventHandlerList.h:33-87`) on one thread. The active runs of
`run_all` are a part of the state, so what a callback does stands between two steps of its run; conditions
only answer. A run holds `mutex` shared to its end, so `try_to_lock` takes it exactly where no run is
active, and no run holds `add_mutex` while it is in a callback.
-/

namespace Logid.Backend

namespace EventHandlerList

/-- What has been asked of a list. -/
structure History where
  /-- The newest first. -/
  added : List Nat := []
  removed : List Nat := []
  deriving DecidableEq, Repr

/-- The handlers that are registered, in the order of the list: it has no marks and no runs. -/
def History.registered (h : History) : List Nat := h.added.filter fun it => it ∉ h.removed

/-- An element of `list_t`. The iterator that `add` returns stands for the handler. -/
structure Node where
  iterator : Nat
  /-- `second` -/
  active : Bool := true
  deriving DecidableEq, Repr

/-- How a run has come to a handler. -/
structure Visit where
  handler : Nat
  /-- It had not been removed. -/
  registered : Bool
  /-- What the condition has answered. -/
  held : Bool
  deriving DecidableEq, Repr

def Visit.due (v : Visit) : Bool := v.registered && v.held

structure Run where
  /-- The iterator of the loop, `none` for `end()`. -/
  position : Option Nat
  inCallback : Bool := false
  /-- What had been asked of the list when the run started. -/
  start : History
  /-- How it has come to the handlers that were registered then. -/
  visits : List Visit := []
  /-- The handlers whose callbacks it has called. -/
  called : List Nat := []
  deriving DecidableEq, Repr

structure State where
  list : List Node := []
  /-- The active runs, the innermost first. -/
  runs : List Run := []
  /-- The runs that have come to the end of the list. -/
  finished : List Run := []
  history : History := {}
  /-- The iterator of the next node. -/
  fresh : Nat := 0
  deriving DecidableEq, Repr

inductive Op where
  | add
  | remove (iterator : Nat)
  | runAll
  /-- The innermost run comes to its node, where the condition answers `held` if it is asked. -/
  | visit (held : Bool)
  | callbackReturns
  /-- The exception ends the innermost run. -/
  | callbackThrows
  /-- The innermost run is at `end()`. -/
  | finish
  deriving DecidableEq, Repr

namespace State

variable (s : State)

def iterators : List Nat := s.list.map Node.iterator

/-- `lock.owns_lock()` after `try_to_lock` -/
def ownsLock : Bool := s.runs.isEmpty

/-- No run is active, or the innermost one is in a callback. -/
def canCall : Bool :=
  match s.runs with
  | [] => true
  | run :: _ => run.inCallback

def cleanup : State :=
  if s.ownsLock then { s with list := s.list.filter Node.active } else s

def add : State :=
  { s with
    list := { iterator := s.fresh } :: s.list
    history := { s.history with added := s.fresh :: s.history.added }
    fresh := s.fresh + 1 }

def remove (iterator : Nat) : State :=
  { s with
    list :=
      if s.ownsLock then s.list.filter fun node => node.iterator ≠ iterator
      else s.list.map fun node =>
        if node.iterator = iterator then { node with active := false } else node
    history := { s.history with removed := iterator :: s.history.removed } }

/-- `run_all` to the head of its loop. -/
def runAll : State :=
  let s := s.cleanup
  { s with runs := { position := s.iterators.head?, start := s.history } :: s.runs }

/-- The node that the innermost run is at; `none` where the run is elsewhere, or where its iterator
refers to no node. -/
def node : Option Node :=
  match s.runs with
  | [] => none
  | run :: _ =>
    if run.inCallback then none
    else run.position.bind fun it => s.list.find? fun node => node.iterator = it

/-- The handler whose callback is called in a visit. -/
def calls (held : Bool) : Option Nat :=
  s.node.bind fun node => if node.active ∧ held then some node.iterator else none

end State

/-- A visit is noted if the handler was registered when the run started. -/
def Run.note (run : Run) (h : History) (it : Nat) (held : Bool) : Run :=
  if it ∈ run.start.registered then
    { run with visits := run.visits ++ [⟨it, it ∉ h.removed, held⟩] }
  else run

/-- A round of the loop, up to the callback or to the next round. -/
def visit (s : State) (held : Bool) : Option State :=
  match s.runs, s.node with
  | run :: runs, some node =>
    let run := run.note s.history node.iterator held
    match s.calls held with
    | some it =>
      some { s with runs := { run with inCallback := true, called := run.called ++ [it] } :: runs }
    | none =>
      some { s with
        runs := { run with position := ListCursor.next s.iterators node.iterator } :: runs }
  | _, _ => none

/-- `++it` after a callback. -/
def callbackReturns (s : State) : Option State :=
  match s.runs with
  | run :: runs =>
    match run.inCallback, run.position with
    | true, some it =>
      some { s with
        runs := { run with
          inCallback := false
          position := ListCursor.next s.iterators it } :: runs }
    | _, _ => none
  | [] => none

def callbackThrows (s : State) : Option State :=
  match s.runs with
  | run :: runs => if run.inCallback then some { s with runs } else none
  | [] => none

def finish (s : State) : Option State :=
  match s.runs with
  | run :: runs =>
    if run.inCallback = false ∧ run.position = none then
      some { s with runs, finished := run :: s.finished }
    else none
  | [] => none

/-- `none` where the source does not do the step, or where it would follow an iterator to a node that has
been erased. -/
def step (s : State) : Op → Option State
  | .add => if s.canCall then some s.add else none
  | .remove it => if s.canCall ∧ it ∈ s.iterators then some (s.remove it) else none
  | .runAll => if s.canCall then some s.runAll else none
  | .visit held => visit s held
  | .callbackReturns => callbackReturns s
  | .callbackThrows => callbackThrows s
  | .finish => finish s

def machine : Machine State Op where
  init := {}
  step := step

/-! ## Delivery -/

/-- A run has come to every handler that was registered when it started, once and in order, and has
called those that had not been removed before and whose conditions held. -/
structure Run.Delivered (run : Run) : Prop where
  visited : run.visits.map Visit.handler = run.start.registered
  called : run.called = (run.visits.filter Visit.due).map Visit.handler
  once : run.called.Nodup

/-- The handlers added since a run started, none of which it has called. -/
def Run.SparesAdded (run : Run) (h : History) : Prop :=
  ∃ later, h.added = later ++ run.start.added ∧ ∀ it ∈ later, it ∉ run.called

end EventHandlerList

end Logid.Backend
