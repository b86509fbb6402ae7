import Logid.Misc.Machine
import Logid.Misc.SortedMap
import Mathlib.Data.Finset.Basic

/-!
# The I/O monitor

Rendering of `backend/raw/IOMonitor.cpp`: a listener thread that waits for descriptors with the table
of handlers locked, and threads that take the table from it to add and remove handlers. A step is what
a thread does between two operations on the mutexes, the event descriptor or the epoll set. A handler
runs on the listener thread, and may itself add and remove handlers.
-/

namespace Logid.Backend.Raw.IOMonitor

/-- What `epoll_wait` says of a descriptor. -/
structure Event where
  fd : Int
  /-- `EPOLLIN` -/
  readable : Bool := false
  /-- `EPOLLHUP` -/
  hangup : Bool := false
  /-- `EPOLLERR` -/
  error : Bool := false
  deriving DecidableEq, Repr

/-- Where the listener thread stands in `_listen`. -/
inductive Listener where
  /-- Before it takes `_run_mutex`. -/
  | starting
  /-- At the test of `_is_running`. -/
  | checking
  /-- In `epoll_wait`, with a buffer for as many events. -/
  | waiting (size : Nat)
  /-- In the loop, with the events that are left. -/
  | dispatching (events : List Event)
  /-- At `yield_lock`. -/
  | draining (rest : List Event)
  /-- The event descriptor is read; at `lock.lock()` with `_yield_mutex` held. -/
  | drained (rest : List Event)
  /-- In the functions of a handler. -/
  | handling (handler : Nat) (event : Event) (rest : List Event)
  /-- At `lock.lock()` after a handler. -/
  | handled (rest : List Event)
  | exited
  deriving DecidableEq, Repr

inductive Call where
  | add (fd : Int)
  | remove (fd : Int)
  /-- The destructor. -/
  | stop
  deriving DecidableEq, Repr

/-- Where a thread stands in a call. -/
inductive Caller where
  | idle
  /-- In `_yield`, at `yield_lock`. -/
  | yielding (call : Call)
  /-- In `_yield` with `_yield_mutex` held, at `try_to_lock`. -/
  | trying (call : Call)
  /-- The event descriptor is written; at `run_lock` with `_yield_mutex` held. -/
  | blocked (call : Call)
  /-- After `_yield`, with `_run_mutex` held. -/
  | yielded (call : Call)
  /-- At `join`. -/
  | joining
  deriving DecidableEq, Repr

/-- Where a call stands when it has given `_run_mutex` back: the destructor joins the listener. -/
def Call.after : Call → Caller
  | .add _ | .remove _ => .idle
  | .stop => .joining

/-- Who holds a mutex: the listener in `_listen`, or a call. -/
inductive Owner (ι : Type) where
  | listener
  | caller (t : Option ι)
  deriving DecidableEq, Repr

abbrev fdLess : KeyLess Int := .on id

/-- The threads are `ι` and the listener's, which calls from its handlers as `none`. -/
structure State (ι : Type) where
  /-- `_is_running` -/
  running : Bool
  /-- `_fds`. The handlers have numbers that are not used again; the event descriptor has none. -/
  fds : SortedMap Int (Option Nat) fdLess
  nextHandler : Nat
  /-- What `epoll_ctl` made of the set. -/
  epoll : Finset Int
  /-- The count of the event descriptor. -/
  count : Nat
  /-- `_run_mutex` -/
  run : Option (Owner ι)
  /-- `_yield_mutex` -/
  yield : Option (Owner ι)
  listener : Listener
  callers : Option ι → Caller

inductive Label (ι : Type) where
  | call (t : Option ι) (call : Call)
  | lockYield (t : Option ι)
  /-- `try_to_lock` takes the mutex. -/
  | tryLock (t : Option ι)
  /-- It does not, and the event descriptor is written. -/
  | signal (t : Option ι)
  | lockRun (t : Option ι)
  /-- `done` where `epoll_ctl` succeeds. -/
  | finish (t : Option ι) (done : Bool)
  | join (t : Option ι)
  | start
  | check
  /-- `epoll_wait` returns, with no events where it fails. -/
  | wake (events : List Event)
  | dispatch
  | drain
  /-- The handler returns. -/
  | handled
  | relock

variable {ι : Type}

/-- The loop over the events looks at the next one. -/
def dispatch (eventFd : Int) (s : State ι) : List Event → State ι
  | [] => { s with listener := .checking }
  | event :: rest =>
    if event.fd = eventFd then
      if event.readable then { s with run := none, listener := .draining rest }
      else { s with listener := .dispatching rest }
    else
      match s.fds.find? event.fd with
      | some (some handler) => { s with run := none, listener := .handling handler event rest }
      -- a handler that is not there; there is none for the event descriptor only
      | _ => { s with listener := .dispatching rest }

/-- What a call does with `_run_mutex` held. -/
def perform (s : State ι) (done : Bool) : Call → State ι
  | .add fd =>
    if fd ∈ s.fds.keys then s
    else if done then { s with
      epoll := insert fd s.epoll
      fds := s.fds.emplace fd (some s.nextHandler)
      nextHandler := s.nextHandler + 1 }
    else s
  | .remove fd => { s with epoll := s.epoll.erase fd, fds := s.fds.erase fd }
  | .stop => s

variable [DecidableEq ι]

def setCaller (s : State ι) (t : Option ι) (caller : Caller) : State ι :=
  { s with callers := Function.update s.callers t caller }

/-- A thread that does not run a handler may call; a handler may add and remove. The event descriptor
is the monitor's own. -/
def MayCall (eventFd : Int) (s : State ι) (t : Option ι) (call : Call) : Prop :=
  s.callers t = .idle ∧ call ≠ .remove eventFd ∧
    (t = none → call ≠ .stop ∧ ∃ handler event rest, s.listener = .handling handler event rest)

instance (eventFd : Int) (s : State ι) (t : Option ι) (call : Call) :
    Decidable (MayCall eventFd s t call) :=
  match h : s.listener with
  | .handling handler event rest =>
    decidable_of_iff (s.callers t = .idle ∧ call ≠ .remove eventFd ∧ (t = none → call ≠ .stop)) (by
      rw [MayCall, h]
      simp)
  | .starting | .checking | .waiting _ | .dispatching _ | .draining _ | .drained _ | .handled _
  | .exited =>
    decidable_of_iff (s.callers t = .idle ∧ call ≠ .remove eventFd ∧ t ≠ none) (by
      rw [MayCall, h]
      simp)

/-- What `epoll_wait` may return: descriptors of the set, the event descriptor if it was written. -/
def Wakes (eventFd : Int) (s : State ι) (size : Nat) (events : List Event) : Prop :=
  events.length ≤ size ∧ (events.map Event.fd).Nodup ∧
    ∀ event ∈ events, event.fd ∈ s.epoll ∧ (event.fd = eventFd → event.readable = true → 0 < s.count)

instance (eventFd : Int) (s : State ι) (size : Nat) (events : List Event) :
    Decidable (Wakes eventFd s size events) :=
  inferInstanceAs (Decidable (_ ∧ _))

def step (eventFd : Int) (s : State ι) : Label ι → Option (State ι)
  | .call t call =>
    if MayCall eventFd s t call then
      -- `_stop` begins with `_is_running`
      some { setCaller s t (.yielding call) with
        running := if call = .stop then false else s.running }
    else none
  | .lockYield t =>
    match s.callers t with
    | .yielding call =>
      if s.yield = none then some { setCaller s t (.trying call) with yield := some (.caller t) }
      else none
    | _ => none
  | .tryLock t =>
    match s.callers t with
    | .trying call =>
      if s.run = none then
        some { setCaller s t (.yielded call) with run := some (.caller t), yield := none }
      else none
    | _ => none
  | .signal t =>
    match s.callers t with
    | .trying call => some { setCaller s t (.blocked call) with count := s.count + 1 }
    | _ => none
  | .lockRun t =>
    match s.callers t with
    | .blocked call =>
      if s.run = none then
        some { setCaller s t (.yielded call) with run := some (.caller t), yield := none }
      else none
    | _ => none
  | .finish t done =>
    match s.callers t with
    | .yielded call =>
      let s := perform s done call
      some { setCaller s t call.after with run := none }
    | _ => none
  | .join t =>
    match s.callers t with
    | .joining => if s.listener = .exited then some (setCaller s t .idle) else none
    | _ => none
  | .start =>
    match s.listener with
    | .starting =>
      if s.run = none then
        some { s with run := some .listener, running := true, listener := .checking }
      else none
    | _ => none
  | .check =>
    match s.listener with
    | .checking =>
      if s.running then some { s with listener := .waiting s.fds.keys.length }
      else some { s with run := none, listener := .exited }
    | _ => none
  | .wake events =>
    match s.listener with
    | .waiting size =>
      if Wakes eventFd s size events then some { s with listener := .dispatching events } else none
    | _ => none
  | .dispatch =>
    match s.listener with
    | .dispatching events => some (dispatch eventFd s events)
    | _ => none
  | .drain =>
    match s.listener with
    | .draining rest =>
      if s.yield = none then
        some { s with yield := some .listener, count := 0, listener := .drained rest }
      else none
    | _ => none
  | .handled =>
    match s.listener with
    | .handling _ _ rest =>
      if s.callers none = .idle then some { s with listener := .handled rest } else none
    | _ => none
  | .relock =>
    match s.listener with
    | .drained rest =>
      if s.run = none then
        some { s with run := some .listener, yield := none, listener := .dispatching rest }
      else none
    | .handled rest =>
      if s.run = none then some { s with run := some .listener, listener := .dispatching rest }
      else none
    | _ => none

/-- After the constructor. -/
def machine (ι : Type) [DecidableEq ι] (eventFd : Int) : Machine (State ι) (Label ι) where
  init := {
    running := false
    fds := SortedMap.empty.emplace eventFd none
    nextHandler := 0
    epoll := {eventFd}
    count := 0
    run := none
    yield := none
    listener := .starting
    callers := fun _ => .idle }
  step := step eventFd

end Logid.Backend.Raw.IOMonitor
