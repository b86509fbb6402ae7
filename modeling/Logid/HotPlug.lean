import Logid.Backend.Raw.DeviceMonitor
import Logid.DeviceManager

/-!
# Hot-plug events and their handlers

Rendering of the callback of `DeviceMonitor::ready` (`backend/raw/DeviceMonitor.cpp:80-120`), which
queues one task for every `add` and `remove` event, and of the handlers that these tasks run on the
maps of the device manager. Any worker may take any queued task; an attempt that is not ready goes
back into the queue. `_map_lock` makes the updates of the maps one step each.
-/

namespace Logid.HotPlug

open Logid.Backend
open Logid.Backend.Raw
open Logid.DeviceManager (Path AddEnv Found insertDevice makeReceiver publish removeDevice)

inductive Action where
  | add
  | remove
  deriving DecidableEq, Repr

/-- A udev event for a `hidraw` node; events with other actions queue nothing. -/
structure Event where
  path : Path
  action : Action
  deriving DecidableEq, Repr

/-- A call of `_addHandler` or `_removeHandler`. -/
inductive Handler where
  | add (path : Path) (tries : Nat)
  | remove (path : Path)
  deriving DecidableEq, Repr

/-- A queued handler. The number of the event that it is for is not in the program. -/
structure Task where
  event : Nat
  handler : Handler
  deriving DecidableEq, Repr

inductive Worker where
  | idle
  | running (task : Task)
  /-- In an `addDevice` between `Receiver::make` and `_receivers.emplace`. -/
  | publishing (event : Nat) (path : Path)
  deriving DecidableEq, Repr

structure State (ω : Type) where
  manager : DeviceManager.State
  /-- The events so far; an event's number is its position. -/
  events : List Event
  tasks : List Task
  workers : ω → Worker
  /-- The numbers of the events whose handlers have finished, in that order, each with whether it
  was an add that succeeded. -/
  finished : List (Nat × Bool)

inductive Label (ω : Type) where
  | event (e : Event)
  /-- A worker takes the `k`-th task. -/
  | start (w : ω) (k : Nat)
  /-- A worker's `_addHandler`, up to its update of the maps. -/
  | add (w : ω) (supported : Except Exn Bool) (env : AddEnv)
  /-- A worker publishes its receiver, the `k`-th detached one. -/
  | publish (w : ω) (k : Nat)
  | remove (w : ω)
  /-- A step for the devices behind some receiver. -/
  | receiver (a : DeviceManager.Label)

/-- The handler that the callback of `ready` queues. -/
def Event.handler (e : Event) : Handler :=
  match e.action with
  | .add => .add e.path 0
  | .remove => .remove e.path

/-- The steps of `DeviceManager` that run no handler of the device monitor. -/
def isReceiverStep : DeviceManager.Label → Bool
  | .lock _ | .receiverAdd .. | .receiverRemove .. | .unlock _ => true
  | .addDevice .. | .publish _ | .removeDevice _ => false

variable {ω : Type} [DecidableEq ω]

def setWorker (s : State ω) (w : ω) (worker : Worker) : State ω :=
  { s with workers := Function.update s.workers w worker }

/-- The handler of the event ends. -/
def finish (s : State ω) (w : ω) (event : Nat) (ok : Bool) : State ω :=
  { setWorker s w .idle with finished := s.finished ++ [(event, ok)] }

/-- `_addHandler` (`backend/raw/DeviceMonitor.cpp:157-182`). -/
def addHandler (s : State ω) (w : ω) (event : Nat) (path : Path) (tries : Nat)
    (supported : Except Exn Bool) (env : AddEnv) : Option (State ω) :=
  match DeviceMonitor.addHandler supported (DeviceManager.addDevice env) tries with
  | none => none
  | some (.returned (some .device)) =>
    some (finish { s with manager := insertDevice s.manager path } w event true)
  | some (.returned (some .receiver)) =>
    some { setWorker s w (.publishing event path) with manager := makeReceiver s.manager path }
  | some (.returned (some .nothing)) | some (.returned none) | some .failed =>
    some (finish s w event false)
  | some .rescheduled =>
    some { setWorker s w .idle with tasks := s.tasks ++ [⟨event, .add path (tries + 1)⟩] }

def step (s : State ω) : Label ω → Option (State ω)
  | .event e => some {
      s with
      events := s.events ++ [e]
      tasks := s.tasks ++ [⟨s.events.length, e.handler⟩] }
  | .start w k =>
    match s.workers w, s.tasks[k]? with
    | .idle, some task => some { setWorker s w (.running task) with tasks := s.tasks.eraseIdx k }
    | _, _ => none
  | .add w supported env =>
    match s.workers w with
    | .running ⟨event, .add path tries⟩ => addHandler s w event path tries supported env
    | _ => none
  | .publish w k =>
    match s.workers w, s.manager.detached[k]? with
    | .publishing event path, some o =>
      if o.fresh = true ∧ o.path = path then
        some (finish { s with manager := publish s.manager k o } w event true)
      else none
    | _, _ => none
  | .remove w =>
    match s.workers w with
    | .running ⟨event, .remove path⟩ =>
      some (finish { s with manager := removeDevice s.manager path } w event false)
    | _ => none
  | .receiver a =>
    if isReceiverStep a then
      (DeviceManager.step s.manager a).map fun manager => { s with manager := manager }
    else none

def machine : Machine (State ω) (Label ω) where
  init := {
    manager := DeviceManager.machine.init
    events := []
    tasks := []
    workers := fun _ => .idle
    finished := [] }
  step := step

/-- What a step can do. -/
inductive Transition (s : State ω) : Label ω → State ω → Prop where
  | event (e : Event) : Transition s (.event e)
      { s with events := s.events ++ [e], tasks := s.tasks ++ [⟨s.events.length, e.handler⟩] }
  | start {w k task} (idle : s.workers w = .idle) (queued : s.tasks[k]? = some task) :
      Transition s (.start w k) { setWorker s w (.running task) with tasks := s.tasks.eraseIdx k }
  | device {w supported env event path tries}
      (running : s.workers w = .running ⟨event, .add path tries⟩)
      (result : DeviceMonitor.addHandler supported (DeviceManager.addDevice env) tries =
        some (.returned (some .device))) :
      Transition s (.add w supported env)
        (finish { s with manager := insertDevice s.manager path } w event true)
  | receiver {w supported env event path tries}
      (running : s.workers w = .running ⟨event, .add path tries⟩)
      (result : DeviceMonitor.addHandler supported (DeviceManager.addDevice env) tries =
        some (.returned (some .receiver))) :
      Transition s (.add w supported env)
        { setWorker s w (.publishing event path) with manager := makeReceiver s.manager path }
  | giveUp {w supported env event path tries}
      (running : s.workers w = .running ⟨event, .add path tries⟩)
      (result : DeviceMonitor.addHandler supported (DeviceManager.addDevice env) tries ∈
        [some (.returned (some .nothing)), some (.returned none), some .failed]) :
      Transition s (.add w supported env) (finish s w event false)
  | reschedule {w supported env event path tries}
      (running : s.workers w = .running ⟨event, .add path tries⟩)
      (result : DeviceMonitor.addHandler supported (DeviceManager.addDevice env) tries =
        some .rescheduled) :
      Transition s (.add w supported env)
        { setWorker s w .idle with tasks := s.tasks ++ [⟨event, .add path (tries + 1)⟩] }
  | publish {w k event path o} (publishing : s.workers w = .publishing event path)
      (detached : s.manager.detached[k]? = some o) (fresh : o.fresh = true) (at_ : o.path = path) :
      Transition s (.publish w k)
        (finish { s with manager := publish s.manager k o } w event true)
  | remove {w event path} (running : s.workers w = .running ⟨event, .remove path⟩) :
      Transition s (.remove w)
        (finish { s with manager := removeDevice s.manager path } w event false)
  | behind {a manager} (isReceiver : isReceiverStep a = true)
      (moves : DeviceManager.step s.manager a = some manager) :
      Transition s (.receiver a) { s with manager := manager }

theorem addHandler_transition {s t : State ω} {w : ω} {event : Nat} {path : Path} {tries : Nat}
    {supported : Except Exn Bool} {env : AddEnv}
    (hw : s.workers w = .running ⟨event, .add path tries⟩)
    (h : addHandler s w event path tries supported env = some t) :
    Transition s (.add w supported env) t := by
  unfold addHandler at h
  split at h
  next => cases h
  next hr =>
    cases h
    exact .device hw hr
  next hr =>
    cases h
    exact .receiver hw hr
  next hr =>
    cases h
    exact .giveUp hw (by simp [hr])
  next hr =>
    cases h
    exact .giveUp hw (by simp [hr])
  next hr =>
    cases h
    exact .giveUp hw (by simp [hr])
  next hr =>
    cases h
    exact .reschedule hw hr

theorem step_transition {s t : State ω} {a : Label ω} (h : step s a = some t) :
    Transition s a t := by
  cases a with
  | event e =>
    cases h
    exact .event e
  | start w k =>
    simp only [step] at h
    split at h
    next hw hk =>
      cases h
      exact .start hw hk
    next => cases h
  | add w supported env =>
    simp only [step] at h
    split at h
    next hw => exact addHandler_transition hw h
    next => cases h
  | publish w k =>
    simp only [step] at h
    split at h
    next hw hk =>
      split at h
      next hfresh =>
        cases h
        exact .publish hw hk hfresh.1 hfresh.2
      next => cases h
    next => cases h
  | remove w =>
    simp only [step] at h
    split at h
    next hw =>
      cases h
      exact .remove hw
    next => cases h
  | receiver a =>
    simp only [step] at h
    split at h
    next ha =>
      rw [Option.map_eq_some_iff] at h
      obtain ⟨manager, hm, rfl⟩ := h
      exact .behind ha hm
    next => cases h

/-- The maps change by the steps of the device manager. -/
theorem Transition.manager_step {s t : State ω} {a : Label ω} (h : Transition s a t) :
    t.manager = s.manager ∨ ∃ b, DeviceManager.machine.step s.manager b = some t.manager := by
  cases h with
  | event e => exact .inl rfl
  | start _ _ => exact .inl rfl
  | @device w supported env event path tries _ result =>
    refine .inr ⟨.addDevice path { }, rfl⟩
  | @receiver w supported env event path tries _ result =>
    refine .inr ⟨.addDevice path { probe := .ok (1, 0) }, rfl⟩
  | giveUp _ _ => exact .inl rfl
  | reschedule _ _ => exact .inl rfl
  | @publish w k event path o _ detached fresh _ =>
    refine .inr ⟨.publish k, ?_⟩
    simp only [DeviceManager.machine, DeviceManager.step, detached, fresh, if_true]
    rfl
  | @remove w event path _ => exact .inr ⟨.removeDevice path, rfl⟩
  | behind _ moves => exact .inr ⟨_, moves⟩

/-- Every state of the maps that hot-plugging reaches is one that the device manager reaches. -/
theorem manager_reachable {s : State ω} (hs : machine.Reachable s) :
    DeviceManager.machine.Reachable s.manager := by
  refine Machine.invariant (M := machine)
    (I := fun s : State ω => DeviceManager.machine.Reachable s.manager)
    Machine.reachable_init ?_ hs
  intro s a t hs h
  rcases (step_transition h).manager_step with heq | ⟨b, hb⟩
  · rw [heq]
    exact hs
  · exact hs.step hb

end Logid.HotPlug
