import Logid.Misc.Machine
import Logid.Backend.Hidpp10.ReceiverMonitor

/-!
# Receivers and the devices behind them

Rendering of `Receiver::addDevice` and `Receiver::removeDevice` (`Receiver.cpp:75-148`) and of the
handlers of `ReceiverMonitor` that run them as tasks. `_devices_change` is held through the body of
each, so a body is one step; the `erase` that `_addHandler` does afterwards is a step of its own.
-/

namespace Logid.Receiver

open Logid.Backend
open Logid.Backend.Hidpp (DeviceIndex)
open Logid.Backend.Hidpp10 (DeviceConnectionEvent)
open Logid.Backend.Hidpp10.ReceiverMonitor

/-- What an attempt meets: the configuration's ignored products, and the results of the calls that
talk to the device. -/
structure AddEnv where
  ignore : List UInt16 := []
  wakeup : Except Exn Unit := .ok ()
  sleep : Except Exn Unit := .ok ()
  /-- The version that `hidpp::Device::make` finds. -/
  probe : Except Exn (Nat × Nat) := .ok (4, 5)
  /-- `Device::make`. -/
  device : Except Exn Unit := .ok ()

/-- The `try` block of `Receiver::addDevice`; `present` says whether `_devices` has the index. -/
def tryAddDevice (env : AddEnv) (present : Bool) (event : DeviceConnectionEvent) :
    Except Exn Attempt :=
  if event.pid ∈ env.ignore then .ok .unchanged
  else if present then do
    if event.linkEstablished then env.wakeup else env.sleep
    return .unchanged
  else if !event.linkEstablished then .ok .unchanged
  else do
    let version ← env.probe
    if version.1 < 2 then return .unchanged
    env.device
    return .added

/-- `Receiver::addDevice` (`Receiver.cpp:75-135`). -/
def addDevice (env : AddEnv) (present : Bool) (event : DeviceConnectionEvent) :
    Except Exn Attempt :=
  match tryAddDevice env present event with
  | .error (.hidpp10Error _) | .error (.hidpp20Error _) => .ok .unchanged
  | .error .timeout => .ok .timedOut
  | result => result

theorem tryAddDevice_present {env : AddEnv} {event : DeviceConnectionEvent} {r : Attempt}
    (h : tryAddDevice env true event = .ok r) : r = .unchanged := by
  unfold tryAddDevice at h
  by_cases hignore : event.pid ∈ env.ignore
  · rw [if_pos hignore] at h
    cases h
    rfl
  · rw [if_neg hignore, if_pos rfl] at h
    by_cases hlink : event.linkEstablished = true
    · rw [if_pos hlink] at h
      cases hcall : env.wakeup with
      | error e =>
        rw [hcall] at h
        cases h
      | ok _ =>
        rw [hcall] at h
        cases h
        rfl
    · rw [if_neg hlink] at h
      cases hcall : env.sleep with
      | error e =>
        rw [hcall] at h
        cases h
      | ok _ =>
        rw [hcall] at h
        cases h
        rfl

/-- A device is only added at an index that has none. -/
theorem not_present_of_added {env : AddEnv} {present : Bool} {event : DeviceConnectionEvent}
    (h : addDevice env present event = .ok .added) : present = false := by
  cases present with
  | false => rfl
  | true =>
    have htry : tryAddDevice env true event = .ok .added := by
      rw [addDevice] at h
      cases hr : tryAddDevice env true event with
      | ok r =>
        rw [hr] at h
        exact h
      | error e =>
        rw [hr] at h
        cases e <;> cases h
    cases tryAddDevice_present htry

/-- The tasks that the monitor queues. -/
inductive Task where
  | add (event : DeviceConnectionEvent) (tries : Nat)
  | remove (index : DeviceIndex)
  deriving DecidableEq, Repr

/-- What a worker does for the receiver. -/
inductive Worker where
  | idle
  | adding (event : DeviceConnectionEvent) (tries : Nat)
  /-- `addDevice` has returned for this index. -/
  | erasing (index : DeviceIndex)
  | removing (index : DeviceIndex)
  deriving DecidableEq, Repr

/-- The receiver's tables and the pool's part in it. `asleep` is not in the program: it marks the
indices whose last attempt timed out without adding the device, until one is added or removed. -/
structure State (ω : Type) where
  devices : DeviceIndex → Bool
  waiters : Waiters
  tasks : List Task
  workers : ω → Worker
  asleep : DeviceIndex → Bool

inductive Label (ω : Type) where
  /-- A `DeviceConnection` notification. -/
  | connected (event : DeviceConnectionEvent)
  /-- A `DeviceDisconnection` notification. -/
  | disconnected (index : DeviceIndex)
  /-- Any other report from the index. -/
  | report (index : DeviceIndex)
  /-- A worker takes the `n`-th task. -/
  | start (w : ω) (n : Nat)
  | attempt (w : ω) (env : AddEnv)
  | erase (w : ω)
  | remove (w : ω)

variable {ω : Type} [DecidableEq ω]

def setWorker (s : State ω) (w : ω) (worker : Worker) : State ω :=
  { s with workers := Function.update s.workers w worker }

/-- The tables after an attempt that returned. -/
def record (s : State ω) (index : DeviceIndex) : Attempt → State ω
  | .unchanged => s
  | .added => {
      s with
      devices := Function.update s.devices index true
      asleep := Function.update s.asleep index false }
  | .timedOut => {
      s with
      waiters := waitForDevice s.waiters index
      asleep := if s.devices index then s.asleep else Function.update s.asleep index true }

/-- `_addHandler` up to its `erase`. -/
def attempt (s : State ω) (w : ω) (event : DeviceConnectionEvent) (tries : Nat) (env : AddEnv) :
    Option (State ω) :=
  match addHandler (addDevice env (s.devices event.index) event) tries with
  | none => none
  | some (.returned r) => some (setWorker (record s event.index r) w (.erasing event.index))
  | some .rescheduled =>
    some { setWorker s w .idle with tasks := s.tasks ++ [.add event (tries + 1)] }
  | some .failed => some (setWorker s w .idle)

def step (s : State ω) : Label ω → Option (State ω)
  | .connected event => some { s with tasks := s.tasks ++ [.add event 0] }
  | .disconnected index => some { s with tasks := s.tasks ++ [.remove index] }
  | .report index =>
    if s.waiters index then some { s with tasks := s.tasks ++ [.add (wakeEvent index) 0] }
    else some s
  | .start w n =>
    match s.workers w, s.tasks[n]? with
    | .idle, some (.add event tries) =>
      some { setWorker s w (.adding event tries) with tasks := s.tasks.eraseIdx n }
    | .idle, some (.remove index) =>
      some { setWorker s w (.removing index) with tasks := s.tasks.eraseIdx n }
    | _, _ => none
  | .attempt w env =>
    match s.workers w with
    | .adding event tries => attempt s w event tries env
    | _ => none
  | .erase w =>
    match s.workers w with
    | .erasing index =>
      some { setWorker s w .idle with waiters := eraseWaiter s.waiters index }
    | _ => none
  | .remove w =>
    match s.workers w with
    | .removing index => some {
        setWorker s w .idle with
        devices := Function.update s.devices index false
        asleep := Function.update s.asleep index false }
    | _ => none

def machine : Machine (State ω) (Label ω) where
  init := {
    devices := fun _ => false
    waiters := fun _ => false
    tasks := []
    workers := fun _ => .idle
    asleep := fun _ => false }
  step := step

/-- What a step can do to the tables; queueing a task, taking one and giving up an attempt are one
case. -/
inductive Transition (s : State ω) : Label ω → State ω → Prop where
  | queue {a : Label ω} {t : State ω} (devices : t.devices = s.devices)
      (waiters : t.waiters = s.waiters) (asleep : t.asleep = s.asleep)
      (label : ∀ w, a ≠ .erase w) : Transition s a t
  | attempt {w env event tries r} (adding : s.workers w = .adding event tries)
      (result : addDevice env (s.devices event.index) event = .ok r) :
      Transition s (.attempt w env) (setWorker (record s event.index r) w (.erasing event.index))
  | erase {w index} (erasing : s.workers w = .erasing index) :
      Transition s (.erase w)
        { setWorker s w .idle with waiters := eraseWaiter s.waiters index }
  | remove {w index} (removing : s.workers w = .removing index) :
      Transition s (.remove w) {
        setWorker s w .idle with
        devices := Function.update s.devices index false
        asleep := Function.update s.asleep index false }

theorem attempt_transition {s t : State ω} {w : ω} {event : DeviceConnectionEvent} {tries : Nat}
    {env : AddEnv} (hw : s.workers w = .adding event tries)
    (h : attempt s w event tries env = some t) : Transition s (.attempt w env) t := by
  unfold attempt at h
  cases hr : addDevice env (s.devices event.index) event with
  | ok r =>
    simp only [hr, addHandler, handleAttempt, Option.some.injEq] at h
    subst h
    exact .attempt hw hr
  | error e =>
    simp only [hr] at h
    split at h
    next => cases h
    next hhandled => exact absurd hhandled handleAttempt_error
    next =>
      cases h
      exact .queue rfl rfl rfl (by simp)
    next =>
      cases h
      exact .queue rfl rfl rfl (by simp)

theorem step_transition {s t : State ω} {a : Label ω} (h : step s a = some t) :
    Transition s a t := by
  cases a with
  | connected event =>
    cases h
    exact .queue rfl rfl rfl (by simp)
  | disconnected index =>
    cases h
    exact .queue rfl rfl rfl (by simp)
  | report index =>
    simp only [step] at h
    split at h <;>
    · cases h
      exact .queue rfl rfl rfl (by simp)
  | start w n =>
    simp only [step] at h
    split at h
    next =>
      cases h
      exact .queue rfl rfl rfl (by simp)
    next =>
      cases h
      exact .queue rfl rfl rfl (by simp)
    next => cases h
  | attempt w env =>
    simp only [step] at h
    split at h
    next hw => exact attempt_transition hw h
    next => cases h
  | erase w =>
    simp only [step] at h
    split at h
    next hw =>
      cases h
      exact .erase hw
    next => cases h
  | remove w =>
    simp only [step] at h
    split at h
    next hw =>
      cases h
      exact .remove hw
    next => cases h

end Logid.Receiver
