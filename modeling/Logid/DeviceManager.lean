import Logid.Misc.AssocMap
import Logid.Receiver

/-!
# The device manager

Rendering of `DeviceManager.cpp:64-206` and of the parts of `Receiver` that change what
`listDevices` returns. A `Receiver` object is owned by shared pointers: one in `_receivers` once it
is published there, one in the `addDevice` that makes it, and one in every task that has locked the
monitor's weak pointer. In the state an object stands in `_receivers` or, when only running
functions own it, among the detached ones; it is destroyed when its last owner is gone.

`_map_lock` makes the updates of the maps one step each. `Receiver::make` enumerates the receiver
before `addDevice` publishes it, so the two are different steps.
-/

namespace Logid.DeviceManager

open Logid.Backend
open Logid.Backend.Hidpp (DeviceIndex)
open Logid.Backend.Hidpp10 (DeviceConnectionEvent)

abbrev Path := String

/-- One `Device` object; every `Device::make` gives another. -/
abbrev DeviceId := Nat

/-- What `addDevice` meets on a path: the product id or the exception of `RawDevice::make`, and the
results of the calls that talk to the device. -/
structure AddEnv where
  ignore : List UInt16 := []
  rawDevice : Except Exn UInt16 := .ok 0
  /-- The version that `hidpp::Device::make` finds at the default index. -/
  probe : Except Exn (Nat × Nat) := .ok (4, 5)
  receiver : Except Exn Unit := .ok ()
  device : Except Exn Unit := .ok ()
  /-- `Device::make` at the corded index. -/
  corded : Except Exn Unit := .ok ()

/-- What `addDevice` adds when it returns. -/
inductive Found where
  | nothing
  | device
  | receiver
  deriving DecidableEq, Repr

/-- The handlers of both `try` blocks: they swallow the exception or turn it into
`DeviceNotReady`, and pass what they do not name. -/
def absorb : Exn → Except Exn Unit
  | .hidpp20Error code => if code ≠ hidpp20UnknownDevice then .error .deviceNotReady else .ok ()
  | .hidpp10Error code => if code ≠ hidpp10UnknownDevice then .error .deviceNotReady else .ok ()
  | .invalidDevice reason => if reason = .asleep then .error .deviceNotReady else .ok ()
  | .systemError => .ok ()
  | .timeout => .error .deviceNotReady
  | e => .error e

/-- The second `try` block (`DeviceManager.cpp:124-143`). -/
def addCorded (env : AddEnv) : Except Exn Found :=
  match env.corded with
  | .ok () => .ok .device
  | .error e => do
    absorb e
    return .nothing

/-- `DeviceManager::addDevice` up to its updates of the maps (`DeviceManager.cpp:64-146`). -/
def addDevice (env : AddEnv) : Except Exn Found := do
  let pid ← env.rawDevice
  if pid ∈ env.ignore then return .nothing
  match env.probe with
  | .ok version =>
    if version = (1, 0) then
      env.receiver
      return .receiver
    else
      env.device
      return .device
  | .error e =>
    absorb e
    match e with
    -- `defaultExists = false`
    | .hidpp20Error _ | .hidpp10Error _ => addCorded env
    | _ => return .nothing

/-- The signals of `DevicesIPC`. -/
inductive Signal where
  | deviceAdded (device : DeviceId)
  | deviceRemoved (device : DeviceId)
  deriving DecidableEq, Repr

structure ReceiverObject where
  path : Path
  devices : AssocMap DeviceIndex DeviceId
  /-- Owned by the `addDevice` that made it. -/
  fresh : Bool
  /-- The running tasks that own it. -/
  holders : Nat

structure State where
  devices : AssocMap Path DeviceId
  receivers : AssocMap Path ReceiverObject
  detached : List ReceiverObject
  nextDevice : DeviceId
  signals : List Signal

/-- Where a `Receiver` object stands. -/
inductive Place where
  | published (path : Path)
  | detached (n : Nat)
  deriving DecidableEq, Repr

inductive Label where
  | addDevice (path : Path) (env : AddEnv)
  /-- The `addDevice` that made the `n`-th detached receiver publishes it. -/
  | publish (n : Nat)
  | removeDevice (path : Path)
  /-- A task locks its weak pointer to the monitor. -/
  | lock (place : Place)
  | receiverAdd (place : Place) (event : DeviceConnectionEvent) (env : Receiver.AddEnv)
  | receiverRemove (place : Place) (index : DeviceIndex)
  /-- A task ends and drops its pointer. -/
  | unlock (place : Place)

/-- `DeviceManager::listDevices` (`DeviceManager.cpp:195-206`). -/
def listDevices (s : State) : List DeviceId :=
  s.devices.values ++ s.receivers.values.flatMap fun o => o.devices.values

/-- `~Receiver` announces the removal of the devices left (`Receiver.cpp:68-73`). -/
def farewell (o : ReceiverObject) : List Signal := o.devices.values.map .deviceRemoved

/-- An object outside `_receivers` goes on as long as something owns it. -/
def detach (s : State) (o : ReceiverObject) : State :=
  if o.fresh || 0 < o.holders then { s with detached := s.detached ++ [o] }
  else { s with signals := s.signals ++ farewell o }

def objectAt (s : State) : Place → Option ReceiverObject
  | .published path => s.receivers.find? path
  | .detached n => s.detached[n]?

def setObject (s : State) (place : Place) (o : ReceiverObject) : State :=
  match place with
  | .published path => { s with receivers := s.receivers.set path o }
  | .detached n => { s with detached := s.detached.set n o }

/-- The `emplace` and the signal of a new device on a path. -/
def insertDevice (s : State) (path : Path) : State := {
  s with
  devices := s.devices.emplace path s.nextDevice
  nextDevice := s.nextDevice + 1
  signals := s.signals ++ [.deviceAdded s.nextDevice] }

/-- `Receiver::make`, still outside `_receivers`. -/
def makeReceiver (s : State) (path : Path) : State :=
  { s with detached := s.detached ++ [⟨path, .empty, true, 0⟩] }

/-- `_receivers.emplace(path, receiver)` and the end of the `addDevice` that made the receiver. -/
def publish (s : State) (n : Nat) (o : ReceiverObject) : State :=
  let s := { s with detached := s.detached.eraseIdx n }
  let o := { o with fresh := false }
  if s.receivers.Has o.path then detach s o
  else { s with receivers := s.receivers.emplace o.path o }

/-- `DeviceManager::removeDevice` (`DeviceManager.cpp:160-176`). -/
def removeDevice (s : State) (path : Path) : State :=
  match s.receivers.find? path with
  | some o => detach { s with receivers := s.receivers.erase path } o
  | none =>
    match s.devices.find? path with
    | some d => {
        s with
        devices := s.devices.erase path
        signals := s.signals ++ [.deviceRemoved d] }
    | none => s

/-- The end of `Receiver::addDevice` with a device to add (`Receiver.cpp:118-121`). -/
def insertReceiverDevice (s : State) (place : Place) (o : ReceiverObject) (index : DeviceIndex) :
    State :=
  let s := setObject s place { o with devices := o.devices.emplace index s.nextDevice }
  { s with
    nextDevice := s.nextDevice + 1
    signals := s.signals ++ [.deviceAdded s.nextDevice] }

/-- `Receiver::removeDevice` (`Receiver.cpp:137-148`). -/
def removeReceiverDevice (s : State) (place : Place) (o : ReceiverObject) (index : DeviceIndex) :
    State :=
  match o.devices.find? index with
  | some d =>
    let s := setObject s place { o with devices := o.devices.erase index }
    { s with signals := s.signals ++ [.deviceRemoved d] }
  | none => s

/-- A task's pointer goes: the object stays, or its last owner is gone. -/
def dropHolder (s : State) (place : Place) (o : ReceiverObject) : State :=
  let o := { o with holders := o.holders - 1 }
  match place with
  | .published path => { s with receivers := s.receivers.set path o }
  | .detached n => detach { s with detached := s.detached.eraseIdx n } o

def step (s : State) : Label → Option State
  | .addDevice path env =>
    match addDevice env with
    | .ok .device => some (insertDevice s path)
    | .ok .receiver => some (makeReceiver s path)
    | .ok .nothing | .error _ => some s
  | .publish n =>
    match s.detached[n]? with
    | some o => if o.fresh then some (publish s n o) else none
    | none => none
  | .removeDevice path => some (removeDevice s path)
  | .lock place =>
    (objectAt s place).map fun o => setObject s place { o with holders := o.holders + 1 }
  | .receiverAdd place event env =>
    match objectAt s place with
    | some o =>
      if 0 < o.holders then
        match Receiver.addDevice env (decide (o.devices.Has event.index)) event with
        | .ok .added => some (insertReceiverDevice s place o event.index)
        | _ => some s
      else none
    | none => none
  | .receiverRemove place index =>
    match objectAt s place with
    | some o => if 0 < o.holders then some (removeReceiverDevice s place o index) else none
    | none => none
  | .unlock place =>
    match objectAt s place with
    | some o => if 0 < o.holders then some (dropHolder s place o) else none
    | none => none

def machine : Machine State Label where
  init := {
    devices := .empty
    receivers := .empty
    detached := []
    nextDevice := 0
    signals := [] }
  step := step

/-- What a step can do. -/
inductive Transition (s : State) : Label → State → Prop where
  | insertDevice {path env} (result : addDevice env = .ok .device) :
      Transition s (.addDevice path env) (insertDevice s path)
  | makeReceiver {path env} (result : addDevice env = .ok .receiver) :
      Transition s (.addDevice path env) (makeReceiver s path)
  | addNothing {path env} (result : addDevice env ≠ .ok .device) :
      Transition s (.addDevice path env) s
  | publish {n o} (detached : s.detached[n]? = some o) (fresh : o.fresh = true) :
      Transition s (.publish n) (publish s n o)
  | removeDevice {path} : Transition s (.removeDevice path) (removeDevice s path)
  | lock {place o} (at_ : objectAt s place = some o) :
      Transition s (.lock place) (setObject s place { o with holders := o.holders + 1 })
  | receiverAdd {place o event env} (at_ : objectAt s place = some o)
      (result : Receiver.addDevice env (decide (o.devices.Has event.index)) event = .ok .added) :
      Transition s (.receiverAdd place event env) (insertReceiverDevice s place o event.index)
  | receiverKeep {place o event env} (at_ : objectAt s place = some o)
      (result : Receiver.addDevice env (decide (o.devices.Has event.index)) event ≠ .ok .added) :
      Transition s (.receiverAdd place event env) s
  | receiverRemove {place o index} (at_ : objectAt s place = some o) :
      Transition s (.receiverRemove place index) (removeReceiverDevice s place o index)
  | unlock {place o} (at_ : objectAt s place = some o) :
      Transition s (.unlock place) (dropHolder s place o)

theorem step_transition {s t : State} {a : Label} (h : step s a = some t) : Transition s a t := by
  cases a with
  | addDevice path env =>
    simp only [step] at h
    split at h
    next henv =>
      cases h
      exact .insertDevice henv
    next henv =>
      cases h
      exact .makeReceiver henv
    next henv =>
      cases h
      exact .addNothing (by simp [henv])
    next henv =>
      cases h
      exact .addNothing (by simp [henv])
  | publish n =>
    simp only [step] at h
    split at h
    next ho =>
      split at h
      next hfresh =>
        cases h
        exact .publish ho hfresh
      next => cases h
    next => cases h
  | removeDevice path =>
    cases h
    exact .removeDevice
  | lock place =>
    simp only [step, Option.map_eq_some_iff] at h
    obtain ⟨o, ho, rfl⟩ := h
    exact .lock ho
  | receiverAdd place event env =>
    simp only [step] at h
    split at h
    next ho =>
      split at h
      next =>
        split at h
        next hadded =>
          cases h
          exact .receiverAdd ho hadded
        next hnot =>
          cases h
          exact .receiverKeep ho hnot
      next => cases h
    next => cases h
  | receiverRemove place index =>
    simp only [step] at h
    split at h
    next ho =>
      split at h
      next =>
        cases h
        exact .receiverRemove ho
      next => cases h
    next => cases h
  | unlock place =>
    simp only [step] at h
    split at h
    next ho =>
      split at h
      next =>
        cases h
        exact .unlock ho
      next => cases h
    next => cases h

end Logid.DeviceManager
