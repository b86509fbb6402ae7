import Logid.Misc.Jobs
import Logid.Receiver

/-!
# Events of a device behind a receiver

Rendering of what the connection events and the battery broadcasts of one added device do: the
handlers queue a task for each (`backend/hidpp10/ReceiverMonitor.cpp:45-71`,
`features/DeviceBattery.cpp:64-107`), the workers run `_addHandler` and `Device::setBattery`
(`Device.cpp:188-218`). A task holds `_state_lock` while it changes the status, so each change is
one step.
-/

namespace Logid.DeviceEvents

open Backend
open Backend.Hidpp (DeviceIndex)
open Backend.Hidpp10 (DeviceConnectionEvent)
open Backend.Hidpp10.ReceiverMonitor (Attempt addHandler wakeEvent)

/-- A device in `_devices` of its receiver. It was added, so the configuration does not ignore it. -/
structure Added where
  index : DeviceIndex
  pid : UInt16
  ignore : List UInt16
  notIgnored : pid ∉ ignore

def Added.connectionEvent (device : Added) (linkEstablished : Bool) : DeviceConnectionEvent :=
  { index := device.index, pid := device.pid, linkEstablished := linkEstablished }

structure Battery where
  percent : UInt8
  charging : Bool
  known : Bool
  deriving DecidableEq, Repr

/-- The device's properties and the receiver's waiter for it. The last three fields are not in the
program: the number of events received, the last connection event with its number, and the last
battery broadcast with its number if no reconfiguration took place since. -/
structure Shared where
  awake : Bool
  battery : Battery
  /-- `_waiters` has the index. -/
  waiting : Bool
  /-- `_devices_change` and `_state_lock` are held for ever: `wakeup` has locked the second again in
  `setBattery`. -/
  stuck : Bool
  received : Nat
  connection : Option (Nat × Bool)
  broadcast : Option (Nat × Battery)
  deriving DecidableEq, Repr

/-- The tasks for the device. The numbers of events are not in the program. -/
inductive Task where
  | connection (number : Nat) (linkEstablished : Bool) (tries : Nat)
  /-- The task of the waiter's handler. -/
  | wake (tries : Nat)
  /-- The rest of `_addHandler` when `addDevice` has returned. -/
  | erase
  | setBattery (number : Nat) (battery : Battery)
  deriving DecidableEq, Repr

namespace Task

def connectionUpdate : Task → Option (Nat × Bool)
  | .connection number linkEstablished _ => some (number, linkEstablished)
  | _ => none

def batteryUpdate : Task → Option (Nat × Battery)
  | .setBattery number battery => some (number, battery)
  | _ => none

end Task

/-- How `reconfigure` ends. -/
inductive Reconfigured where
  | done
  /-- `DeviceBattery::configure` has read the status and locks `_state_lock` again. -/
  | relocks
  | throws (e : Exn)
  deriving DecidableEq, Repr

/-- What `wakeup` throws. -/
def Reconfigured.result : Reconfigured → Except Exn Unit
  | .throws e => .error e
  | _ => .ok ()

/-- `Device::sleep` -/
def sleep (s : Shared) : Shared := if s.awake then { s with awake := false } else s

/-- `Device::wakeup`, without the two requests for `_state_lock`. -/
def wakeup (s : Shared) (reconfigured : Reconfigured) : Shared :=
  match reconfigured with
  | .done =>
    let s := { s with broadcast := none }
    if s.awake then s else { s with awake := true }
  | .relocks => { s with stuck := true }
  | .throws _ => s

/-- `Device::setBattery` -/
def setBattery (s : Shared) (battery : Battery) : Shared := { s with battery := battery }

/-- What `addDevice` does to the device. -/
def changeLink (device : Added) (s : Shared) (event : DeviceConnectionEvent)
    (reconfigured : Reconfigured) : Shared :=
  if event.pid ∈ device.ignore then s
  else if event.linkEstablished then wakeup s reconfigured
  else sleep s

/-- A worker in `_addHandler`; `retry` is the task for the next try. -/
def handleConnection (device : Added) (s : Shared) (event : DeviceConnectionEvent) (tries : Nat)
    (task retry : Task) (reconfigured : Reconfigured) :
    Option (Shared × List Task × Option Task) :=
  let s' := changeLink device s event reconfigured
  if s'.stuck then some (s', [], some task)
  else
    let env : Receiver.AddEnv := { ignore := device.ignore, wakeup := reconfigured.result }
    match addHandler (Receiver.addDevice env true event) tries with
    | none => none
    | some (.returned .timedOut) => some ({ s' with waiting := true }, [], some .erase)
    | some (.returned _) => some (s', [], some .erase)
    | some .rescheduled => some (s', [retry], none)
    | some .failed => some (s', [], none)

def act (device : Added) (s : Shared) (task : Task) (reconfigured : Reconfigured) :
    Option (Shared × List Task × Option Task) :=
  match task with
  | .connection number linkEstablished tries =>
    if s.stuck then none
    else handleConnection device s (device.connectionEvent linkEstablished) tries task
      (.connection number linkEstablished (tries + 1)) reconfigured
  | .wake tries =>
    if s.stuck then none
    else handleConnection device s (wakeEvent device.index) tries task (.wake (tries + 1))
      reconfigured
  | .erase => some ({ s with waiting := false }, [], none)
  | .setBattery _ battery => if s.stuck then none else some (setBattery s battery, [], none)

inductive Event where
  | connection (linkEstablished : Bool)
  | battery (battery : Battery)
  /-- Any other report from the device. -/
  | report
  deriving DecidableEq, Repr

/-- The handlers that are called for a report of the device. -/
def outside (s : Shared) : Event → Option (Shared × List Task)
  | .connection linkEstablished =>
    some ({ s with
      received := s.received + 1
      connection := some (s.received, linkEstablished) },
      [.connection s.received linkEstablished 0])
  | .battery battery =>
    some ({ s with
      received := s.received + 1
      broadcast := some (s.received, battery) },
      .setBattery s.received battery :: if s.waiting then [.wake 0] else [])
  | .report => some (s, if s.waiting then [.wake 0] else [])

def system (device : Added) : JobSystem Shared Task Event Reconfigured where
  outside := outside
  act := act device

abbrev State := JobSystem.State Shared Task

abbrev Label := JobSystem.Label Event Reconfigured

/-- The device has just been added. -/
def machine (device : Added) (workers : Nat) (battery : Battery) : Machine State Label :=
  (system device).machine workers {
    awake := true, battery := battery, waiting := false, stuck := false, received := 0,
    connection := none, broadcast := none }

/-- Once all tasks have finished, `Active` is the link state of the last connection event, and the
battery properties are those of the last broadcast if no reconfiguration took place since. -/
def FollowsLastEvent (s : State) : Prop :=
  s.Quiet →
    (∀ number linkEstablished, s.shared.connection = some (number, linkEstablished) →
      s.shared.awake = linkEstablished) ∧
    ∀ number battery, s.shared.broadcast = some (number, battery) → s.shared.battery = battery

/-- The value may be set after the last event was received: the task of that event is not finished,
or the value is the same. -/
def MayReplace {τ : Type} (update : Task → Option (Nat × τ)) (s : State) (number : Nat)
    (last value : τ) : Prop :=
  (∃ task ∈ s.jobs, update task = some (number, last)) ∨ value = last

/-- The reconfiguration for the last connection event gives up only if the device is awake. -/
def LastSucceeds (s : State) (tries : Nat) (reconfigured : Reconfigured) : Prop :=
  ∀ e, reconfigured = .throws e → (e = .deviceNotReady ∧ tries ≠ maxTries) ∨ s.shared.awake = true

/-- What the task does to the link state is in order with the last connection event. -/
def LinkInOrder (device : Added) (s : State) (number : Nat) (last : Bool) (task : Task)
    (reconfigured : Reconfigured) : Prop :=
  match task with
  | .connection n linkEstablished tries =>
    if n = number then linkEstablished = true → LastSucceeds s tries reconfigured
    else MayReplace Task.connectionUpdate s number last linkEstablished ∨
      (linkEstablished = true ∧ reconfigured ≠ .done)
  | .wake _ =>
    MayReplace Task.connectionUpdate s number last true ∨ reconfigured ≠ .done ∨
      (wakeEvent device.index).pid ∈ device.ignore
  | _ => True

/-- What the task does to the battery is in order with the last broadcast. -/
def BatteryInOrder (s : State) (number : Nat) (last : Battery) : Task → Prop
  | .setBattery n battery =>
    n = number ∨ MayReplace Task.batteryUpdate s number last battery
  | _ => True

/-- No task of an earlier event changes a property after that of the last event has, and the last
one does not fail. -/
def InOrder (device : Added) (s : State) : Label → Prop
  | .act i reconfigured => ∀ task, s.running[i]? = some task →
      (∀ number last, s.shared.connection = some (number, last) →
        LinkInOrder device s number last task reconfigured) ∧
      ∀ number last, s.shared.broadcast = some (number, last) → BatteryInOrder s number last task
  | _ => True

end Logid.DeviceEvents
