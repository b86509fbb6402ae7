import Logid.Features.Configure
import Logid.Misc.Jobs

/-!
# Presses that read and write a setting

Rendering of the tasks that `ToggleSmartShift::press`, `ToggleHiresScroll::press` and
`ChangeDPI::press` queue. A task reads a setting from the device and writes it back changed; the two
requests are steps of their own, between which other tasks run.
-/

namespace Logid.Actions

open Backend.Hidpp20 (Hardware)
open Features (Info getClosestDPI)

/-- The action pressed, with what its task captures. -/
inductive Press where
  | toggleSmartShift
  | toggleHiresScroll
  | changeDPI (inc : Int32) (sensor : UInt8)
  deriving DecidableEq, Repr

/-- A task before it has read the setting, and with what it has read. -/
inductive PressTask where
  | read (press : Press)
  | smartShift (status : Backend.Hidpp20.SmartShift.Status)
  | hiresScroll (mode : UInt8)
  | changeDPI (inc : Int32) (sensor : UInt8) (last : UInt16)
  deriving DecidableEq, Repr

namespace PressTask

def press : PressTask → Press
  | .read press => press
  | .smartShift _ => .toggleSmartShift
  | .hiresScroll _ => .toggleHiresScroll
  | .changeDPI inc sensor _ => .changeDPI inc sensor

/-- What the task does after the read; `none` where `getClosestDPI` is undefined. -/
def write (info : Info) (hw : Hardware) : PressTask → Option Hardware
  | .read _ => none
  | .smartShift status =>
    info.smartShift.map fun version => Backend.Hidpp20.SmartShift.setStatus version hw
      { status with setActive := true, active := !status.active }
  | .hiresScroll mode =>
    some (Backend.Hidpp20.HiresScroll.setMode hw (mode ^^^ Backend.Hidpp20.HiresScroll.hiRes))
  | .changeDPI inc sensor last =>
    -- `DPI::setDPI`, whose parameter is `uint16_t`
    let dpi := UInt16.ofInt (last.toNat + inc.toInt)
    if dpi = 0 then some hw
    else
      (info.sensorLists[sensor.toNat]?).bind fun list => (getClosestDPI list dpi).map fun closest =>
        Backend.Hidpp20.AdjustableDPI.setSensorDPI hw sensor closest

end PressTask

namespace Press

/-- The feature of the action is there, so `press` queues a task. -/
def supported (info : Info) : Press → Bool
  | .toggleSmartShift => info.smartShift.isSome
  | .toggleHiresScroll => info.hiresScroll
  | .changeDPI _ _ => info.sensors.isSome

/-- The read; `none` when the task ends with it, on the `InvalidArgument` of a sensor that is not
there. -/
def readSetting (info : Info) (hw : Hardware) : Press → Option PressTask
  | .toggleSmartShift =>
    info.smartShift.map fun version => .smartShift (Backend.Hidpp20.SmartShift.getStatus version hw)
  | .toggleHiresScroll => some (.hiresScroll (Backend.Hidpp20.HiresScroll.getMode hw))
  | .changeDPI inc sensor =>
    if sensor.toNat < info.sensorLists.length then
      some (.changeDPI inc sensor (Backend.Hidpp20.AdjustableDPI.getSensorDPI hw sensor))
    else none

/-- The press with nothing between its read and its write. -/
def effect (info : Info) (press : Press) (hw : Hardware) : Option Hardware :=
  match press.readSetting info hw with
  | some task => task.write info hw
  | none => some hw

end Press

namespace Presses

/-- The device, and the presses so far. -/
structure Shared where
  hardware : Hardware
  pressed : List Press

def act (info : Info) (s : Shared) : PressTask → Option (Shared × List PressTask × Option PressTask)
  | .read press => some (s, [], press.readSetting info s.hardware)
  | task => (task.write info s.hardware).map fun hw => ({ s with hardware := hw }, [], none)

def system (info : Info) : JobSystem Shared PressTask Press Unit where
  outside s press :=
    if press.supported info then some ({ s with pressed := press :: s.pressed }, [.read press])
    else some (s, [])
  act s task _ := act info s task

abbrev State := JobSystem.State Shared PressTask

abbrev Label := JobSystem.Label Press Unit

def machine (info : Info) (workers : Nat) (hw : Hardware) : Machine State Label :=
  (system info).machine workers { hardware := hw, pressed := [] }

/-- Once all tasks have finished, the setting is the one that the presses give one after another in
some order; so an even number of toggles changes nothing. -/
def NoLostPress (info : Info) (hw : Hardware) (s : State) : Prop :=
  s.Quiet →
    (∃ order, order.Perm s.shared.pressed ∧
      JobSystem.perform (Press.effect info) order hw = some s.shared.hardware) ∧
    (Even s.shared.pressed.length →
      ((∀ press ∈ s.shared.pressed, press = .toggleSmartShift) →
        Backend.Hidpp20.SmartShift.isActive s.shared.hardware.wheelMode =
          Backend.Hidpp20.SmartShift.isActive hw.wheelMode) ∧
      ((∀ press ∈ s.shared.pressed, press = .toggleHiresScroll) →
        s.shared.hardware.scrollMode = hw.scrollMode))

/-- A task that writes finds the setting as it has read it, or at least writes what it would write
had it read the setting now. -/
def ReadIsCurrent (info : Info) (s : State) : Label → Prop
  | .act i _ => ∀ task, s.running[i]? = some task → (∀ press, task ≠ .read press) →
      task.write info s.shared.hardware = task.press.effect info s.shared.hardware
  | _ => True

end Presses

end Logid.Actions
