import Mathlib.Data.UInt

/-!
# Settings of the hardware

Rendering of the requests of `backend/hidpp20/features` that read and write the settings which the
daemon controls: `AdjustableDPI`, `SmartShift`, `HiresScroll` and `ThumbWheel`. The device stores
what is written; a zero in a request of `SmartShift` means no change.
-/

namespace Logid.Backend.Hidpp20

structure Hardware where
  /-- The DPI of each sensor. -/
  dpi : UInt8 → UInt16
  /-- The first byte of the `SmartShift` status: 1 for free spin, 2 for ratchet. -/
  wheelMode : UInt8
  autoDisengage : UInt8
  torque : UInt8
  /-- The mode byte of `HiresScroll`. -/
  scrollMode : UInt8
  thumbDiverted : Bool
  thumbInverted : Bool

/-! ## AdjustableDPI -/

structure SensorDPIList where
  dpis : List UInt16 := []
  isRange : Bool := false
  dpiStep : UInt16 := 0

namespace AdjustableDPI

def getSensorDPI (hw : Hardware) (sensor : UInt8) : UInt16 := hw.dpi sensor

def setSensorDPI (hw : Hardware) (sensor : UInt8) (dpi : UInt16) : Hardware :=
  { hw with dpi := Function.update hw.dpi sensor dpi }

end AdjustableDPI

/-! ## SmartShift -/

namespace SmartShift

inductive Version where
  | v1
  | v2
  deriving DecidableEq, Repr

structure Status where
  active : Bool := false
  autoDisengage : UInt8 := 0
  torque : UInt8 := 0
  setActive : Bool := false
  setAutoDisengage : Bool := false
  setTorque : Bool := false
  deriving DecidableEq, Repr

/-- `static_cast<bool>(response[0] - 1)` -/
def isActive (mode : UInt8) : Bool := decide (mode ≠ 1)

def getStatus (version : Version) (hw : Hardware) : Status where
  active := isActive hw.wheelMode
  autoDisengage := hw.autoDisengage
  torque := match version with
    | .v1 => 0
    | .v2 => hw.torque

/-- A parameter of `SetStatus`: zero leaves the setting as it is. -/
def store (old param : UInt8) : UInt8 := if param = 0 then old else param

def setStatus (version : Version) (hw : Hardware) (status : Status) : Hardware :=
  { hw with
    wheelMode := store hw.wheelMode
      (if status.setActive then (if status.active then 1 else 0) + 1 else 0)
    autoDisengage := store hw.autoDisengage
      (if status.setAutoDisengage then status.autoDisengage else 0)
    torque := match version with
      | .v1 => hw.torque
      | .v2 => store hw.torque (if status.setTorque then status.torque else 0) }

/-- The three bytes that `setStatus` sends, in order. -/
structure Params where
  active : UInt8
  autoDisengage : UInt8
  torque : UInt8
  deriving DecidableEq, Repr

def setStatusParams (version : Version) (status : Status) : Params where
  active := if status.setActive then (if status.active then 1 else 0) + 1 else 0
  autoDisengage := if status.setAutoDisengage then status.autoDisengage else 0
  torque := match version with
    | .v1 => 0
    | .v2 => if status.setTorque then status.torque else 0

/-- The device stores the parameters that are not zero. -/
theorem setStatus_eq_store (version : Version) (hw : Hardware) (status : Status) :
    setStatus version hw status = { hw with
      wheelMode := store hw.wheelMode (setStatusParams version status).active
      autoDisengage := store hw.autoDisengage (setStatusParams version status).autoDisengage
      torque := store hw.torque (setStatusParams version status).torque } := by
  cases version <;> rfl

/-- `Defaults`, as far as the daemon reads them. -/
structure Defaults where
  autoDisengage : UInt8
  torque : UInt8

end SmartShift

/-! ## HiresScroll and ThumbWheel -/

namespace HiresScroll

def inverted : UInt8 := 4
def hiRes : UInt8 := 2
def target : UInt8 := 1

def getMode (hw : Hardware) : UInt8 := hw.scrollMode

def setMode (hw : Hardware) (mode : UInt8) : Hardware := { hw with scrollMode := mode }

end HiresScroll

namespace ThumbWheel

def setStatus (hw : Hardware) (divert invert : Bool) : Hardware :=
  { hw with thumbDiverted := divert, thumbInverted := invert }

end ThumbWheel

end Logid.Backend.Hidpp20
