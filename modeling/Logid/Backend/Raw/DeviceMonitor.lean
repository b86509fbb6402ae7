import Logid.Backend.Error

/-!
# The device monitor

Rendering of `DeviceMonitor::_addHandler` (`backend/raw/DeviceMonitor.cpp:157-182`): the attempt to
add the device on a `hidraw` node, and what becomes of it.
-/

namespace Logid.Backend.Raw.DeviceMonitor

variable {α : Type}

/-- The `try` block: `supported` is what `getSupportedReports` says of the node, `addDevice` the
virtual call. An unsupported node is ignored. -/
def tryAddDevice (supported : Except Exn Bool) (addDevice : Except Exn α) :
    Except Exn (Option α) := do
  if ← supported then
    let result ← addDevice
    return some result
  else return none

def addHandler (supported : Except Exn Bool) (addDevice : Except Exn α) (tries : Nat) :
    Option (Handled (Option α)) :=
  handleAttempt (tryAddDevice supported addDevice) tries

end Logid.Backend.Raw.DeviceMonitor
