import Mathlib.Data.List.Basic

/-!
# The exceptions of the backend

What the functions that talk to a device can throw, as far as a handler tells them apart
(`backend/Error.h`, `backend/hidpp10/Error.h`, `backend/hidpp20/Error.h`,
`backend/hidpp/Device.h:72-92`).
-/

namespace Logid.Backend

/-- `hidpp::Device::InvalidDevice::Reason`. -/
inductive InvalidReason where
  | noHIDPPReport
  | invalidRawDevice
  | asleep
  | virtualNode
  deriving DecidableEq, Repr

inductive Exn where
  | hidpp10Error (code : UInt8)
  | hidpp20Error (code : UInt8)
  | invalidDevice (reason : InvalidReason)
  | systemError
  | timeout
  | deviceNotReady
  /-- Any other class derived from `std::exception`. -/
  | other
  deriving DecidableEq, Repr

/-- `catch (std::exception&)` catches it. `InvalidDevice` derives privately from `std::exception`,
so it passes every such handler and ends the process. -/
def Exn.isStd : Exn → Bool
  | .invalidDevice _ => false
  | _ => true

/-- `hidpp10::Error::UnknownDevice`. -/
def hidpp10UnknownDevice : UInt8 := 0x08

/-- `hidpp20::Error::UnknownDevice`. -/
def hidpp20UnknownDevice : UInt8 := 10

/-- `max_tries`, the same in `backend/hidpp10/ReceiverMonitor.h` and `backend/raw/DeviceMonitor.h`. -/
def maxTries : Nat := 5

/-- What is left of an attempt to add a device after the `try` block of an `_addHandler`. -/
inductive Handled (α : Type) where
  | returned (result : α)
  /-- `run_task_after` has queued the attempt with one try more. -/
  | rescheduled
  /-- Logged and given up. -/
  | failed
  deriving DecidableEq, Repr

/-- The handlers of `ReceiverMonitor::_addHandler` and `DeviceMonitor::_addHandler`; `none` when
the exception passes both. -/
def handleAttempt {α : Type} (attempt : Except Exn α) (tries : Nat) : Option (Handled α) :=
  match attempt with
  | .ok result => some (.returned result)
  | .error .deviceNotReady => some (if tries = maxTries then .failed else .rescheduled)
  | .error e => if e.isStd then some .failed else none

/-- An attempt that throws does not return. -/
theorem handleAttempt_error {α : Type} {e : Exn} {tries : Nat} {result : α} :
    handleAttempt (.error e) tries ≠ some (.returned result) := by
  cases e with
  | deviceNotReady =>
    simp only [handleAttempt]
    split <;> simp
  | _ => simp [handleAttempt, Exn.isStd]

end Logid.Backend
