import Mathlib.Logic.Function.Basic
import Logid.Backend.Error
import Logid.Backend.Hidpp.Report

/-!
# The receiver monitor

Rendering of `backend/hidpp10/ReceiverMonitor.cpp:163-257`: what becomes of an attempt to add the
device that a notification is about, and the table `_waiters` of the devices whose next report
starts another attempt.
-/

namespace Logid.Backend.Hidpp10

open Logid.Backend.Hidpp (DeviceIndex)

/-- The fields of `hidpp::DeviceConnectionEvent` that decide an attempt
(`backend/hidpp10/Receiver.h:38-48`). -/
structure DeviceConnectionEvent where
  index : DeviceIndex
  pid : UInt16 := 0
  linkEstablished : Bool := false
  fromTimeoutCheck : Bool := false
  deriving DecidableEq, Repr

namespace ReceiverMonitor

/-- How the virtual `addDevice` returns. -/
inductive Attempt where
  | unchanged
  | added
  /-- It has called `waitForDevice`. -/
  | timedOut
  deriving DecidableEq, Repr

/-- `_addHandler` up to its `_waiters.erase(event.index)`
(`backend/hidpp10/ReceiverMonitor.cpp:224-248`). -/
def addHandler (result : Except Exn Attempt) (tries : Nat) : Option (Handled Attempt) :=
  handleAttempt result tries

/-- The indices in `_waiters`. -/
abbrev Waiters := DeviceIndex → Bool

/-- `waitForDevice` (`backend/hidpp10/ReceiverMonitor.cpp:163-191`). -/
def waitForDevice (waiters : Waiters) (index : DeviceIndex) : Waiters :=
  if waiters index then waiters else Function.update waiters index true

/-- `_waiters.erase(index)`. -/
def eraseWaiter (waiters : Waiters) (index : DeviceIndex) : Waiters :=
  Function.update waiters index false

/-- The event that a waiter's handler queues. -/
def wakeEvent (index : DeviceIndex) : DeviceConnectionEvent :=
  { index := index, linkEstablished := true, fromTimeoutCheck := true }

theorem waitForDevice_apply (waiters : Waiters) (i j : DeviceIndex) :
    waitForDevice waiters i j = (waiters j || decide (j = i)) := by
  unfold waitForDevice
  by_cases hj : j = i
  · subst hj
    by_cases hw : waiters j <;> simp [hw]
  · by_cases hw : waiters i <;> simp [hw, hj]

theorem eraseWaiter_apply (waiters : Waiters) (i j : DeviceIndex) :
    eraseWaiter waiters i j = (waiters j && decide (j ≠ i)) := by
  unfold eraseWaiter
  by_cases hj : j = i
  · subst hj
    simp
  · simp [hj]

end ReceiverMonitor

end Logid.Backend.Hidpp10
