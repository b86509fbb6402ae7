import Logid.Backend.Hidpp.ResponseSlots

/-!
# HID++ 2.0 devices

Rendering of `backend/hidpp20/Device.{h,cpp}`: how a function call becomes a report, and how a
report of the device is filed as the response to a request.
-/

namespace Logid.Backend.Hidpp20

open Logid.Backend.Hidpp

/-- The length of `_responses` (`backend/hidpp20/Device.h:74`). -/
def responseCount : Nat := 16

abbrev Slots := ResponseSlots Hidpp20Error responseCount

namespace Device

/-- The report that `Device::callFunction` sends (`backend/hidpp20/Device.cpp:48-66`). -/
def callFunctionRequest (deviceIndex : DeviceIndex) (featureIndex function : UInt8)
    (params : List UInt8) : Except ReportError Report :=
  if params.length ≤ ReportType.short.paramLength then
    .ok ((Report.ofFeature .short deviceIndex featureIndex function softwareID).copyParams params)
  else if params.length ≤ ReportType.long.paramLength then
    .ok ((Report.ofFeature .long deviceIndex featureIndex function softwareID).copyParams params)
  else .error .invalidReportID

def slotIndex (feature : UInt8) : Fin responseCount :=
  ⟨feature.toNat % responseCount, Nat.mod_lt _ (by decide)⟩

/-- The end of `Device::responseReport`, with the slot chosen and the report decoded. -/
def fileResponse (slots : Slots) (i : Fin responseCount) (swId feature : UInt8)
    (response : Report ⊕ Hidpp20Error) : Option Slots :=
  if swId ≠ softwareID then none
  else if (slots i).key ≠ some feature then none
  else some (Function.update slots i { slots i with response := some response })

/-- `Device::responseReport` (`backend/hidpp20/Device.cpp:127-158`). The slot is the one of the
report's own feature byte, also for an error report. -/
def responseReport (slots : Slots) (report : Report) : Option Slots :=
  let i := slotIndex report.feature
  match report.isError20 with
  | some err => fileResponse slots i err.softwareId err.featureIndex (.inr err)
  | none => fileResponse slots i report.swId report.feature (.inl report)

theorem fileResponse_eq_some {slots slots' : Slots} {i : Fin responseCount} {swId feature : UInt8}
    {response : Report ⊕ Hidpp20Error}
    (h : fileResponse slots i swId feature response = some slots') :
    swId = softwareID ∧ (slots i).key = some feature ∧
      slots' = Function.update slots i { slots i with response := some response } := by
  unfold fileResponse at h
  split at h
  next => cases h
  next hsw =>
    split at h
    next => cases h
    next hkey =>
      cases h
      exact ⟨not_not.mp hsw, not_not.mp hkey, rfl⟩

/-- `hidpp20::Device` as a class with response slots. -/
def mux : ResponseMux Hidpp20Error responseCount where
  key := Report.feature
  index := slotIndex
  IsReply report := report.isError20 = none ∧ report.swId = softwareID
  responseReport := responseReport
  stores := by
    intro slots slots' report h
    unfold responseReport at h
    split at h
    next err _ =>
      obtain ⟨-, hkey, rfl⟩ := fileResponse_eq_some h
      exact ⟨_, _, _, hkey, rfl, by simp⟩
    next herr =>
      obtain ⟨hsw, hkey, rfl⟩ := fileResponse_eq_some h
      refine ⟨_, _, _, hkey, rfl, ?_⟩
      intro data heq
      cases heq
      exact ⟨rfl, rfl, herr, hsw⟩

end Device

end Logid.Backend.Hidpp20
