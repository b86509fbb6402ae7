import Logid.Backend.Hidpp.ResponseSlots

/-!
# HID++ 1.0 devices

Rendering of `backend/hidpp10/Device.{h,cpp}`: the requests of the register accesses, and how a
report of the device is filed as the response to one.
-/

namespace Logid.Backend.Hidpp10

open Logid.Backend.Hidpp

/-- `enum SubID` (`backend/hidpp10/defs.h:23-28`), as far as a request depends on it. -/
def getRegisterShort : UInt8 := 0x81
def setRegisterLong : UInt8 := 0x82
def getRegisterLong : UInt8 := 0x83

/-- `SubIDCount`, the length of `_responses`. -/
def subIdCount : Nat := 4

abbrev Slots := ResponseSlots Hidpp10Error subIdCount

/-- `setupRegReport` (`backend/hidpp10/Device.cpp:28-43`). -/
def setupRegReport (index : DeviceIndex) (subId address : UInt8) (params : List UInt8) : Report :=
  let type : ReportType :=
    if subId = setRegisterLong then .long
    else if params.length ≤ ReportType.short.paramLength then .short else .long
  (Report.ofSubId type index subId address).copyParams params

namespace Device

/-- The report that `Device::accessRegister` sends (`backend/hidpp10/Device.cpp:156-160`). -/
def accessRegisterRequest (deviceIndex : DeviceIndex) (subId address : UInt8)
    (params : List UInt8) : Report :=
  setupRegReport deviceIndex subId address params

def slotIndex (subId : UInt8) : Fin subIdCount :=
  ⟨subId.toNat % subIdCount, Nat.mod_lt _ (by decide)⟩

/-- The end of `Device::responseReport`, with the report decoded. -/
def fileResponse (slots : Slots) (subId : UInt8) (response : Report ⊕ Hidpp10Error) :
    Option Slots :=
  let i := slotIndex subId
  if (slots i).key ≠ some subId then none
  else some (Function.update slots i { slots i with response := some response })

/-- `Device::responseReport` (`backend/hidpp10/Device.cpp:95-121`). -/
def responseReport (slots : Slots) (report : Report) : Option Slots :=
  match report.isError10 with
  | some err => fileResponse slots err.subId (.inr err)
  | none => fileResponse slots report.subId (.inl report)

theorem fileResponse_eq_some {slots slots' : Slots} {subId : UInt8}
    {response : Report ⊕ Hidpp10Error} (h : fileResponse slots subId response = some slots') :
    (slots (slotIndex subId)).key = some subId ∧
      slots' = Function.update slots (slotIndex subId)
        { slots (slotIndex subId) with response := some response } := by
  simp only [fileResponse] at h
  split at h
  next => cases h
  next hkey =>
    cases h
    exact ⟨not_not.mp hkey, rfl⟩

/-- `hidpp10::Device` as a class with response slots. -/
def mux : ResponseMux Hidpp10Error subIdCount where
  key := Report.subId
  index := slotIndex
  IsReply report := report.isError10 = none
  responseReport := responseReport
  stores := by
    intro slots slots' report h
    unfold responseReport at h
    split at h
    next err _ =>
      obtain ⟨hkey, rfl⟩ := fileResponse_eq_some h
      exact ⟨_, _, _, hkey, rfl, by simp⟩
    next herr =>
      obtain ⟨hkey, rfl⟩ := fileResponse_eq_some h
      refine ⟨_, _, _, hkey, rfl, ?_⟩
      intro data heq
      cases heq
      exact ⟨rfl, rfl, herr⟩

end Device

end Logid.Backend.Hidpp10
