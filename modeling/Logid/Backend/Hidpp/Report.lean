import Mathlib.Data.List.Basic

/-!
# HID++ reports

Rendering of `backend/hidpp/Report.{h,cpp}` and of the constants of `backend/hidpp/defs.h`. The C++
class keeps `_data` at the length its type byte asks for in every constructor and setter; here that
is the field `Report.valid`, so a report of another shape cannot be built. Bytes are read with a
default of `0`: every offset read below is inside the shortest report.
-/

namespace Logid.Backend.Hidpp

/-- `ReportType::ReportType` (`backend/hidpp/defs.h:25-30`). -/
inductive ReportType where
  | short
  | long
  deriving DecidableEq, Repr

/-- The enumerators' values, `Short = 0x10` and `Long = 0x11`. -/
def ReportType.byte : ReportType → UInt8
  | .short => 0x10
  | .long => 0x11

/-- `ShortParamLength` and `LongParamLength` (`backend/hidpp/defs.h:47-48`). -/
def ReportType.paramLength : ReportType → Nat
  | .short => 3
  | .long => 16

/-- `DeviceIndex`: an enum over `uint8_t`, cast from any byte of a report. -/
abbrev DeviceIndex := UInt8

def defaultDevice : DeviceIndex := 0xff
def wirelessDevice1 : DeviceIndex := 1

/-- `softwareID` (`backend/hidpp/defs.h:44`). -/
def softwareID : UInt8 := 2

/-- `hidpp10::ErrorID` (`backend/hidpp10/Error.h`). -/
def hidpp10ErrorID : UInt8 := 0x8f

/-- `hidpp20::ErrorID` (`backend/hidpp20/Error.h`). -/
def hidpp20ErrorID : UInt8 := 0xff

def headerLength : Nat := 4

/-- `namespace Offset` (`Report.h:34-42`); `Feature` and `Function` alias `SubID` and `Address`. -/
def Offset.type : Nat := 0
def Offset.deviceIndex : Nat := 1
def Offset.subId : Nat := 2
def Offset.address : Nat := 3
def Offset.parameters : Nat := 4

/-- `std::vector::resize`: cut, or fill with zeros. -/
def resize (data : List UInt8) (n : Nat) : List UInt8 :=
  (data ++ List.replicate n 0).take n

@[simp] theorem length_resize (data : List UInt8) (n : Nat) : (resize data n).length = n := by
  simp [resize]

theorem getElem?_resize {data : List UInt8} {i n : Nat} {b : UInt8} (h : data[i]? = some b)
    (hi : i < n) : (resize data n)[i]? = some b := by
  have hlt : i < data.length := (List.getElem?_eq_some_iff.mp h).1
  rw [resize, List.getElem?_take_of_lt hi, List.getElem?_append_left hlt, h]

/-- `class Report`: the type byte is one of the two known ones and decides the length. -/
structure Report where
  data : List UInt8
  valid : ∃ t : ReportType, data[Offset.type]? = some t.byte ∧
    data.length = headerLength + t.paramLength
  deriving DecidableEq

/-- `Report::InvalidReportID`. -/
inductive ReportError where
  | invalidReportID
  deriving DecidableEq, Repr

/-- `Report::Hidpp10Error` (`Report.h:128-131`). -/
structure Hidpp10Error where
  deviceIndex : DeviceIndex
  subId : UInt8
  address : UInt8
  errorCode : UInt8
  deriving DecidableEq, Repr

/-- `Report::Hidpp20Error` (`Report.h:135-138`). -/
structure Hidpp20Error where
  deviceIndex : DeviceIndex
  featureIndex : UInt8
  function : UInt8
  softwareId : UInt8
  errorCode : UInt8
  deriving DecidableEq, Repr

namespace Report

/-- `_data[offset]`. -/
def byteAt (report : Report) (offset : Nat) : UInt8 := report.data.getD offset 0

/-- `Report(type, device_index, sub_id, address)` (`Report.cpp:118-136`). -/
def ofSubId (type : ReportType) (deviceIndex : DeviceIndex) (subId address : UInt8) : Report where
  data := [type.byte, deviceIndex, subId, address] ++ List.replicate type.paramLength 0
  valid := ⟨type, rfl, by cases type <;> rfl⟩

/-- `Report(type, device_index, feature_index, function, sw_id)` (`Report.cpp:138-160`). -/
def ofFeature (type : ReportType) (deviceIndex : DeviceIndex)
    (featureIndex function swId : UInt8) : Report :=
  ofSubId type deviceIndex featureIndex ((function &&& 0x0f) <<< 4 ||| (swId &&& 0x0f))

/-- `Report(const std::vector<uint8_t>& data)` (`Report.cpp:162-177`): filled up to a long report,
then cut to the length of its type. -/
def ofRaw (data : List UInt8) : Except ReportError Report :=
  let full := resize data (headerLength + ReportType.long.paramLength)
  if h : full[Offset.type]? = some ReportType.short.byte then
    .ok {
      data := resize full (headerLength + ReportType.short.paramLength)
      valid := ⟨.short, getElem?_resize h (by decide), by simp⟩ }
  else if h : full[Offset.type]? = some ReportType.long.byte then
    .ok ⟨full, .long, h, by simp [full]⟩
  else .error .invalidReportID

/-- `Report::type`; the cast is total on a valid report. -/
def type (report : Report) : ReportType :=
  if report.byteAt Offset.type = ReportType.short.byte then .short else .long

def deviceIndex (report : Report) : DeviceIndex := report.byteAt Offset.deviceIndex

def feature (report : Report) : UInt8 := report.byteAt Offset.subId

def subId (report : Report) : UInt8 := report.byteAt Offset.subId

def function (report : Report) : UInt8 := (report.byteAt Offset.address >>> 4) &&& 0x0f

def swId (report : Report) : UInt8 := report.byteAt Offset.address &&& 0x0f

def address (report : Report) : UInt8 := report.byteAt Offset.address

/-- The range from `paramBegin()` to `paramEnd()`. -/
def params (report : Report) : List UInt8 := report.data.drop Offset.parameters

def rawReport (report : Report) : List UInt8 := report.data

/-- `std::copy(params.begin(), params.end(), request.paramBegin())`; the callers choose a type whose
parameters hold the copied ones. -/
def copyParams (report : Report) (params : List UInt8) : Report where
  data := (report.data.take headerLength ++
    (params ++ report.data.drop (headerLength + params.length))).take report.data.length
  valid := by
    obtain ⟨t, htype, hlen⟩ := report.valid
    refine ⟨t, ?_, ?_⟩
    · have hpos : Offset.type < report.data.length := by
        simp only [hlen, headerLength, Offset.type]
        omega
      rw [List.getElem?_take_of_lt hpos,
        List.getElem?_append_left (by simp [hlen, headerLength, Offset.type]),
        List.getElem?_take_of_lt (by simp [headerLength, Offset.type])]
      exact htype
    · simp [hlen]
      omega

/-- `Report::isError10` (`Report.cpp:270-283`). -/
def isError10 (report : Report) : Option Hidpp10Error :=
  if report.data.length ≤ Offset.parameters + 1 then none
  else if report.byteAt Offset.type ≠ ReportType.short.byte ∨
      report.byteAt Offset.subId ≠ hidpp10ErrorID then none
  else some {
    deviceIndex := report.deviceIndex
    subId := report.byteAt 3
    address := report.byteAt 4
    errorCode := report.byteAt 5 }

/-- `Report::isError20` (`Report.cpp:285-299`). -/
def isError20 (report : Report) : Option Hidpp20Error :=
  if report.data.length ≤ Offset.parameters + 1 then none
  else if report.byteAt Offset.type ≠ ReportType.long.byte ∨
      report.byteAt Offset.subId ≠ hidpp20ErrorID then none
  else some {
    deviceIndex := report.deviceIndex
    featureIndex := report.byteAt 3
    function := (report.byteAt 4 >>> 4) &&& 0x0f
    softwareId := report.byteAt 4 &&& 0x0f
    errorCode := report.byteAt 5 }

@[simp] theorem subId_ofSubId (t : ReportType) (i : DeviceIndex) (s a : UInt8) :
    (ofSubId t i s a).subId = s := rfl

@[simp] theorem address_ofSubId (t : ReportType) (i : DeviceIndex) (s a : UInt8) :
    (ofSubId t i s a).address = a := rfl

@[simp] theorem feature_ofFeature (t : ReportType) (i : DeviceIndex) (f fn sw : UInt8) :
    (ofFeature t i f fn sw).feature = f := rfl

theorem highNibble_join (x y : UInt8) :
    ((x &&& 0x0f) <<< 4 ||| (y &&& 0x0f)) >>> 4 &&& 0x0f = x &&& 0x0f := by
  apply UInt8.toBitVec_inj.mp
  ext i hi
  simp only [UInt8.toBitVec_and, UInt8.toBitVec_shiftRight, UInt8.toBitVec_or,
    UInt8.toBitVec_shiftLeft]
  have hcases : i = 0 ∨ i = 1 ∨ i = 2 ∨ i = 3 ∨ i = 4 ∨ i = 5 ∨ i = 6 ∨ i = 7 := by omega
  rcases hcases with rfl | rfl | rfl | rfl | rfl | rfl | rfl | rfl <;> simp

theorem and_nibble {x : UInt8} (h : x ≤ 0x0f) : x &&& 0x0f = x := by
  apply UInt8.toNat_inj.mp
  have hlt : x.toNat ≤ 15 := h
  rw [UInt8.toNat_and]
  exact Nat.and_two_pow_sub_one_of_lt_two_pow (n := 4) (by omega)

@[simp] theorem function_ofFeature (t : ReportType) (i : DeviceIndex) (f fn sw : UInt8) :
    (ofFeature t i f fn sw).function = fn &&& 0x0f := highNibble_join fn sw

theorem byteAt_copyParams (report : Report) (params : List UInt8) {i : Nat} (h : i < headerLength) :
    (report.copyParams params).byteAt i = report.byteAt i := by
  obtain ⟨t, -, hlen⟩ := report.valid
  have hi : i < report.data.length := by omega
  simp only [byteAt, copyParams, List.getD_eq_getElem?_getD]
  rw [List.getElem?_take_of_lt hi, List.getElem?_append_left (by simp [headerLength] at h ⊢; omega),
    List.getElem?_take_of_lt h]

@[simp] theorem feature_copyParams (report : Report) (params : List UInt8) :
    (report.copyParams params).feature = report.feature :=
  byteAt_copyParams _ _ (by decide)

@[simp] theorem subId_copyParams (report : Report) (params : List UInt8) :
    (report.copyParams params).subId = report.subId :=
  byteAt_copyParams _ _ (by decide)

@[simp] theorem address_copyParams (report : Report) (params : List UInt8) :
    (report.copyParams params).address = report.address :=
  byteAt_copyParams _ _ (by decide)

@[simp] theorem function_copyParams (report : Report) (params : List UInt8) :
    (report.copyParams params).function = report.function := by
  unfold function
  rw [byteAt_copyParams _ _ (by decide)]

end Report

end Logid.Backend.Hidpp
