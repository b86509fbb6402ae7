import Logid.Backend.Hidpp.Report

/-!
# The fields of a report

Rendering of the setters of `backend/hidpp/Report.cpp:181-267` and of `Device::reportFixup`
(`backend/hidpp/Device.cpp:305-315`). All of them write bytes of `_data`, where `feature` and `subId`
are one byte and `function` and `swId` are the two halves of `address`. `Report.fields` is what a
reader of the report sees, `Setter.update` what each setter is there to do to it.
-/

namespace Logid.Backend.Hidpp

namespace Report

/-- `_data[offset] = value`, for an offset after the type byte. -/
def setByte (report : Report) (offset : Nat) (value : UInt8) (h : offset ≠ Offset.type) :
    Report where
  data := report.data.set offset value
  valid := by
    obtain ⟨t, htype, hlen⟩ := report.valid
    exact ⟨t, by rw [List.getElem?_set_ne h, htype], by rw [List.length_set, hlen]⟩

/-- `Report::setType` (`Report.cpp:181-194`). -/
def setType (report : Report) (type : ReportType) : Report where
  data := (resize report.data (headerLength + type.paramLength)).set Offset.type type.byte
  valid := by
    refine ⟨type, List.getElem?_set_self ?_, by simp⟩
    simp only [Offset.type, headerLength, length_resize]
    omega

def setDeviceIndex (report : Report) (index : DeviceIndex) : Report :=
  report.setByte Offset.deviceIndex index (by decide)

/-- `Report::setFeature` (`Report.cpp:208-210`). It writes the first parameter. -/
def setFeature (report : Report) (feature : UInt8) : Report :=
  report.setByte Offset.parameters feature (by decide)

def setSubId (report : Report) (subId : UInt8) : Report :=
  report.setByte Offset.subId subId (by decide)

/-- `Report::setFunction` (`Report.cpp:224-227`). -/
def setFunction (report : Report) (function : UInt8) : Report :=
  let kept : UInt8 := report.byteAt Offset.address &&& 0x0f
  report.setByte Offset.address (kept ||| (function &&& 0x0f) <<< 4) (by decide)

/-- `Report::setSwId` (`Report.cpp:233-236`). -/
def setSwId (report : Report) (swId : UInt8) : Report :=
  let kept : UInt8 := report.byteAt Offset.address &&& 0xf0
  report.setByte Offset.address (kept ||| (swId &&& 0x0f)) (by decide)

def setAddress (report : Report) (address : UInt8) : Report :=
  report.setByte Offset.address address (by decide)

/-- The loop of `Report::setParams`, at the parameter `i`. -/
def setParamsFrom (report : Report) (i : Nat) : List UInt8 → Report
  | [] => report
  | param :: params =>
    (report.setByte (Offset.parameters + i) param (by simp [Offset.parameters, Offset.type])).setParamsFrom
      (i + 1) params

/-- `Report::setParams` (`Report.cpp:262-267`). It asserts that the parameters fit. -/
def setParams (report : Report) (params : List UInt8) : Report :=
  report.setParamsFrom 0 params

end Report

/-- `Device::reportFixup`, with the `ShortReportSupported` bit of `supported_reports`. A long report
is only asserted to be supported. -/
def Device.reportFixup (shortReportSupported : Bool) (report : Report) : Report :=
  match report.type with
  | .short => if shortReportSupported then report else report.setType .long
  | .long => report

/-- What the getters of a report return. -/
structure Fields where
  type : ReportType
  deviceIndex : DeviceIndex
  feature : UInt8
  subId : UInt8
  function : UInt8
  swId : UInt8
  address : UInt8
  params : List UInt8
  deriving DecidableEq

def Report.fields (report : Report) : Fields where
  type := report.type
  deviceIndex := report.deviceIndex
  feature := report.feature
  subId := report.subId
  function := report.function
  swId := report.swId
  address := report.address
  params := report.params

/-- What a long report shows of the same contents, the parameters filled up with zeros. -/
def Fields.toLong (fields : Fields) : Fields :=
  { fields with type := .long, params := resize fields.params ReportType.long.paramLength }

/-- The setters with the values they are called with. -/
inductive Setter where
  | deviceIndex (index : DeviceIndex)
  | feature (feature : UInt8)
  | subId (subId : UInt8)
  | function (function : UInt8)
  | swId (swId : UInt8)
  | address (address : UInt8)
  | params (params : List UInt8)

namespace Setter

def apply (report : Report) : Setter → Report
  | .deviceIndex value => report.setDeviceIndex value
  | .feature value => report.setFeature value
  | .subId value => report.setSubId value
  | .function value => report.setFunction value
  | .swId value => report.setSwId value
  | .address value => report.setAddress value
  | .params values => report.setParams values

/-- The value is one that the field can hold: half a byte, or no more bytes than the report has for
its parameters. -/
def Fits (report : Report) : Setter → Prop
  | .function value | .swId value => value ≤ 0x0f
  | .params values => values.length ≤ report.type.paramLength
  | .deviceIndex _ | .feature _ | .subId _ | .address _ => True

/-- The getter returns the value set; of the others only those change that read the same bytes. -/
def update (fields : Fields) : Setter → Fields
  | .deviceIndex value => { fields with deviceIndex := value }
  | .feature value | .subId value => { fields with feature := value, subId := value }
  | .function value => { fields with function := value, address := value <<< 4 ||| fields.swId }
  | .swId value => { fields with swId := value, address := fields.function <<< 4 ||| value }
  | .address value =>
    { fields with address := value, function := value >>> 4 &&& 0x0f, swId := value &&& 0x0f }
  | .params values => { fields with params := values ++ fields.params.drop values.length }

end Setter

end Logid.Backend.Hidpp
