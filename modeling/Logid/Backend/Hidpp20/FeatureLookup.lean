import Logid.Backend.Hidpp20.Device
import Logid.Misc.BigEndian

/-!
# Finding a feature of a device

Rendering of the three ways to the index of a feature: `Root::getFeature` (`features/Root.cpp:27-63`) and
the constructors of `Feature` (`Feature.cpp:44-65`) and `EssentialFeature` (`EssentialFeature.cpp:47-67`).
Each encodes the id and reads the reply on its own. `Device::sendReport` is a parameter, and its reply
has three parameters at least, so `response[0]`, `response[1]` and `at(0)` are in range.
-/

namespace Logid.Backend.Hidpp20

open Hidpp

/-- `Error::InvalidFeatureIndex`. -/
def errorInvalidFeatureIndex : UInt8 := 6

/-- `FeatureID::ROOT`, which is the index of the feature too. -/
def rootIndex : UInt8 := 0

/-- `Root::Function::GetFeature`. -/
def rootGetFeature : UInt8 := 0

/-- How a lookup throws. -/
inductive LookupExn where
  | unsupportedFeature (id : UInt16)
  | error (err : Hidpp20Error)
  | timeout
  | systemError (err : Raw.Errno)
  | invalidReportID
  deriving DecidableEq

/-- A device as the sender of a request sees it. -/
structure Endpoint where
  deviceIndex : DeviceIndex
  sendReport : Report → Exit Hidpp20Error

/-- The parameters of the reply to a request that has been built. -/
def Endpoint.exchange (device : Endpoint) (request : Except ReportError Report) :
    Except LookupExn (List UInt8) :=
  match request with
  | .error _ => .error .invalidReportID
  | .ok request =>
    match device.sendReport request with
    | .returned report => .ok report.params
    | .error err => .error (.error err)
    | .timeout => .error .timeout
    | .writeFailed err => .error (.systemError err)

/-- `Device::callFunction` (`Device.cpp:48-66`). -/
def Device.callFunction (device : Endpoint) (featureIndex function : UInt8)
    (params : List UInt8) : Except LookupExn (List UInt8) :=
  device.exchange (callFunctionRequest device.deviceIndex featureIndex function params)

/-- `EssentialFeature::callFunction` (`EssentialFeature.cpp:28-45`), which builds the same request. -/
def EssentialFeature.callFunction (device : Endpoint) (index function : UInt8)
    (params : List UInt8) : Except LookupExn (List UInt8) :=
  device.exchange (Device.callFunctionRequest device.deviceIndex index function params)

/-- `catch (Error& e)` of the three. -/
def catchInvalidIndex {α : Type} (id : UInt16) (result : Except LookupExn α) :
    Except LookupExn α :=
  match result with
  | .error (.error err) =>
    if err.errorCode = errorInvalidFeatureIndex then .error (.unsupportedFeature id)
    else .error (.error err)
  | result => result

/-- The constructor of `Feature`, with the index that it leaves. -/
def Feature.new (device : Endpoint) (id : UInt16) : Except LookupExn UInt8 :=
  if id ≠ 0 then do
    let request := [(id >>> 8).toUInt8, id.toUInt8]
    let response ← catchInvalidIndex id
      (Device.callFunction device rootIndex rootGetFeature request)
    let index := response.getD 0 0
    if index = 0 then .error (.unsupportedFeature id) else .ok index
  else .ok rootIndex

/-- The constructor of `EssentialFeature`. -/
def EssentialFeature.new (device : Endpoint) (id : UInt16) : Except LookupExn UInt8 :=
  if id ≠ 0 then do
    let request := [(id >>> 8).toUInt8, id.toUInt8]
    let response ← catchInvalidIndex id
      (EssentialFeature.callFunction device rootIndex rootGetFeature request)
    let index := response.getD 0 0
    if index = 0 then .error (.unsupportedFeature id) else .ok index
  else .ok rootIndex

/-- `feature_info`; `feature_id` holds the index. -/
structure FeatureInfo where
  featureId : UInt16
  obsolete : Bool
  internal : Bool
  hidden : Bool
  deriving DecidableEq, Repr

/-- `_genGetFeatureParams`: the low byte first. -/
def genGetFeatureParams (id : UInt16) : List UInt8 := [id.toUInt8, (id >>> 8).toUInt8]

/-- `_genGetFeatureInfo`, with the bits of `Root::FeatureFlag`. -/
def genGetFeatureInfo (id : UInt16) (response : List UInt8) : Except LookupExn FeatureInfo :=
  let flags := response.getD 1 0
  if response.getD 0 0 = 0 then .error (.unsupportedFeature id)
  else .ok {
    featureId := (response.getD 0 0).toUInt16
    hidden := flags &&& 0x40 ≠ 0
    obsolete := flags &&& 0x80 ≠ 0
    internal := flags &&& 0x20 ≠ 0 }

/-- `Root::getFeature`. -/
def Root.getFeature (device : Endpoint) (id : UInt16) : Except LookupExn FeatureInfo :=
  catchInvalidIndex id do
    let response ← EssentialFeature.callFunction device rootIndex rootGetFeature
      (genGetFeatureParams id)
    genGetFeatureInfo id response

/-- The features of a device with their indices. -/
structure FeatureTable where
  index : UInt16 → Option UInt8
  nonzero : ∀ {id i}, index id = some i → i ≠ 0

/-- What a lookup should give. -/
def FeatureTable.resolve (table : FeatureTable) (id : UInt16) : Except LookupExn UInt8 :=
  match table.index id with
  | some i => .ok i
  | none => .error (.unsupportedFeature id)

/-- The device answers the function `GetFeature` from its table: with the index of the feature that the
first two parameters name, the high byte first, and for a feature that it lacks with `0` or an error. -/
def Endpoint.Serves (device : Endpoint) (table : FeatureTable) : Prop :=
  ∀ request : Report, request.feature = rootIndex → request.function = rootGetFeature →
    match table.index (BigEndian.word (request.params.getD 0 0) (request.params.getD 1 0)) with
    | some i => ∃ report, device.sendReport request = .returned report ∧ report.params.head? = some i
    | none =>
      (∃ report, device.sendReport request = .returned report ∧ report.params.head? = some 0) ∨
      ∃ err, device.sendReport request = .error err ∧ err.errorCode = errorInvalidFeatureIndex

/-- The id with its two bytes exchanged. -/
def swapBytes (id : UInt16) : UInt16 := BigEndian.word id.toUInt8 (id >>> 8).toUInt8

end Logid.Backend.Hidpp20
