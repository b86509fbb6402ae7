import Logid.Backend.Error
import Logid.Backend.Hidpp10.Device

/-!
# The registers of a receiver

Rendering of the decoders of `backend/hidpp10/Receiver.cpp:159-275` over `Device::getRegister`
(`backend/hidpp10/Device.cpp:123-132,156-160`). A decoder indexes the parameters of the reply as they
come, a short report's three or a long report's sixteen. A read or a write past the end and a division
by zero have no defined result in C++; here they stop the decoder with a `Fault` of their own.
-/

namespace Logid.Backend.Hidpp10

open Logid.Backend.Hidpp

/-- `enum Registers` (`backend/hidpp10/Receiver.h:110-118`), those that are read here. -/
def deviceActivity : UInt8 := 0xb3
def pairingInfo : UInt8 := 0xb5

/-- What a device makes of the requests of one call, in their order. A report that `sendReport`
returns is one that the response slots match with the request. -/
structure Link where
  deviceIndex : DeviceIndex
  exchange : Nat → Report → Exit Hidpp10Error
  accepted : ∀ {k : Nat} {request report : Report}, exchange k request = .returned report →
    Device.mux.key report = Device.mux.key request ∧ Device.mux.IsReply report

inductive Fault where
  | readPastResponse
  | writePastName
  | divisionByZero
  deriving DecidableEq, Repr

/-- How a decoder ends without a value. -/
inductive Stop where
  | thrown (exn : Exn)
  | fault (fault : Fault)
  deriving DecidableEq, Repr

/-- `response[i]`. -/
def readAt (response : List UInt8) (i : Nat) : Except Stop UInt8 :=
  match response[i]? with
  | some byte => .ok byte
  | none => .error (.fault .readPastResponse)

/-- `name[i] = byte`. -/
def writeAt (name : List UInt8) (i : Nat) (byte : UInt8) : Except Stop (List UInt8) :=
  if i < name.length then .ok (name.set i byte) else .error (.fault .writePastName)

/-- `Device::accessRegister`, for the request with the number `k` of a call. -/
def Device.accessRegister (link : Link) (k : Nat) (subId address : UInt8) (params : List UInt8) :
    Except Stop (List UInt8) :=
  match link.exchange k (accessRegisterRequest link.deviceIndex subId address params) with
  | .returned report => .ok report.params
  | .error err => .error (.thrown (.hidpp10Error err.errorCode))
  | .timeout => .error (.thrown .timeout)
  | .writeFailed _ => .error (.thrown .systemError)

/-- `Device::getRegister`. The type decides the sub id of the request, not the size of the reply. -/
def Device.getRegister (link : Link) (k : Nat) (address : UInt8) (params : List UInt8)
    (type : ReportType) : Except Stop (List UInt8) :=
  let subId := match type with
    | .short => getRegisterShort
    | .long => getRegisterLong
  accessRegister link k subId address params

namespace Receiver

open Device (getRegister)

/-- `Receiver::getDeviceActivity`: the entries of the map, for the devices 1 to 6. -/
def getDeviceActivity (link : Link) : Except Stop (List (DeviceIndex × UInt8)) := do
  let response ← getRegister link 0 deviceActivity [] .long
  (List.range' 1 6).mapM fun i => do
    let activity ← readAt response i
    return (UInt8.ofNat i, activity)

/-- `struct Receiver::PairingInfo`. -/
structure PairingInfo where
  destinationId : UInt8
  reportInterval : UInt8
  pid : UInt16
  deviceType : UInt8
  deriving DecidableEq, Repr

/-- The bytes of the request of `getPairingInfo`. -/
def pairingRequest (isBolt : Bool) (index : DeviceIndex) : List UInt8 :=
  [if isBolt then index + 0x50 else index + 0x1f]

/-- `Receiver::getPairingInfo` (`Receiver.cpp:169-199`). -/
def getPairingInfo (link : Link) (isBolt : Bool) (index : DeviceIndex) :
    Except Stop PairingInfo := do
  let response ← getRegister link 0 pairingInfo (pairingRequest isBolt index) .long
  if isBolt then
    let high ← readAt response 3
    let low ← readAt response 2
    let deviceType ← readAt response 1
    return ⟨0, 0, high.toUInt16 <<< 8 ||| low.toUInt16, deviceType⟩
  else
    let destinationId ← readAt response 1
    let reportInterval ← readAt response 2
    let high ← readAt response 3
    let low ← readAt response 4
    let deviceType ← readAt response 7
    return ⟨destinationId, reportInterval, high.toUInt16 <<< 8 ||| low.toUInt16, deviceType⟩

/-- `struct Receiver::ExtendedPairingInfo`, the power switch by its number. -/
structure ExtendedPairingInfo where
  serialNumber : UInt32
  reportTypes : List UInt8
  powerSwitchLocation : UInt8
  deriving DecidableEq, Repr

/-- The bytes of the request of `getExtendedPairingInfo`. -/
def extendedPairingRequest (isBolt : Bool) (index : DeviceIndex) : List UInt8 :=
  [index + if isBolt then 0x50 else 0x2f]

/-- `Receiver::getExtendedPairingInfo` (`Receiver.cpp:201-228`). -/
def getExtendedPairingInfo (link : Link) (isBolt : Bool) (index : DeviceIndex) :
    Except Stop ExtendedPairingInfo := do
  let serialNumOffset := if isBolt then 4 else 1
  let reportOffset := if isBolt then 8 else 5
  let pslOffset := if isBolt then 12 else 8
  let response ← getRegister link 0 pairingInfo (extendedPairingRequest isBolt index) .long
  let serialNumber ← (List.range 4).foldlM (fun (serial : UInt32) i => do
    let byte ← readAt response (i + serialNumOffset)
    return serial ||| byte.toUInt32 <<< UInt32.ofNat (8 * i)) 0
  let reportTypes ← (List.range 4).mapM fun i => readAt response (i + reportOffset)
  let pslByte ← readAt response pslOffset
  let psl := pslByte &&& 0xf
  return ⟨serialNumber, reportTypes, if psl > 0xc then 0 else psl⟩

/-- The inner loop of the name of a Bolt device, from `j` on with `left` rounds to go. -/
def copyChunk (response : List UInt8) (base : Nat) :
    Nat → Nat → List UInt8 → Except Stop (List UInt8)
  | 0, _, name => .ok name
  | left + 1, j, name => do
    let byte ← readAt response (j + 3)
    let name ← writeAt name (base + j) byte
    copyChunk response base left (j + 1) name

/-- The request for a part of the name of a Bolt device. -/
def nameRequest (index : DeviceIndex) (part : UInt8) : List UInt8 := [index + 0x60, part]

/-- The outer loop, from `i` on with `left` rounds to go. The request at its end is the one with the
number `i + 1` of the call. -/
def copyChunks (link : Link) (index : DeviceIndex) (chunkSize chunks : Nat) :
    Nat → Nat → List UInt8 → List UInt8 → Except Stop (List UInt8)
  | 0, _, _, name => .ok name
  | left + 1, i, response, name => do
    let name ← copyChunk response (i * chunkSize) chunkSize 0 name
    if i + 1 < chunks then
      let response ←
        getRegister link (i + 1) pairingInfo (nameRequest index (UInt8.ofNat (i + 1))) .long
      copyChunks link index chunkSize chunks left (i + 1) response name
    else .ok name

/-- The branch of `Receiver::getDeviceName` for a Bolt receiver (`Receiver.cpp:234-260`). -/
def getBoltDeviceName (link : Link) (index : DeviceIndex) : Except Stop (List UInt8) := do
  let response ← getRegister link 0 pairingInfo (nameRequest index 1) .long
  let size ← readAt response 2
  let chunkSize := UInt8.ofNat (response.length - 3)
  if chunkSize = 0 then .error (.fault .divisionByZero)
  else
    let chunks := size / chunkSize + if size % chunkSize = 0 then 0 else 1
    copyChunks link index chunkSize.toNat chunks.toNat chunks.toNat 0 response
      (List.replicate size.toNat 0x20)

/-- The other branch (`Receiver.cpp:262-272`). Its loop is bounded by the response too. -/
def getUnifyingDeviceName (link : Link) (index : DeviceIndex) : Except Stop (List UInt8) := do
  let response ← getRegister link 0 pairingInfo [index + 0x3f] .long
  let size ← readAt response 1
  return (List.replicate size.toNat 0x20).mapIdx fun i blank =>
    (response[i + 2]?).getD blank

/-- `Receiver::getDeviceName`. -/
def getDeviceName (link : Link) (isBolt : Bool) (index : DeviceIndex) : Except Stop (List UInt8) :=
  if isBolt then getBoltDeviceName link index else getUnifyingDeviceName link index

end Receiver

end Logid.Backend.Hidpp10
