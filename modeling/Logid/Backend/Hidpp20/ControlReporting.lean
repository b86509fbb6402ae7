import Logid.Backend.Hidpp20.ReprogControls
import Mathlib.Data.UInt
import Mathlib.Logic.Function.Basic

/-!
# Controls and how they report

Rendering of `ControlInfo` and the reporting flags (`features/ReprogControls.h:30-72`), and of
`features/ReprogControls.cpp:88-137` and `:163-184`: the table of the controls of a device, and the
request that diverts one. A device stores what a request says to change; the versions before 4 have no
such request.
-/

namespace Logid.Backend.Hidpp20.ReprogControls

/-! ## Versions -/

inductive Version where
  | v1
  | v2
  | v2_2
  | v3
  | v4
  deriving DecidableEq, Repr

/-! ## Controls -/

structure ControlInfo where
  controlID : UInt16 := 0
  taskID : UInt16 := 0
  flags : UInt8 := 0
  position : UInt8 := 0
  group : UInt8 := 0
  groupMask : UInt8 := 0
  additionalFlags : UInt8 := 0
  deriving DecidableEq, Repr

/-- `ControlReportingFlags` -/
def temporaryDiverted : UInt8 := 0x01
def changeTemporaryDivert : UInt8 := 0x02
def persistentlyDiverted : UInt8 := 0x04
def rawXYDiverted : UInt8 := 0x10
def changeRawXYDivert : UInt8 := 0x20

/-- `std::map<uint16_t, ControlInfo>` -/
abbrev CidMap := SortedMap UInt16 ControlInfo (KeyLess.on UInt16.toNat)

/-- The members of `ReprogControls`. -/
structure Cids where
  cids : CidMap := .empty
  cidsInitialized : Bool := false

/-- The loop of `initCidMap` from `i` on with `left` rounds to go. The request for control `i` gives
`info i`, and throws where that is `none`. The result says whether the loop came to its end. -/
def populate (info : Nat → Option ControlInfo) : Nat → Nat → CidMap → CidMap × Bool
  | 0, _, cids => (cids, true)
  | left + 1, i, cids =>
    match info i with
    | some control => populate info left (i + 1) (cids.emplace control.controlID control)
    | none => (cids, false)

/-- `initCidMap`, with what its requests give. -/
def initCidMap (count : Option UInt8) (info : Nat → Option ControlInfo) (c : Cids) : Cids :=
  if c.cidsInitialized then c
  else
    match count with
    | some controls =>
      let (cids, finished) := populate info controls.toNat 0 c.cids
      { cids := cids, cidsInitialized := finished }
    | none => c

/-- `getControlIdInfo`, with the attempt that it makes; `none` where it throws, whether a request does or
the control is not there. -/
def getControlIdInfo (count : Option UInt8) (info : Nat → Option ControlInfo) (cid : UInt16)
    (c : Cids) : Cids × Option ControlInfo :=
  let c := initCidMap count info c
  (c, if c.cidsInitialized then c.cids.find? cid else none)

/-! ## Reporting -/

/-- `setControlReporting`: the parameters of the request, where the version has it. -/
def setControlReporting (version : Version) (cid : UInt16) (info : ControlInfo) :
    Option (List UInt8) :=
  match version with
  | .v4 => some [(cid >>> 8).toUInt8, cid.toUInt8, info.flags, (info.controlID >>> 8).toUInt8,
      info.controlID.toUInt8]
  | _ => none

/-- How a control reports: the flags that say whether it is diverted, and the control that it acts
as. -/
structure Reporting where
  flags : UInt8 := 0
  remap : UInt16 := 0
  deriving DecidableEq, Repr

/-- The flags that a request says to change: each stands before the bit that says so. -/
def changed (flags : UInt8) : UInt8 :=
  (flags >>> 1) &&& (temporaryDiverted ||| persistentlyDiverted ||| rawXYDiverted)

/-- What a device stores. -/
def Reporting.store (old : Reporting) (flags : UInt8) (remap : UInt16) : Reporting :=
  { flags := old.flags &&& ~~~(changed flags) ||| flags &&& changed flags, remap := remap }

/-- A device with the parameters of `SetControlReporting`. -/
def storeReporting (reporting : UInt16 → Reporting) : List UInt8 → UInt16 → Reporting
  | cidHigh :: cidLow :: flags :: remapHigh :: remapLow :: _ =>
    let cid := BigEndian.word cidHigh cidLow
    Function.update reporting cid
      ((reporting cid).store flags (BigEndian.word remapHigh remapLow))
  | _ => reporting

end Logid.Backend.Hidpp20.ReprogControls
