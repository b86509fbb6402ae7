import Logid.Backend.Hidpp.Report

/-!
# The events of a receiver

Rendering of the part of `backend/hidpp10/Receiver.{h,cpp}` that reads the notifications of pairing
and discovery (`Receiver.h:53-81,99-108`, `Receiver.cpp:301-379`). A `std::string` is a list of
bytes.
-/

namespace Logid.Backend.Hidpp10

open Logid.Backend.Hidpp (Report ReportType)

/-- `hidpp::DeviceType`, cast from any byte. -/
abbrev DeviceType := UInt8

def deviceUnknown : DeviceType := 0x00

structure DeviceDiscoveryEvent where
  deviceType : DeviceType := deviceUnknown
  seqNum : UInt8 := 0
  address : UInt64 := 0
  pid : UInt16 := 0
  authentication : UInt8 := 0
  name : List UInt8 := []
  deriving DecidableEq, Repr

namespace Receiver

/-! ### `Receiver::Events` -/

def pairStatus : UInt8 := 0x4a
def passkeyRequest : UInt8 := 0x4d
def deviceDiscovered : UInt8 := 0x4f
def discoveryStatus : UInt8 := 0x53
def boltPairStatus : UInt8 := 0x54

/-- `report.paramBegin()[i]`. -/
def param (report : Report) (i : Nat) : UInt8 := report.byteAt (Hidpp.Offset.parameters + i)

/-- `LongParamLength - 3`, the bytes of a name that one report carries. -/
def blockSize : Nat := ReportType.long.paramLength - 3

/-- `std::string::resize(n, ' ')`. -/
def resizeName (name : List UInt8) (n : Nat) : List UInt8 :=
  name.take n ++ List.replicate (n - name.length) 0x20

/-- The loop over the bytes of a block from position `j` on; `true` where the name ends before
them. -/
def writeBlock (name : List UInt8) (j : Nat) : List UInt8 → List UInt8 × Bool
  | [] => (name, false)
  | b :: bytes =>
    if j < name.length then writeBlock (name.set j b) (j + 1) bytes else (name, true)

/-- The bytes that a name report carries. -/
def blockBytes (report : Report) : List UInt8 :=
  (List.range blockSize).map fun i => param report (i + 3)

/-- What the report with block number zero makes of the event, whatever it was. -/
def headerEvent (report : Report) : DeviceDiscoveryEvent where
  deviceType := param report 3
  pid := (param report 5).toUInt16 <<< 8 ||| (param report 4).toUInt16
  address := (List.range 6).foldl
    (fun address i => address ||| (param report (6 + i)).toUInt64 <<< (8 * i).toUInt64) 0
  authentication := param report 14
  seqNum := report.address
  name := []

/-- `Receiver::fillDeviceDiscoveryEvent` (`Receiver.cpp:301-344`): the event and what is
returned. -/
def fillDeviceDiscoveryEvent (event : DeviceDiscoveryEvent) (report : Report) :
    DeviceDiscoveryEvent × Bool :=
  if param report 1 = 0 then (headerEvent report, false)
  else if event.seqNum ≠ report.address then (event, false)
  else
    let name := if param report 1 = 1 then resizeName event.name (param report 2).toNat
      else event.name
    let written := writeBlock name (((param report 1).toNat - 1) * blockSize) (blockBytes report)
    ({ event with name := written.1 }, written.2)

/-- The field `pairing` of `Receiver::pairStatusEvent`. -/
def pairStatusPairing (report : Report) : Bool := decide (param report 0 &&& 1 ≠ 0)

/-- The field `pairing` of `Receiver::boltPairStatusEvent`. -/
def boltPairStatusPairing (report : Report) : Bool := decide (report.address = 0)

/-- The field `discovering` of `Receiver::discoveryStatusEvent`. -/
def discoveryStatusDiscovering (report : Report) : Bool := decide (report.address = 0)

/-- `Receiver::passkeyEvent`. -/
def passkeyEvent (report : Report) : List UInt8 := (List.range 6).map (param report)

@[simp] theorem length_blockBytes (report : Report) : (blockBytes report).length = blockSize := by
  simp [blockBytes]

theorem getElem?_blockBytes (report : Report) {i : Nat} (hi : i < blockSize) :
    (blockBytes report)[i]? = some (param report (i + 3)) := by
  simp [blockBytes, hi]

@[simp] theorem length_resizeName (name : List UInt8) (n : Nat) :
    (resizeName name n).length = n := by
  simp only [resizeName, List.length_append, List.length_take, List.length_replicate]
  omega

/-- A name of that length stays as it is. -/
theorem resizeName_eq_self {name : List UInt8} {n : Nat} (h : name.length = n) :
    resizeName name n = name := by
  subst h
  simp [resizeName]

@[simp] theorem length_writeBlock (name : List UInt8) (j : Nat) (bytes : List UInt8) :
    (writeBlock name j bytes).1.length = name.length := by
  induction bytes generalizing name j with
  | nil => rfl
  | cons b bytes ih =>
    rw [writeBlock]
    split
    · rw [ih, List.length_set]
    · rfl

/-- A block of bytes runs over the end of the name exactly if it reaches beyond it. -/
theorem writeBlock_ends (name : List UInt8) (j : Nat) {bytes : List UInt8} (h : bytes ≠ []) :
    (writeBlock name j bytes).2 = decide (name.length < j + bytes.length) := by
  induction bytes generalizing name j with
  | nil => exact absurd rfl h
  | cons b bytes ih =>
    rw [writeBlock]
    by_cases hj : j < name.length
    · rw [if_pos hj]
      by_cases hbytes : bytes = []
      · subst hbytes
        simp only [writeBlock, List.length_cons, List.length_nil]
        exact (decide_eq_false (by omega)).symm
      · rw [ih (name.set j b) (j + 1) hbytes, List.length_set, List.length_cons]
        exact decide_eq_decide.mpr (by omega)
    · rw [if_neg hj]
      exact (decide_eq_true (by rw [List.length_cons]; omega)).symm

/-- The bytes of the block stand where they belong and the others stay. -/
theorem getElem?_writeBlock (name : List UInt8) (j : Nat) (bytes : List UInt8) {p : Nat}
    (hp : p < name.length) :
    (writeBlock name j bytes).1[p]? =
      if j ≤ p ∧ p < j + bytes.length then bytes[p - j]? else name[p]? := by
  induction bytes generalizing name j with
  | nil => rw [writeBlock, if_neg (by rw [List.length_nil]; omega)]
  | cons b bytes ih =>
    rw [writeBlock]
    by_cases hj : j < name.length
    · rw [if_pos hj, ih (name.set j b) (j + 1) (by simpa using hp), List.length_cons]
      by_cases hpj : p = j
      · subst hpj
        rw [if_neg (by omega), if_pos (by omega), Nat.sub_self, List.getElem?_set_self hp]
        rfl
      · rw [List.getElem?_set_ne (Ne.symm hpj)]
        by_cases hin : j + 1 ≤ p ∧ p < j + 1 + bytes.length
        · rw [if_pos hin, if_pos (by omega), show p - j = p - (j + 1) + 1 by omega,
            List.getElem?_cons_succ]
        · rw [if_neg hin, if_neg (by omega)]
    · rw [if_neg hj, if_neg (by omega)]

end Receiver

end Logid.Backend.Hidpp10
