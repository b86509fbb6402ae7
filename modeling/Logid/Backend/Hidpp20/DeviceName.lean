import Logid.Backend.Hidpp.Report

/-!
# Device names

Rendering of `_getName` (`features/DeviceName.cpp:25-46`). Length, number of calls, counter and offset are
bytes there, the counter of the inner loop is a `size_t`.
-/

namespace Logid.Backend.Hidpp20.DeviceName

open Hidpp (ReportType)

/-- What a call of `_getName` has done: the parameters it called the function with, and the name. -/
structure Progress where
  calls : List (List UInt8) := []
  name : List UInt8 := []
  deriving DecidableEq, Repr

/-- The inner loop, from `j` on with `left` rounds to go: the name, and whether it was returned.
`none` where `name_section[j]` is past the end. -/
def copySection (length offset : UInt8) (nameSection : List UInt8) :
    Nat → Nat → List UInt8 → Option (List UInt8 × Bool)
  | 0, _, name => some (name, false)
  | left + 1, j, name =>
    if offset.toNat + j ≥ length.toNat then some (name, true)
    else
      match nameSection[j]? with
      | some byte => copySection length offset nameSection left (j + 1) (name ++ [byte])
      | none => none

/-- The outer loop, from `i` on with `left` rounds to go. The device answers the call with the number
`k` by `fcall k`. -/
def readSections (length : UInt8) (fcall : Nat → List UInt8 → List UInt8) :
    Nat → UInt8 → Progress → Option Progress
  | 0, _, progress => some progress
  | left + 1, i, progress => do
    let params := [i * UInt8.ofNat ReportType.long.paramLength]
    let nameSection := fcall progress.calls.length params
    let calls := progress.calls ++ [params]
    let (name, returned) ←
      copySection length (params.getD 0 0) nameSection ReportType.long.paramLength 0 progress.name
    if returned then return ⟨calls, name⟩
    else readSections length fcall left (i + 1) ⟨calls, name⟩

/-- `function_calls`. -/
def functionCalls (length : UInt8) : UInt8 :=
  let whole := length / UInt8.ofNat ReportType.long.paramLength
  if length % UInt8.ofNat ReportType.long.paramLength ≠ 0 then whole + 1 else whole

def getName (length : UInt8) (fcall : Nat → List UInt8 → List UInt8) : Option Progress :=
  readSections length fcall (functionCalls length).toNat 0 {}

end Logid.Backend.Hidpp20.DeviceName
