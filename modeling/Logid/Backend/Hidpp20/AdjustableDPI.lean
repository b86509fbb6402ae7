import Logid.Backend.Hidpp.Report
import Logid.Backend.Hidpp20.Features
import Logid.Misc.BigEndian

/-!
# The DPI list of a sensor

Rendering of `AdjustableDPI::getSensorDPIList` (`features/AdjustableDPI.cpp:32-53`) on the response that
`callFunction` returns, the parameters of a report.
-/

namespace Logid.Backend.Hidpp20.AdjustableDPI

open Hidpp (Report)

/-- The first value that is not a DPI: an entry from here on is the step of a range. -/
def rangeMarker : UInt16 := 0xe000

/-- The loop, with the bytes from `response[i]` on; `none` where `response[i + 1]` is past the end. -/
def decodeEntries : List UInt8 → SensorDPIList → Option SensorDPIList
  | [], dpiList => some dpiList
  | [_], _ => none
  | high :: low :: rest, dpiList =>
    let dpi := BigEndian.word high low
    if dpi = 0 then some dpiList
    else if rangeMarker ≤ dpi then
      decodeEntries rest { dpiList with isRange := true, dpiStep := dpi - rangeMarker }
    else decodeEntries rest { dpiList with dpis := dpiList.dpis ++ [dpi] }

def getSensorDPIList (response : Report) : Option SensorDPIList :=
  decodeEntries (response.params.drop 1) {}

/-! ## What a response says -/

/-- The complete entries of a response, two bytes each from the second byte on. -/
def completeEntries (response : Report) : List UInt16 := BigEndian.words (response.params.drop 1)

/-- Entries split into the values of DPI and the step. -/
def ofEntries (entries : List UInt16) : SensorDPIList where
  dpis := entries.filter fun entry => entry < rangeMarker
  isRange := entries.any fun entry => rangeMarker ≤ entry
  dpiStep :=
    match (entries.filter fun entry => rangeMarker ≤ entry).getLast? with
    | some marker => marker - rangeMarker
    | none => 0

/-- The list that a response says: its entries up to the first zero. -/
def saidList (response : Report) : SensorDPIList :=
  ofEntries ((completeEntries response).takeWhile (· ≠ 0))

end Logid.Backend.Hidpp20.AdjustableDPI
