import Logid.Actions.Presses
import Logid.Features.ClosestDPI

/-!
# The direction of ChangeDPI

`ChangeDPI::press` (`actions/ChangeDPI.cpp:47-68`) adds an `int` to the DPI of a sensor and requests
the sum, cut to 16 bits.
-/

namespace Logid.Actions.ChangeDPI

open Backend.Hidpp20 (Hardware SensorDPIList)
open Features (Info AnswersOnSide)

/-- `last_dpi + inc`, as the parameter of `setDPI`; `none` where it overflows an `int`. -/
def request (last : UInt16) (inc : Int32) : Option UInt16 :=
  let sum := last.toNat + inc.toInt
  if sum ≤ Int32.maxValue.toInt then some (UInt16.ofInt sum) else none

/-- A press is defined and moves the DPI of the sensor in the direction of `inc`, if at all. -/
def MovesAsAsked (info : Info) (hw : Hardware) (inc : Int32) (sensor : UInt8) : Prop :=
  (request (hw.dpi sensor) inc).isSome ∧
    ∃ hw', (Press.changeDPI inc sensor).effect info hw = some hw' ∧
      (inc < 0 → hw'.dpi sensor ≤ hw.dpi sensor) ∧ (0 < inc → hw.dpi sensor ≤ hw'.dpi sensor)

/-- The sum fits an `int`, and cut to 16 bits it is zero, which sets nothing, or a request that the
list answers on the side of the last value that is asked for. -/
def RequestOnSide (list : SensorDPIList) (inc : Int32) (last : UInt16) : Prop :=
  ∃ dpi, request last inc = some dpi ∧
    (dpi ≠ 0 →
      (inc < 0 → AnswersOnSide list .atMost last dpi) ∧
        (0 < inc → AnswersOnSide list .atLeast last dpi))

end Logid.Actions.ChangeDPI
