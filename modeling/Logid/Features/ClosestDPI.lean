import Logid.Backend.Hidpp20.AdjustableDPI
import Logid.Features.Configure
import Logid.Misc.Nearest

/-!
# The supported values of a sensor

What a list of DPI values supports, and for which requests `getClosestDPI` (`features/DPI.cpp:28-61`)
finds the nearest of it.
-/

namespace Logid.Features

open Backend.Hidpp20 (SensorDPIList)
open IsNearest (gridDistance Precedes RoundsTo)

/-- The least value, as `getClosestDPI` finds it. -/
def lowest (first : UInt16) (rest : List UInt16) : UInt16 :=
  rest.foldl (fun m a => if a < m then a else m) first

def highest (first : UInt16) (rest : List UInt16) : UInt16 :=
  rest.foldl (fun m a => if m < a then a else m) first

/-- The values of the list, and in a range the grid from the least of them up to the greatest. -/
def supported (list : SensorDPIList) : Set Int :=
  {v | (∃ dpi ∈ list.dpis, v = dpi.toNat) ∨
    (list.isRange = true ∧ ∃ lo ∈ list.dpis, ∃ hi ∈ list.dpis,
      (∀ dpi ∈ list.dpis, lo ≤ dpi ∧ dpi ≤ hi) ∧
        ∃ k : Nat, v = lo.toNat + k * list.dpiStep.toNat ∧ v ≤ hi.toNat)}

/-- The distance of a request from a value. -/
def dpiDistance (dpi value : UInt16) : Int := |(dpi.toNat : Int) - value.toNat|

/-- A range has a value and a step, and its grid is no farther from a request between its ends than its
values are. -/
def GridNear (list : SensorDPIList) (dpi : UInt16) : Prop :=
  list.isRange = true →
    match list.dpis with
    | [] => False
    | first :: rest =>
      list.dpiStep ≠ 0 ∧
        (dpi < lowest first rest ∨ highest first rest < dpi ∨
          ∀ value ∈ first :: rest,
            gridDistance (lowest first rest).toNat list.dpiStep.toNat dpi.toNat ≤
              dpiDistance dpi value)

/-- `getClosestDPI` is defined, and if the list supports a value its result is a nearest one. -/
def ChoosesNearest (list : SensorDPIList) (dpi : UInt16) : Prop :=
  ∃ closest, getClosestDPI list dpi = some closest ∧
    ((supported list).Nonempty → IsNearest (supported list) dpi.toNat closest.toNat)

/-- `getClosestDPI` is defined on the list. -/
def ChoosesValue (list : SensorDPIList) : Prop :=
  list.isRange = true → list.dpis ≠ [] ∧ list.dpiStep ≠ 0

/-! ## The side of the result -/

/-- A side of a bound, with the bound. -/
inductive Side where
  | atMost
  | atLeast
  deriving DecidableEq, Repr

def Side.Holds (bound value : UInt16) : Side → Prop
  | atMost => value ≤ bound
  | atLeast => bound ≤ value

/-- In the search for the nearest to the request the bound precedes all values on its other side. -/
def ValuesOnSide (dpis : List UInt16) (side : Side) (bound dpi : UInt16) : Prop :=
  ∀ value ∈ dpis, ¬side.Holds bound value →
    ¬Precedes dpis (fun value => (value.toNat : Int)) dpi.toNat value bound

/-- The end of the range beyond which the request is, or the place on the grid (cut to 16 bits) that it
is within half a step of, is on the side. -/
def RangeOnSide (first : UInt16) (rest : List UInt16) (step : UInt16) (side : Side)
    (bound dpi : UInt16) : Prop :=
  if highest first rest < dpi then side.Holds bound (highest first rest)
  else if dpi < lowest first rest then side.Holds bound (lowest first rest)
  else
    ∀ k : Nat, RoundsTo step.toNat dpi.toNat ((lowest first rest).toNat + k * step.toNat) →
      side.Holds bound (UInt16.ofNat ((lowest first rest).toNat + k * step.toNat))

/-- The list answers the request on the side of the bound. -/
def AnswersOnSide (list : SensorDPIList) (side : Side) (bound dpi : UInt16) : Prop :=
  match list.isRange, list.dpis with
  | true, first :: rest => RangeOnSide first rest list.dpiStep side bound dpi
  | _, dpis => ValuesOnSide dpis side bound dpi

end Logid.Features
