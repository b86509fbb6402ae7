import Mathlib.Data.Int.Order.Basic
import Mathlib.Data.String.Basic

/-!
# Directions of gestures

Rendering of `GestureAction::toDirection` and `fromDirection` (`GestureAction.cpp:30-77`).
-/

namespace Logid.Actions

inductive Direction where
  | none
  | up
  | down
  | left
  | right
  deriving DecidableEq, Repr

/-- `std::transform` with `::tolower`, as for every name the daemon reads. -/
def toLower (s : String) : String := String.ofList (s.toList.map Char.toLower)

namespace Direction

/-- `none` for the `std::invalid_argument` of a name that is no direction. -/
def ofName (direction : String) : Option Direction :=
  match toLower direction with
  | "up" => some .up
  | "down" => some .down
  | "left" => some .left
  | "right" => some .right
  | "none" => some .none
  | _ => Option.none

/-- `fromDirection` -/
def name : Direction → String
  | .up => "up"
  | .down => "down"
  | .left => "left"
  | .right => "right"
  | .none => "none"

theorem ofName_name (d : Direction) : ofName d.name = some d := by
  cases d <;> decide

/-- The direction of a movement. -/
def ofMove (x y : Int) : Direction :=
  if x ≥ 0 ∧ y ≥ 0 then (if x ≥ y then .right else .down)
  else if x < 0 ∧ y ≥ 0 then (if -x ≤ y then .down else .left)
  else if x ≤ 0 then (if x ≤ y then .left else .up)
  else if x ≤ -y then .up
  else .right

end Direction

end Logid.Actions
