import Logid.Actions.Objects
import Logid.Misc.Machine
import Logid.Misc.RunningTotal

/-!
# Gestures over a press

The movements that a gesture is given after a press, one after another, and what it does with them:
how often an `IntervalGesture` fires, and what an `AxisGesture` sends. An `int` does not overflow in a
run, which ends where one would.
-/

namespace Logid.Actions

/-- An `int` holds the number. -/
def FitsInt32 (n : Int) : Prop := -2147483648 ≤ n ∧ n ≤ 2147483647

instance (n : Int) : Decidable (FitsInt32 n) := inferInstanceAs (Decidable (_ ∧ _))

/-- The total of the movements, from what `press` sets `_axis` to. -/
def pressedAxis (config : Config.Gesture) (initThreshold : Bool) : Int :=
  if initThreshold then Gesture.thresholdOr config else 0

def movements (moves : List Int16) : List Int := moves.map Int16.toInt

/-- How far a total is beyond the threshold. -/
def beyond (config : Config.Gesture) (total : Int) : Int :=
  max 0 (total - Gesture.thresholdOr config)

/-! ## Intervals -/

/-- `_config.interval.value_or(defaults::gesture_interval)` -/
def Gesture.intervalOr (config : Config.Gesture) : Int :=
  ((Gesture.interval config).map Int32.toInt).getD gestureInterval

/-- The whole intervals between the threshold and a total. -/
def intervals (config : Config.Gesture) (total : Int) : Int :=
  beyond config total / Gesture.intervalOr config

namespace IntervalGesture

/-- No `int` overflows in `move`. -/
def Defined (config : Config.Gesture) (g : IntervalGesture) (axis : Int) : Prop :=
  0 < Gesture.intervalOr config → FitsInt32 (g.axis + axis) ∧
    (Gesture.thresholdOr config ≤ g.axis + axis →
      FitsInt32 (g.axis + axis - Gesture.thresholdOr config))

instance (config : Config.Gesture) (g : IntervalGesture) (axis : Int) :
    Decidable (g.Defined config axis) :=
  inferInstanceAs (Decidable (_ → _))

/-- `move` presses and releases the action. -/
def fires (config : Config.Gesture) (g : IntervalGesture) (axis : Int) : Bool :=
  (g.advance config axis).2.2 && g.action.isSome

/-- The gesture, and how often its action has fired. -/
structure Counted where
  gesture : IntervalGesture
  fired : Nat := 0

def counting (config : Config.Gesture) (g : IntervalGesture) : Machine Counted Int16 where
  init := { gesture := g }
  step c n :=
    if c.gesture.Defined config n.toInt then
      some {
        gesture := (c.gesture.move config n.toInt).1
        fired := c.fired + (c.gesture.fires config n.toInt).toNat }
    else none

/-- A press and moves. -/
def countedAfter (config : Config.Gesture) (g : IntervalGesture) (initThreshold : Bool)
    (moves : List Int16) : Option Counted :=
  (counting config (g.press config initThreshold)).run
    (counting config (g.press config initThreshold)).init moves

end IntervalGesture

/-! ## Axes -/

/-- What the events move an axis by. -/
def emitted (code : UInt32) : List InputEvent → Int
  | [] => 0
  | .axis c movement :: events => (if c = code then movement else 0) + emitted code events
  | .key _ _ :: events => emitted code events

namespace AxisGesture

/-- No `int` overflows in `move`, and `(int) move_floor` is the number. -/
def Defined (config : Config.Gesture) (g : AxisGesture) (axis : Int) : Prop :=
  g.inputAxis ≠ none → FitsInt32 (g.axis + axis) ∧
    (Gesture.thresholdOr config < g.axis + axis →
      FitsInt32 (g.scaled config axis) ∧
        ((getLowResAxis (.ofInt axis)).isSome →
          -- `abs` needs the opposite too
          (g.hiresRemainder + g.scaled config axis).natAbs ≤ 2147483647))

instance (config : Config.Gesture) (g : AxisGesture) (axis : Int) :
    Decidable (g.Defined config axis) :=
  inferInstanceAs (Decidable (_ → _))

/-- The gesture, and what it has sent to the virtual input device. -/
structure Emission where
  gesture : AxisGesture
  events : List InputEvent := []
  deriving DecidableEq

def emitting (config : Config.Gesture) (g : AxisGesture) : Machine Emission Int16 where
  init := { gesture := g }
  step e n :=
    if e.gesture.Defined config n.toInt then
      let (gesture, events) := e.gesture.move config n.toInt
      some { gesture := gesture, events := e.events ++ events }
    else none

/-- A press and moves. -/
def emissionAfter (config : Config.Gesture) (g : AxisGesture) (initThreshold : Bool)
    (moves : List Int16) : Option Emission :=
  (emitting config (g.press config initThreshold)).run
    (emitting config (g.press config initThreshold)).init moves

/-- A press and moves in which no `int` overflows. -/
def DefinedAfter (config : Config.Gesture) (g : AxisGesture) (initThreshold : Bool)
    (moves : List Int16) : Prop :=
  (emitting config (g.press config initThreshold)).Follows
    (fun e n => e.gesture.Defined config n.toInt)
    (emitting config (g.press config initThreshold)).init moves

instance (config : Config.Gesture) (g : AxisGesture) (initThreshold : Bool) (moves : List Int16) :
    Decidable (DefinedAfter config g initThreshold moves) :=
  Machine.decidableFollows _ _

/-! What the moves lose and what they send astray, for a gesture that is not scaled further. -/

def multiplierOr (config : Config.Gesture) : Rat := (Gesture.axisMultiplier config).getD 1

/-- The movement without its sign, before it is rounded. -/
def exactMovement (config : Config.Gesture) (total axis : Int) : Rat :=
  |multiplierOr config| * (beyond config (total + axis) - beyond config total : Int)

/-- The sign of the multiplier, `negative_multiplier`. -/
def multiplierSign (config : Config.Gesture) : Int := if multiplierOr config < 0 then -1 else 1

/-- What a move sends to the axis. -/
def movement (config : Config.Gesture) (total axis : Int) : Int :=
  multiplierSign config * (exactMovement config total axis).floor

/-- The part of a unit that a move loses. -/
def lost (config : Config.Gesture) (total axis : Int) : Rat :=
  exactMovement config total axis - (exactMovement config total axis).floor

/-- What a move adds on the axis `code` since its amount is taken for the code of an axis, and the
remainder afterwards. -/
def strayStep (config : Config.Gesture) (code : UInt32) (remainder total axis : Int) : Int × Int :=
  if Gesture.thresholdOr config < total + axis then
    match getLowResAxis (.ofInt axis) with
    | some lowResAxis =>
      let (steps, remainder) := lowResSteps (remainder + movement config total axis)
      (if lowResAxis = code then steps.getD 0 else 0, remainder)
    | none => (0, remainder)
  else (0, remainder)

/-- The sum of them. -/
def stray (config : Config.Gesture) (code : UInt32) : Int → Int → List Int → Int
  | _, _, [] => 0
  | remainder, total, axis :: moves =>
    let (steps, remainder) := strayStep config code remainder total axis
    steps + stray config code remainder (total + axis) moves

/-- `REL_WHEEL` and `REL_HWHEEL` -/
def relWheel : UInt32 := 0x08
def relHWheel : UInt32 := 0x06

/-- The ticks of a hi-res axis are sent to its low-res axis, and stay in step with it; for another
axis no ticks are sent. -/
structure Paired (code : UInt32) (events : List InputEvent) : Prop where
  ticks : ∀ c n, .axis c n ∈ events → c = relWheel ∨ c = relHWheel →
    c = code ∨ getLowResAxis code = some c
  inStep : ∀ lowResAxis, getLowResAxis code = some lowResAxis →
    (emitted code events - 120 * emitted lowResAxis events).natAbs < 120

/-- A move beyond the threshold is by an amount that names the axes which the input axis names. -/
def NamesAxis (config : Config.Gesture) (e : Emission) (n : Int16) : Prop :=
  Gesture.thresholdOr config < e.gesture.axis + n.toInt →
    getLowResAxis (.ofInt n.toInt) = e.gesture.inputAxis.bind getLowResAxis

instance (config : Config.Gesture) (e : Emission) (n : Int16) : Decidable (NamesAxis config e n) :=
  inferInstanceAs (Decidable (_ → _))

end AxisGesture

/-! ## All gestures -/

namespace GestureObject

/-- No `int` of the gesture overflows in `move`. -/
def Defined (config : Config.Gesture) (axis : Int) : GestureObject → Prop
  | .axis g => g.Defined config axis
  | .interval g => g.Defined config axis
  | .release g => FitsInt32 (g.axis + axis)
  | .threshold g => FitsInt32 (g.axis + axis)
  | .null g => FitsInt32 (g.axis + axis)

instance (config : Config.Gesture) (axis : Int) :
    (g : GestureObject) → Decidable (g.Defined config axis)
  | .axis g => inferInstanceAs (Decidable (g.Defined config axis))
  | .interval g => inferInstanceAs (Decidable (g.Defined config axis))
  | .release g => inferInstanceAs (Decidable (FitsInt32 (g.axis + axis)))
  | .threshold g => inferInstanceAs (Decidable (FitsInt32 (g.axis + axis)))
  | .null g => inferInstanceAs (Decidable (FitsInt32 (g.axis + axis)))

end GestureObject

end Logid.Actions
