import Logid.Actions.Moves

/-!
# Edits of an axis gesture

Rendering of `AxisGesture` in doubles (`AxisGesture.cpp:29-186`): what it does with a press and moves,
the methods `setAxis`, `setMultiplier` and `setThreshold`, which change the gesture and its entry, and
what a gesture that is loaded from the entry would be. A run ends where an `int` overflows. The
conversion of a double that no `int` holds is undefined; what the machine gives then is a parameter.
-/

namespace Logid.Actions.AxisEdits

open Float.Model (UnpackedFloat)

/-! ## Doubles -/

/-- A double with an exponent from 0 on is an integer. -/
def floor (x : Float) : Float :=
  match x.toModel.unpack with
  | .finite sign mantissa exponent _ =>
    if 0 ≤ exponent then x else .ofInt (sign.apply mantissa / 2 ^ exponent.natAbs)
  | _ => x

/-- The double without its fraction; `none` for an infinity and what is not a number. -/
def truncated (x : Float) : Option Int :=
  match x.toModel.unpack with
  | .finite sign mantissa exponent _ => some (UnpackedFloat.roundToInt sign mantissa exponent)
  | .zero _ => some 0
  | _ => none

/-- `(int) x`, with what the machine gives where no `int` holds it. -/
def toInt (other : Float → Int32) (x : Float) : Int :=
  match truncated x with
  | some n => if FitsInt32 n then n else (other x).toInt
  | none => (other x).toInt

/-! ## The gesture -/

/-- `config::AxisGesture` -/
structure Entry where
  axis : Option (String ⊕ UInt32) := none
  axisMultiplier : Option Float := none
  threshold : Option Int32 := none

/-- `_config.threshold.value_or(defaults::gesture_threshold)` -/
def thresholdOr (threshold : Option Int32) : Int := (threshold.map Int32.toInt).getD gestureThreshold

/-- `_config.axis_multiplier.value_or(1)` -/
def Entry.configured (entry : Entry) : Float := entry.axisMultiplier.getD 1

/-- `AxisGesture` -/
structure Live where
  axis : Int := 0
  axisRemainder : Float := 0
  hiresRemainder : Int := 0
  inputAxis : Option UInt32
  multiplier : Float := 1
  hiresMultiplier : Float := 1

/-- `move_floor` with its sign and the `_axis_remainder`, of the part of a movement that is beyond the
threshold. -/
def scaled (configured multiplier : Float) (start : Int) : Float × Float :=
  let move := .ofInt start * (if configured < 0 then -configured else configured) * multiplier
  let moveFloor := floor move
  let axisRemainder := move - moveFloor
  let (moveFloor, axisRemainder) :=
    -- the difference is rounded, so it can be 1
    if 1 ≤ axisRemainder then (moveFloor + floor axisRemainder, axisRemainder - floor axisRemainder)
    else (moveFloor, axisRemainder)
  (if configured < 0 then -moveFloor else moveFloor, axisRemainder)

/-- `(int) move_floor` -/
def units (other : Float → Int32) (configured multiplier : Float) (start : Int) : Int :=
  toInt other (scaled configured multiplier start).1

/-- A tiny movement back is no unit: its remainder is rounded to 1. -/
example : units (fun _ => .minValue) 1e-300 1 (-1) = 0 := by decide +kernel

/-- The axes whose gestures `setHiresMultiplier` scales. -/
def isHires (inputAxis : Option UInt32) : Bool := (inputAxis.bind getLowResAxis).isSome

namespace Live

def make (codes : EventCodes) (entry : Entry) : Live where
  inputAxis := entry.axis.bind fun
    | .inl name => codes.axisCode name
    | .inr code => some code

def press (entry : Entry) (g : Live) (initThreshold : Bool) : Live :=
  { g with
    axis := if initThreshold then thresholdOr entry.threshold else 0
    axisRemainder := 0
    hiresRemainder := 0 }

/-- What `move` counts of a movement that ends beyond the threshold. -/
def start (entry : Entry) (g : Live) (axis : Int) : Int :=
  if g.axis < thresholdOr entry.threshold then g.axis + axis - thresholdOr entry.threshold else axis

/-- The end of `move`: the units go to the input axis, and in steps to a low-resolution axis. -/
def send (g : Live) (inputAxis : UInt32) (axis movement : Int) : List InputEvent × Option Live :=
  -- the argument is the movement, not the code of the axis
  match getLowResAxis (.ofInt axis) with
  | none => ([.axis inputAxis movement], some g)
  | some lowResAxis =>
    -- `abs` needs the opposite too
    if (g.hiresRemainder + movement).natAbs ≤ 2147483647 then
      let (steps, remainder) := AxisGesture.lowResSteps (g.hiresRemainder + movement)
      (.axis inputAxis movement :: steps.toList.map fun steps => .axis lowResAxis steps,
        some { g with hiresRemainder := remainder })
    else ([.axis inputAxis movement], none)

/-- The events of `move`, and the gesture after it, unless an `int` overflows. -/
def move (other : Float → Int32) (entry : Entry) (g : Live) (axis : Int) :
    List InputEvent × Option Live :=
  match g.inputAxis with
  | none => ([], some g)
  | some inputAxis =>
    let newAxis := g.axis + axis
    if FitsInt32 newAxis then
      if newAxis > thresholdOr entry.threshold then
        let start := g.start entry axis
        let axisRemainder := (scaled entry.configured g.multiplier start).2
        send { g with axis := newAxis, axisRemainder := axisRemainder } inputAxis axis
          (units other entry.configured g.multiplier start)
      else ([], some { g with axis := newAxis })
    else ([], none)

def setHiresMultiplier (entry : Entry) (g : Live) (multiplier : Float) : Live :=
  let g := { g with hiresMultiplier := multiplier }
  if isHires g.inputAxis then { g with multiplier := entry.configured * multiplier } else g

/-- A gesture made of its entry, to which its feature gives a hi-res multiplier or not. -/
def fresh (codes : EventCodes) (given : Option Float) (entry : Entry) : Live :=
  match given with
  | some hires => (make codes entry).setHiresMultiplier entry hires
  | none => make codes entry

end Live

/-! ## Edits -/

inductive Edit where
  | setAxis (axis : String)
  | setMultiplier (multiplier : Float)
  | setThreshold (threshold : Int32)

/-- A gesture with its entry. -/
structure Edited where
  gesture : Live
  entry : Entry

/-- `none` for the `InvalidEventCode` that `toAxisCode` throws. -/
def setAxis (codes : EventCodes) (axis : String) (s : Edited) : Option Edited :=
  if axis.isEmpty then
    let entry := { s.entry with axis := none }
    some ⟨.setHiresMultiplier entry { s.gesture with inputAxis := none } s.gesture.hiresMultiplier,
      entry⟩
  else
    (codes.axisCode axis).map fun code =>
      let entry := { s.entry with axis := some (.inl axis) }
      ⟨.setHiresMultiplier entry { s.gesture with inputAxis := some code } s.gesture.hiresMultiplier,
        entry⟩

def setMultiplier (multiplier : Float) (s : Edited) : Edited :=
  let entry := { s.entry with axisMultiplier := some multiplier }
  ⟨.setHiresMultiplier entry { s.gesture with multiplier := multiplier } s.gesture.hiresMultiplier,
    entry⟩

def setThreshold (threshold : Int32) (s : Edited) : Edited :=
  { s with entry := { s.entry with threshold := Gesture.resetZero threshold } }

/-- The accepted calls. -/
def editing (codes : EventCodes) (given : Option Float) (entry : Entry) : Machine Edited Edit where
  init := ⟨.fresh codes given entry, entry⟩
  step s
    | .setAxis axis => setAxis codes axis s
    | .setMultiplier multiplier => some (setMultiplier multiplier s)
    | .setThreshold threshold => some (setThreshold threshold s)

/-! ## Reactions -/

/-- What each move sends, up to the one in which an `int` overflows. -/
def reactions (other : Float → Int32) (entry : Entry) : Live → List Int16 → List (List InputEvent)
  | _, [] => []
  | g, n :: moves =>
    match g.move other entry n.toInt with
    | (events, some g) => events :: reactions other entry g moves
    | (events, none) => [events]

/-- Two gestures with one entry send the same after every press and with all moves. -/
def ReactsLike (other : Float → Int32) (entry : Entry) (g g' : Live) : Prop :=
  ∀ (initThreshold : Bool) (moves : List Int16),
    reactions other entry (g.press entry initThreshold) moves =
      reactions other entry (g'.press entry initThreshold) moves

/-- The movement can be scaled as a whole: `_axis` has room for it beyond the threshold, and for what
has to be moved before it if it goes back. -/
def Reaches (threshold : Option Int32) (n : Int) : Prop :=
  thresholdOr threshold + max n (1 - n) ≤ 2147483647

/-- Two multipliers scale every movement to the same number of units. -/
def SameScale (other : Float → Int32) (threshold : Option Int32) (configured k l : Float) : Prop :=
  ∀ n : Int16, Reaches threshold n.toInt →
    units other configured k n.toInt = units other configured l n.toInt

/-- `_multiplier` of a gesture that is loaded: only an axis that is hi-res is scaled, and only if the
feature has given a multiplier. -/
def loadedMultiplier (inputAxis : Option UInt32) (given : Option Float) (configured : Float) :
    Float :=
  if isHires inputAxis then (given.map (configured * ·)).getD 1 else 1

/-- The edit leaves the scale of a gesture that is loaded from the entry. -/
def KeepsScale (other : Float → Int32) (codes : EventCodes) (given : Option Float) (s : Edited) :
    Edit → Prop
  | .setThreshold threshold =>
    -- another threshold can leave room for more movements
    s.gesture.inputAxis = none ∨
      SameScale other (Gesture.resetZero threshold) s.entry.configured s.gesture.multiplier
        (loadedMultiplier s.gesture.inputAxis given s.entry.configured)
  | .setMultiplier multiplier =>
    s.gesture.inputAxis = none ∨ isHires s.gesture.inputAxis ∧ given.isSome ∨
      -- the multiplier is applied twice
      SameScale other s.entry.threshold multiplier
        (if isHires s.gesture.inputAxis then multiplier * 1 else multiplier) 1
  | .setAxis axis =>
    axis = "" ∨ ∀ code, codes.axisCode axis = some code →
      if isHires (some code) then
        given.isSome ∨
          SameScale other s.entry.threshold s.entry.configured (s.entry.configured * 1) 1
      -- the factor of the axis before stays
      else SameScale other s.entry.threshold s.entry.configured s.gesture.multiplier 1

end Logid.Actions.AxisEdits
