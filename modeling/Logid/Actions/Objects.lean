import Mathlib.Algebra.Order.Floor.Defs
import Mathlib.Algebra.Order.Ring.Unbundled.Rat
import Mathlib.Data.Rat.Floor
import Logid.Actions.Entries

/-!
# Action and gesture objects

Rendering of the objects that the daemon makes of configuration entries: `KeypressAction.cpp:44-127`,
the five classes under `actions/gesture/` and `GestureAction.cpp:79-278`. An object refers to its
entry, so its methods take what the entry is when they are called. They give the object afterwards and
what they send to the virtual input device. The other actions send nothing to it.
-/

namespace Logid.Actions

/-- `libevdev_event_code_from_name` for the keys and for the axes. -/
structure EventCodes where
  keyCode : String → Option UInt32
  axisCode : String → Option UInt32

/-- What `InputDevice` writes. -/
inductive InputEvent where
  | key (code : UInt32) (down : Bool)
  | axis (code : UInt32) (movement : Int)
  deriving DecidableEq, Repr

/-- The keys that are down on the virtual input device. -/
abbrev Keyboard := UInt32 → Bool

/-- The last event of a key says whether it is down. -/
def Keyboard.apply (keyboard : Keyboard) : InputEvent → Keyboard
  | .key code down => Function.update keyboard code down
  | .axis _ _ => keyboard

def Keyboard.applyAll (keyboard : Keyboard) (events : List InputEvent) : Keyboard :=
  events.foldl Keyboard.apply keyboard

/-! ## Actions that are no gestures -/

structure KeypressAction where
  keys : List UInt32
  pressed : Bool
  deriving DecidableEq, Repr

namespace KeypressAction

/-- `_setConfig`; names without a code are skipped. -/
def setConfig (codes : EventCodes) (config : Config.KeypressAction) : List UInt32 :=
  match config.keys with
  | none => []
  | some (.inl key) => (codes.keyCode key).toList
  | some (.inr (.inl code)) => [code]
  | some (.inr (.inr keys)) => keys.flatMap fun
    | .inl code => [code]
    | .inr key => (codes.keyCode key).toList

def make (codes : EventCodes) (config : Config.KeypressAction) : KeypressAction :=
  { keys := setConfig codes config, pressed := false }

def press (a : KeypressAction) : KeypressAction × List InputEvent :=
  ({ a with pressed := true }, a.keys.map fun code => .key code true)

def release (a : KeypressAction) : KeypressAction × List InputEvent :=
  ({ a with pressed := false }, a.keys.map fun code => .key code false)

/-- `setKeys`; the entry is then `entryOfKeys keys`. -/
def setKeys (codes : EventCodes) (a : KeypressAction) (keys : List String) :
    KeypressAction × List InputEvent :=
  ({ a with keys := setConfig codes (entryOfKeys keys) },
    if a.pressed then a.keys.map fun code => .key code false else [])

end KeypressAction

/-- An object of a class of `config::BasicAction`. -/
inductive BasicObject where
  | keypress (action : KeypressAction)
  /-- An action with another interface. -/
  | other (interface : String) (pressed : Bool)
  deriving DecidableEq, Repr

namespace BasicObject

/-- `makeAction` of an entry. -/
def make (codes : EventCodes) : Config.BasicAction → BasicObject
  | .keypress config => .keypress (.make codes config)
  | config => .other (BasicAction.interfaceName config) false

def pressed : BasicObject → Bool
  | .keypress a => a.pressed
  | .other _ pressed => pressed

/-- `ChangeHostAction::press` and `ChangeProfile::press` do nothing. -/
def press : BasicObject → BasicObject × List InputEvent
  | .keypress a =>
    let (a, events) := a.press
    (.keypress a, events)
  | .other interface pressed =>
    if interface = "ChangeHost" ∨ interface = "ChangeProfile" then (.other interface pressed, [])
    else (.other interface true, [])

def release : BasicObject → BasicObject × List InputEvent
  | .keypress a =>
    let (a, events) := a.release
    (.keypress a, events)
  | .other interface _ => (.other interface false, [])

/-- `KeypressAction.SetKeys`; `none` where the object has no such method. -/
def setKeys (codes : EventCodes) (keys : List String) :
    BasicObject → Option (BasicObject × List InputEvent)
  | .keypress a =>
    let (a, events) := a.setKeys codes keys
    some (.keypress a, events)
  | .other _ _ => none

/-- The keys of a `KeypressAction`, which its release sends whether it is pressed or not. -/
def keysOf : Option BasicObject → List UInt32
  | some (.keypress a) => a.keys
  | _ => []

/-- `_action->press(); _action->release();` of a gesture that has an action. -/
def fire : Option BasicObject → Option BasicObject × List InputEvent
  | none => (none, [])
  | some a =>
    let (a, down) := a.press
    let (a, up) := a.release
    (some a, down ++ up)

end BasicObject

/-! ## Gestures -/

/-- `defaults::gesture_threshold` and `defaults::gesture_interval` -/
def gestureThreshold : Int := 50
def gestureInterval : Int := 120

/-- `(int16_t) n` -/
def toInt16 (n : Int) : Int := n.bmod (2 ^ 16)

/-- `_config.threshold.value_or(defaults::gesture_threshold)` -/
def Gesture.thresholdOr (config : Config.Gesture) : Int :=
  match Gesture.threshold config with
  | some threshold => threshold.toInt
  | none => gestureThreshold

structure AxisGesture where
  axis : Int := 0
  axisRemainder : Rat := 0
  hiresRemainder : Int := 0
  inputAxis : Option UInt32
  multiplier : Rat := 1
  hiresMultiplier : Rat := 1
  deriving DecidableEq

structure IntervalGesture where
  axis : Int := 0
  intervalPassCount : Int := 0
  action : Option BasicObject
  deriving DecidableEq, Repr

structure ReleaseGesture where
  axis : Int := 0
  action : Option BasicObject
  deriving DecidableEq, Repr

structure ThresholdGesture where
  axis : Int := 0
  executed : Bool := false
  action : Option BasicObject
  deriving DecidableEq, Repr

structure NullGesture where
  axis : Int := 0
  deriving DecidableEq, Repr

/-- `InputDevice::getLowResAxis`; `none` for -1. -/
def getLowResAxis (code : UInt32) : Option UInt32 :=
  if code = 0x0b then some 0x08 else if code = 0x0c then some 0x06 else none

namespace AxisGesture

def make (codes : EventCodes) (config : Config.AxisGesture) : AxisGesture where
  inputAxis := config.axis.bind fun
    | .inl name => codes.axisCode name
    | .inr code => some code

/-- The movement in units of the axis, `move_floor` with its sign. -/
def scaled (config : Config.Gesture) (g : AxisGesture) (axis : Int) : Int :=
  let threshold := Gesture.thresholdOr config
  let configured := (Gesture.axisMultiplier config).getD 1
  let move : Rat := if g.axis < threshold then (g.axis + axis - threshold : Int) else axis
  if configured < 0 then -((move * -configured * g.multiplier).floor)
  else (move * configured * g.multiplier).floor

/-- The low-resolution steps of a movement and the remainder that they leave. -/
def lowResSteps (remainder : Int) : Option Int × Int :=
  if 60 ≤ remainder.natAbs then
    let steps := remainder.tdiv 120
    let steps := if steps = 0 then (if remainder > 0 then 1 else -1) else steps
    (some steps, remainder - steps * 120)
  else (none, remainder)

def press (config : Config.Gesture) (g : AxisGesture) (initThreshold : Bool) : AxisGesture :=
  { g with
    axis := if initThreshold then Gesture.thresholdOr config else 0
    axisRemainder := 0
    hiresRemainder := 0 }

def move (config : Config.Gesture) (g : AxisGesture) (axis : Int) :
    AxisGesture × List InputEvent :=
  match g.inputAxis with
  | none => (g, [])
  | some inputAxis =>
    let newAxis := g.axis + axis
    if newAxis > Gesture.thresholdOr config then
      let movement := g.scaled config axis
      let configured := (Gesture.axisMultiplier config).getD 1
      let start : Rat :=
        if g.axis < Gesture.thresholdOr config then (newAxis - Gesture.thresholdOr config : Int)
        else axis
      let exact := start * (if configured < 0 then -configured else configured) * g.multiplier
      let g := { g with axis := newAxis, axisRemainder := exact - exact.floor }
      -- the argument is the movement, not the code of the axis
      match getLowResAxis (.ofInt axis) with
      | some lowResAxis =>
        let (steps, remainder) := lowResSteps (g.hiresRemainder + movement)
        ({ g with hiresRemainder := remainder },
          .axis inputAxis movement :: steps.toList.map fun steps => .axis lowResAxis steps)
      | none => (g, [.axis inputAxis movement])
    else ({ g with axis := newAxis }, [])

def metThreshold (config : Config.Gesture) (g : AxisGesture) : Bool :=
  decide (Gesture.thresholdOr config ≤ g.axis)

def setHiresMultiplier (config : Config.Gesture) (g : AxisGesture) (multiplier : Rat) :
    AxisGesture :=
  let g := { g with hiresMultiplier := multiplier }
  if (g.inputAxis.bind getLowResAxis).isSome then
    { g with multiplier := (Gesture.axisMultiplier config).getD 1 * multiplier }
  else g

end AxisGesture

namespace IntervalGesture

def press (config : Config.Gesture) (g : IntervalGesture) (initThreshold : Bool) :
    IntervalGesture :=
  { g with
    axis := if initThreshold then Gesture.thresholdOr config else 0
    intervalPassCount := 0 }

/-- The new `_axis` and `_interval_pass_count`, and whether the action fires. -/
def advance (config : Config.Gesture) (g : IntervalGesture) (axis : Int) : Int × Int × Bool :=
  let interval := ((Gesture.interval config).map Int32.toInt).getD gestureInterval
  let threshold := Gesture.thresholdOr config
  if interval ≤ 0 then (g.axis, g.intervalPassCount, false)
  else if g.axis + axis < threshold then (g.axis + axis, g.intervalPassCount, false)
  else
    let count := (g.axis + axis - threshold).tdiv interval
    (g.axis + axis, count, decide (count > g.intervalPassCount))

def move (config : Config.Gesture) (g : IntervalGesture) (axis : Int) :
    IntervalGesture × List InputEvent :=
  let (axis, count, fires) := g.advance config axis
  let (action, events) := if fires then BasicObject.fire g.action else (g.action, [])
  ({ axis := axis, intervalPassCount := count, action := action }, events)

def metThreshold (config : Config.Gesture) (g : IntervalGesture) : Bool :=
  decide (Gesture.thresholdOr config ≤ g.axis)

end IntervalGesture

namespace ReleaseGesture

def press (config : Config.Gesture) (g : ReleaseGesture) (initThreshold : Bool) :
    ReleaseGesture :=
  { g with axis := if initThreshold then Gesture.thresholdOr config else 0 }

def metThreshold (config : Config.Gesture) (g : ReleaseGesture) : Bool :=
  decide (Gesture.thresholdOr config ≤ g.axis)

/-- `release` presses and releases the action. -/
def runs (config : Config.Gesture) (g : ReleaseGesture) (primary : Bool) : Bool :=
  g.metThreshold config && primary

def release (config : Config.Gesture) (g : ReleaseGesture) (primary : Bool) :
    ReleaseGesture × List InputEvent :=
  if g.runs config primary then
    let (action, events) := BasicObject.fire g.action
    ({ g with action := action }, events)
  else (g, [])

def move (g : ReleaseGesture) (axis : Int) : ReleaseGesture := { g with axis := g.axis + axis }

end ReleaseGesture

namespace ThresholdGesture

def press (config : Config.Gesture) (g : ThresholdGesture) (initThreshold : Bool) :
    ThresholdGesture :=
  { g with
    axis := if initThreshold then Gesture.thresholdOr config else 0
    executed := false }

def release (g : ThresholdGesture) : ThresholdGesture := { g with executed := false }

def metThreshold (config : Config.Gesture) (g : ThresholdGesture) : Bool :=
  decide (Gesture.thresholdOr config ≤ g.axis)

def move (config : Config.Gesture) (g : ThresholdGesture) (axis : Int) :
    ThresholdGesture × List InputEvent :=
  let g := { g with axis := g.axis + axis }
  if !g.executed && g.metThreshold config then
    let (action, events) := BasicObject.fire g.action
    ({ g with action := action, executed := true }, events)
  else (g, [])

end ThresholdGesture

namespace NullGesture

def press (config : Config.Gesture) (g : NullGesture) (initThreshold : Bool) : NullGesture :=
  { g with axis := if initThreshold then Gesture.thresholdOr config else 0 }

def move (g : NullGesture) (axis : Int) : NullGesture := { g with axis := g.axis + axis }

def metThreshold (config : Config.Gesture) (g : NullGesture) : Bool :=
  decide (Gesture.thresholdOr config ≤ g.axis)

end NullGesture

/-- An object of a class derived from `Gesture`. -/
inductive GestureObject where
  | axis (g : AxisGesture)
  | interval (g : IntervalGesture)
  | release (g : ReleaseGesture)
  | threshold (g : ThresholdGesture)
  | null (g : NullGesture)
  deriving DecidableEq

namespace GestureObject

/-- `makeGesture` of an entry. -/
def make (codes : EventCodes) : Config.Gesture → GestureObject
  | .none _ => .null {}
  | .axis config => .axis (.make codes config)
  | .interval config | .fewPixels config =>
    .interval { action := config.action.map (BasicObject.make codes) }
  | .release config => .release { action := config.action.map (BasicObject.make codes) }
  | .threshold config => .threshold { action := config.action.map (BasicObject.make codes) }

def press (config : Config.Gesture) (initThreshold : Bool) : GestureObject → GestureObject
  | .axis g => .axis (g.press config initThreshold)
  | .interval g => .interval (g.press config initThreshold)
  | .release g => .release (g.press config initThreshold)
  | .threshold g => .threshold (g.press config initThreshold)
  | .null g => .null (g.press config initThreshold)

def metThreshold (config : Config.Gesture) : GestureObject → Bool
  | .axis g => g.metThreshold config
  | .interval g => g.metThreshold config
  | .release g => g.metThreshold config
  | .threshold g => g.metThreshold config
  | .null g => g.metThreshold config

def released (config : Config.Gesture) (primary : Bool) :
    GestureObject → GestureObject × List InputEvent
  | .axis g => (.axis g, [])
  | .interval g => (.interval g, [])
  | .release g =>
    let (g, events) := g.release config primary
    (.release g, events)
  | .threshold g => (.threshold g.release, [])
  | .null g => (.null g, [])

def move (config : Config.Gesture) (axis : Int) : GestureObject → GestureObject × List InputEvent
  | .axis g =>
    let (g, events) := g.move config axis
    (.axis g, events)
  | .interval g =>
    let (g, events) := g.move config axis
    (.interval g, events)
  | .release g => (.release (g.move axis), [])
  | .threshold g =>
    let (g, events) := g.move config axis
    (.threshold g, events)
  | .null g => (.null (g.move axis), [])

def wheelCompatibility : GestureObject → Bool
  | .axis _ | .interval _ | .null _ => true
  | .release _ | .threshold _ => false

/-- The action of the gesture. -/
def action : GestureObject → Option BasicObject
  | .interval g => g.action
  | .release g => g.action
  | .threshold g => g.action
  | _ => none

def withAction (action : Option BasicObject) : GestureObject → GestureObject
  | .interval g => .interval { g with action := action }
  | .release g => .release { g with action := action }
  | .threshold g => .threshold { g with action := action }
  | g => g

/-- `setAction`. Where the type is no action, the action is made of the entry again, except in a
`ThresholdGesture`. -/
def setAction (codes : EventCodes) (config : Config.Gesture) (type : String) (g : GestureObject) :
    GestureObject :=
  match BasicAction.ofName type with
  | some value => g.withAction (value.map (BasicObject.make codes))
  | none =>
    match g with
    | .threshold _ => g.withAction none
    | _ => g.withAction ((Gesture.action config).map (BasicObject.make codes))

end GestureObject

/-! ## The gesture action -/

/-- `_gestures` is a map over the directions; an entry that is null reads as none. -/
structure GestureAction where
  pressed : Bool := false
  x : Int := 0
  y : Int := 0
  gestures : Direction → Option GestureObject

namespace GestureAction

/-- The order of the map. -/
def directions : List Direction := [.none, .up, .down, .left, .right]

/-- The entry that the gesture of a direction refers to. -/
def gestureConfig (config : Config.GestureAction) (d : Direction) : Config.Gesture :=
  (entry config d).getD (.none {})

def make (codes : EventCodes) (config : Config.GestureAction) : GestureAction where
  gestures d := (entry config d).map (GestureObject.make codes)

def press (config : Config.GestureAction) (a : GestureAction) : GestureAction :=
  { pressed := true, x := 0, y := 0,
    gestures := fun d => (a.gestures d).map (GestureObject.press (gestureConfig config d) false) }

/-- One gesture of the action does something. -/
def onGesture (a : GestureAction) (d : Direction)
    (f : GestureObject → GestureObject × List InputEvent) : GestureAction × List InputEvent :=
  match a.gestures d with
  | some g =>
    let (g, events) := f g
    ({ a with gestures := Function.update a.gestures d (some g) }, events)
  | none => (a, [])

/-- A call of `release` on the gesture of a direction. -/
def releaseGesture (config : Config.GestureAction) (a : GestureAction) (d : Direction)
    (primary : Bool) : GestureAction × List InputEvent :=
  a.onGesture d (GestureObject.released (gestureConfig config d) primary)

def metThreshold (config : Config.GestureAction) (a : GestureAction) (d : Direction) : Bool :=
  match a.gestures d with
  | some g => g.metThreshold (gestureConfig config d)
  | none => false

/-- The loop over the gestures that are not primary, with `threshold_met`. -/
def releaseOthers (config : Config.GestureAction) (d : Direction) :
    List Direction → GestureAction → Bool → GestureAction × Bool × List InputEvent
  | [], a, met => (a, met, [])
  | e :: es, a, met =>
    if e = d ∨ e = .none then releaseOthers config d es a met
    else if !met then
      if a.metThreshold config e then
        let (a, events) := a.releaseGesture config e true
        let (a, met, more) := releaseOthers config d es a true
        (a, met, events ++ more)
      else releaseOthers config d es a met
    else
      let (a, events) := a.releaseGesture config e false
      let (a, met, more) := releaseOthers config d es a met
      (a, met, events ++ more)

def release (config : Config.GestureAction) (a : GestureAction) :
    GestureAction × List InputEvent :=
  let a := { a with pressed := false }
  let d := Direction.ofMove a.x a.y
  let met := a.metThreshold config d
  let (a, primary) := a.releaseGesture config d true
  let (a, met, others) := releaseOthers config d directions a met
  let (a, last) := a.releaseGesture config .none (!met)
  (a, primary ++ others ++ last)

/-- The calls of `move` for a horizontal movement `dx` from `x`. -/
def horizontal (x dx : Int) : List (Direction × Int) :=
  let new := x + dx
  if dx = 0 then []
  else if x < 0 ∧ new ≥ 0 then (.left, x) :: if new ≠ 0 then [(.right, new)] else []
  else if x > 0 ∧ new ≤ 0 then (.right, -x) :: if new ≠ 0 then [(.left, -new)] else []
  else if new < 0 then [(.left, -dx)]
  else if new > 0 then [(.right, dx)]
  else []

/-- The same for a vertical movement. -/
def vertical (y dy : Int) : List (Direction × Int) :=
  let new := y + dy
  if dy = 0 then []
  else if y > 0 ∧ new ≤ 0 then (.up, y) :: if new ≠ 0 then [(.down, new)] else []
  else if y < 0 ∧ new ≥ 0 then (.down, -y) :: if new ≠ 0 then [(.up, -new)] else []
  else if new < 0 then [(.up, -dy)]
  else if new > 0 then [(.down, dy)]
  else []

/-- The calls of `move` one after another. -/
def moveGestures (config : Config.GestureAction) :
    List (Direction × Int) → GestureAction → GestureAction × List InputEvent
  | [], a => (a, [])
  | (d, n) :: moves, a =>
    let (a, events) := a.onGesture d (GestureObject.move (gestureConfig config d) (toInt16 n))
    let (a, more) := moveGestures config moves a
    (a, events ++ more)

def move (config : Config.GestureAction) (a : GestureAction) (x y : Int) :
    GestureAction × List InputEvent :=
  let (b, events) := moveGestures config (horizontal a.x x ++ vertical a.y y) a
  ({ b with x := a.x + x, y := a.y + y }, events)

/-- `setGesture`, what it does to the object; what it does to the entries is `setGesture`. -/
def replaceGesture (codes : EventCodes) (config : Config.GestureAction) (a : GestureAction)
    (direction type : String) : GestureAction × List InputEvent :=
  match Direction.ofName direction with
  | none => (a, [])
  | some d =>
    let (a, events) :=
      if a.pressed then a.releaseGesture config d (decide (Direction.ofMove a.x a.y = d))
      else (a, [])
    let config' := (setGesture config direction type).1
    -- the threshold of the direction `none` is set when the gesture is made
    let g := (Gesture.ofType type).getD (gestureConfig config' d)
    ({ a with gestures := Function.update a.gestures d (some (GestureObject.make codes g)) }, events)

end GestureAction

/-! ## All actions -/

inductive ActionObject where
  | basic (action : BasicObject)
  | gesture (action : GestureAction)

/-- The entry of a `GestureAction`. -/
def Action.gestureEntry : Config.Action → Config.GestureAction
  | .gesture config => config
  | _ => {}

namespace ActionObject

def make (codes : EventCodes) : Config.Action → ActionObject
  | .none config => .basic (.make codes (.none config))
  | .keypress config => .basic (.make codes (.keypress config))
  | .toggleSmartShift config => .basic (.make codes (.toggleSmartShift config))
  | .toggleHiresScroll config => .basic (.make codes (.toggleHiresScroll config))
  | .cycleDPI config => .basic (.make codes (.cycleDPI config))
  | .changeDPI config => .basic (.make codes (.changeDPI config))
  | .changeHost config => .basic (.make codes (.changeHost config))
  | .changeProfile config => .basic (.make codes (.changeProfile config))
  | .gesture config => .gesture (.make codes config)

/-- `interface_name` of the object's class. -/
def interfaceName : ActionObject → String
  | .basic (.keypress _) => "Keypress"
  | .basic (.other interface _) => interface
  | .gesture _ => "Gesture"

def pressed : ActionObject → Bool
  | .basic a => a.pressed
  | .gesture a => a.pressed

def press (config : Config.GestureAction) : ActionObject → ActionObject × List InputEvent
  | .basic a =>
    let (a, events) := a.press
    (.basic a, events)
  | .gesture a => (.gesture (a.press config), [])

def release (config : Config.GestureAction) : ActionObject → ActionObject × List InputEvent
  | .basic a =>
    let (a, events) := a.release
    (.basic a, events)
  | .gesture a =>
    let (a, events) := a.release config
    (.gesture a, events)

/-- Only a `GestureAction` overrides `move`. -/
def move (config : Config.GestureAction) (x y : Int) :
    ActionObject → ActionObject × List InputEvent
  | .basic a => (.basic a, [])
  | .gesture a =>
    let (a, events) := a.move config x y
    (.gesture a, events)

end ActionObject

end Logid.Actions
