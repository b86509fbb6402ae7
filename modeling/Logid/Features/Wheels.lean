import Logid.Actions.Moves
import Logid.Features.Adopt
import Logid.Features.Methods

/-!
# The gestures of both wheels

How the gestures of a wheel come about (`HiresScroll::_makeConfig` and `setProfile`, with what
`ThumbWheel` does for it), and what a rotation of the thumb wheel makes an `IntervalGesture` do.
-/

namespace Logid.Actions

/-- `move` presses and releases the action of an `IntervalGesture`. -/
def GestureObject.fires (config : Config.Gesture) (axis : Int) : GestureObject → Bool
  | .interval g => g.fires config axis
  | _ => false

end Logid.Actions

namespace Logid.Features

open Actions (EventCodes GestureObject InputEvent)

namespace HiresScroll

/-- `_makeConfig`, what it makes of the gestures. -/
def makeConfig (codes : EventCodes) (multiplier : UInt8) (config : HiresEntry) (h : HiresScroll) :
    HiresScroll :=
  if config.isNone then h
  else
    let conf := parentConfig config
    { up := { h.up with gesture := makeGesture codes multiplier conf.up }
      down := { h.down with gesture := makeGesture codes multiplier conf.down } }

/-- The entry afterwards. -/
def adoptEntry (config : HiresEntry) : HiresEntry :=
  config.map fun value => .inr (Config.HiresScroll.adopt value)

def construct (codes : EventCodes) (multiplier : UInt8) (config : HiresEntry) : HiresScroll :=
  makeConfig codes multiplier config {}

/-- The nodes stay as they are. -/
def setProfile (codes : EventCodes) (multiplier : UInt8) (config : HiresEntry) (h : HiresScroll) :
    HiresScroll :=
  makeConfig codes multiplier config
    { up := { h.up with gesture := none }, down := { h.down with gesture := none } }

end HiresScroll

/-! ## How gestures get into the wheels -/

/-- Both wheels of a device, with their part of the profile. -/
structure WheelPair where
  hires : HiresScroll
  hiresEntry : HiresEntry
  thumb : ThumbWheel
  thumbEntry : Option Config.ThumbWheel

inductive WheelCall where
  | hiresProfile (config : HiresEntry)
  | thumbProfile (config : Option Config.ThumbWheel)
  /-- `SetUp` and `SetDown` -/
  | setTurn (turn : Turn) (type : String)
  | setLeft (type : String)
  | setRight (type : String)

namespace WheelPair

/-- The calls, accepted or rejected; `none` where a null node is used. -/
def machine (codes : EventCodes) (wheels : Wheels) (hires : HiresEntry)
    (thumb : Option Config.ThumbWheel) : Machine WheelPair WheelCall where
  init := {
    hires := .construct codes wheels.multiplier hires
    hiresEntry := HiresScroll.adoptEntry hires
    thumb := .construct codes wheels.info thumb
    thumbEntry := thumb.map Config.ThumbWheel.adopt }
  step s
    | .hiresProfile config => some { s with
      hires := s.hires.setProfile codes wheels.multiplier config
      hiresEntry := HiresScroll.adoptEntry config }
    | .thumbProfile config => some { s with
      thumb := s.thumb.setProfile codes config
      thumbEntry := config.map Config.ThumbWheel.adopt }
    | .setTurn turn type =>
      (s.hires.setGesture codes wheels.multiplier turn type s.hiresEntry).map
        fun (conf, hires, _) => { s with hires := hires, hiresEntry := some (.inr conf) }
    | .setLeft type =>
      let (conf, thumb, _) := s.thumb.setLeft codes wheels.info type
        (ThumbWheel.parentConfig s.thumbEntry)
      some { s with thumb := thumb, thumbEntry := some conf }
    | .setRight type =>
      let (conf, thumb, _) := s.thumb.setRight codes wheels.info type
        (ThumbWheel.parentConfig s.thumbEntry)
      some { s with thumb := thumb, thumbEntry := some conf }

/-- Every gesture that is held fits a wheel. -/
structure Compatible (s : WheelPair) : Prop where
  hires : ∀ turn g, (s.hires.side turn).gesture = some g → g.wheelCompatibility = true
  left : ∀ g, s.thumb.left = some g → g.wheelCompatibility = true
  right : ∀ g, s.thumb.right = some g → g.wheelCompatibility = true

/-- The entries of a profile for the hi-res wheel are for gestures that fit a wheel. -/
def EntryFits (codes : EventCodes) (config : HiresEntry) : Prop :=
  ∀ turn g, HiresScroll.entry (HiresScroll.parentConfig config) turn = some g →
    (GestureObject.make codes g).wheelCompatibility = true

/-- The thumb wheel looks at each gesture; the hi-res wheel is given what fits. -/
def Fits (codes : EventCodes) (_ : WheelPair) : WheelCall → Prop
  | .hiresProfile config => EntryFits codes config
  | .setTurn _ type => type ≠ "OnRelease"
  | .thumbProfile _ | .setLeft _ | .setRight _ => True

end WheelPair

namespace ThumbWheel

/-! ## Profiles -/

/-- What rotations send. -/
def reactions (info : ThumbwheelInfo) (config : Config.ThumbWheel) :
    ThumbWheel → List ThumbwheelEvent → List (List InputEvent)
  | _, [] => []
  | w, event :: events =>
    (w.rotate info config event).2 :: reactions info config (w.rotate info config event).1 events

/-- The wheels hold the same gestures, and react alike to all rotations. -/
structure SameGestures (info : ThumbwheelInfo) (config : Config.ThumbWheel) (w w' : ThumbWheel) :
    Prop where
  left : w.left = w'.left
  right : w.right = w'.right
  reactions : ∀ events, reactions info config w events = reactions info config w' events

/-- The entry of a direction in a profile. -/
def profileEntry (config : Option Config.ThumbWheel) (right : Bool) : Option Config.Gesture :=
  config.bind fun conf => if right then conf.right else conf.left

/-- `_fixGesture` changes nothing: the gesture does not fit the wheel, or it starts at a threshold of 0
and is not scaled. -/
def NeedsNoFix (codes : EventCodes) (info : ThumbwheelInfo) (g : Config.Gesture) : Prop :=
  (GestureObject.make codes g).wheelCompatibility = true →
    Actions.Gesture.thresholdOr g = 0 ∧ ∀ axis, GestureObject.make codes g = .axis axis →
      info.divertedRes = 1 ∧
        ((axis.inputAxis.bind Actions.getLowResAxis).isSome →
          Actions.AxisGesture.multiplierOr g = 1)

/-! ## Rotations -/

/-- `Active` -/
def rotationActive : UInt8 := 2

/-- The events of one rotation. -/
def IsRotation (events : List ThumbwheelEvent) : Prop :=
  ∃ start active stop, events = start :: active ++ [stop] ∧
    start.rotationStatus = rotationStart ∧
    (∀ event ∈ active, event.rotationStatus = rotationActive) ∧
    stop.rotationStatus = rotationStop

/-- The gesture and the entry of a direction. -/
def gesture (w : ThumbWheel) (right : Bool) : Option GestureObject :=
  if right then w.right else w.left

def gestureEntry (config : Config.ThumbWheel) (right : Bool) : Config.Gesture :=
  entry (if right then config.right else config.left)

/-- The call of `move` that `_handleEvent` makes: the direction, and the movement. -/
def movement (info : ThumbwheelInfo) (event : ThumbwheelEvent) : Option (Bool × Int) :=
  let rotation := Actions.toInt16 (event.rotation.toInt * info.defaultDirection.toInt)
  if event.rotationStatus = rotationInactive then none
  else if rotation > 0 then some (true, Actions.toInt16 rotation)
  else if rotation < 0 then some (false, Actions.toInt16 (-rotation))
  else none

/-- No `int` overflows in it. -/
def defined (info : ThumbwheelInfo) (config : Config.ThumbWheel) (w : ThumbWheel)
    (event : ThumbwheelEvent) : Bool :=
  match movement info event with
  | none => true
  | some (right, n) =>
    match w.gesture right with
    | none => true
    | some g =>
      decide ((g.press (gestureEntry config right) true).Defined (gestureEntry config right) n)

/-- It presses and releases the action of the gesture. -/
def fires (info : ThumbwheelInfo) (config : Config.ThumbWheel) (w : ThumbWheel)
    (event : ThumbwheelEvent) : Bool :=
  match movement info event with
  | none => false
  | some (right, n) =>
    match w.gesture right with
    | none => false
    | some g => (g.press (gestureEntry config right) true).fires (gestureEntry config right) n

/-- The event turns the wheel in a direction, or not at all. -/
def Toward (info : ThumbwheelInfo) (right : Bool) (event : ThumbwheelEvent) : Prop :=
  if right then 0 ≤ event.rotation.toInt * info.defaultDirection.toInt
  else event.rotation.toInt * info.defaultDirection.toInt ≤ 0

/-- How far the wheel is turned. -/
def amount (event : ThumbwheelEvent) : Int := event.rotation.toInt.natAbs

/-- An event that turns it by a whole interval, which an `int16_t` holds. -/
def isWhole (interval : Int) (event : ThumbwheelEvent) : Bool :=
  decide (amount event = interval) && decide (amount event ≤ 32767)

/-- The wheel, and how often the action of an `IntervalGesture` has fired. -/
structure Turning where
  wheel : ThumbWheel
  fired : Nat := 0

def turning (info : ThumbwheelInfo) (config : Config.ThumbWheel) (w : ThumbWheel) :
    Machine Turning ThumbwheelEvent where
  init := { wheel := w }
  step s event :=
    if s.wheel.defined info config event then
      some {
        wheel := (s.wheel.handleEvent info config event).1
        fired := s.fired + (s.wheel.fires info config event).toNat }
    else none

/-- The events of a rotation, by a wheel that holds gestures. -/
def turned (info : ThumbwheelInfo) (config : Config.ThumbWheel) (w : ThumbWheel)
    (events : List ThumbwheelEvent) : Option Turning :=
  (turning info config w).run (turning info config w).init events

/-- Rotations in which no `int` overflows. -/
def DefinedTurn (info : ThumbwheelInfo) (config : Config.ThumbWheel) (w : ThumbWheel)
    (events : List ThumbwheelEvent) : Prop :=
  (turning info config w).Follows (fun s event => s.wheel.defined info config event = true)
    (turning info config w).init events

instance (info : ThumbwheelInfo) (config : Config.ThumbWheel) (w : ThumbWheel)
    (events : List ThumbwheelEvent) : Decidable (DefinedTurn info config w events) :=
  Machine.decidableFollows _ _

end ThumbWheel

end Logid.Features
