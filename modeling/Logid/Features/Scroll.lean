import Logid.Features.Wheels
import Logid.Misc.Strokes

/-!
# Scrolling

Rendering of `HiresScroll::_handleScroll` (`features/HiresScroll.cpp:163-205`): the two gestures of the
wheel follow its movements, and start again when it changes its direction or has not moved for a
second.
-/

namespace Logid.Backend.Hidpp20.HiresScroll

structure WheelStatus where
  hiRes : Bool
  periods : UInt8
  deltaV : Int16
  deriving DecidableEq, Repr

end Logid.Backend.Hidpp20.HiresScroll

namespace Logid.Features

open Actions (EventCodes GestureObject InputEvent)
open Backend.Hidpp20.HiresScroll (WheelStatus)

/-- What an event of the wheel does: events for the virtual input device, and the actions that an
`IntervalGesture` presses and releases. -/
inductive ScrollEffect where
  | sent (event : InputEvent)
  | fired (turn : Turn)
  deriving DecidableEq, Repr

/-- The gestures of the wheel, and `_last_direction`. -/
structure Scrolling where
  wheel : HiresScroll
  lastDirection : Int := 0

namespace HiresScroll

/-- The entry that the gesture of a turn refers to. -/
def turnEntry (conf : Config.HiresScroll) (turn : Turn) : Config.Gesture :=
  (entry conf turn).getD (.none {})

/-- `gesture->move(n)` if there is one; `none` where an `int` overflows. -/
def moveGesture (conf : Config.HiresScroll) (turn : Turn) (g : Option GestureObject) (n : Int16) :
    Option (Option GestureObject × List ScrollEffect) :=
  let config := turnEntry conf turn
  match g with
  | none => some (none, [])
  | some g =>
    if g.Defined config n.toInt then
      let (g', events) := g.move config n.toInt
      some (some g',
        events.map .sent ++ if g.fires config n.toInt then [.fired turn] else [])
    else none

/-- `gesture->release(false); gesture->press(true);` -/
def restartGesture (config : Config.Gesture) (g : Option GestureObject) :
    Option GestureObject × List ScrollEffect :=
  match g with
  | none => (none, [])
  | some g =>
    let (g, events) := g.released config false
    (some (g.press config true), events.map .sent)

def withGesture (h : HiresScroll) (turn : Turn) (g : Option GestureObject) : HiresScroll :=
  h.setSide { h.side turn with gesture := g } turn

end HiresScroll

namespace Scrolling

open HiresScroll

def restart (conf : Config.HiresScroll) (turn : Turn) (s : Scrolling) :
    Scrolling × List ScrollEffect :=
  let (g, effects) := restartGesture (turnEntry conf turn) (s.wheel.side turn).gesture
  ({ s with wheel := s.wheel.withGesture turn g }, effects)

def move (conf : Config.HiresScroll) (turn : Turn) (n : Int16) (s : Scrolling) :
    Option (Scrolling × List ScrollEffect) :=
  (moveGesture conf turn (s.wheel.side turn).gesture n).map fun (g, effects) =>
    ({ s with wheel := s.wheel.withGesture turn g }, effects)

/-- After a second without an event both gestures start again. -/
def rest (conf : Config.HiresScroll) (s : Scrolling) : Scrolling × List ScrollEffect :=
  let (s, up) := s.restart conf .up
  let (s, down) := s.restart conf .down
  ({ s with lastDirection := 0 }, up ++ down)

/-- A movement in a direction, which the gesture of the other direction starts again for if the wheel
was last turned that way. -/
def turnTo (conf : Config.HiresScroll) (turn other : Turn) (direction : Int) (n : Int16)
    (s : Scrolling) : Option (Scrolling × List ScrollEffect) :=
  let (s, left) := if s.lastDirection = -direction then s.restart conf other else (s, [])
  (s.move conf turn n).map fun (s, effects) =>
    ({ s with lastDirection := direction }, left ++ effects)

/-- `_handleScroll`, with the part of the profile that the gestures refer to; `pause` says that a second
has passed since the last event. -/
def handleScroll (conf : Config.HiresScroll) (s : Scrolling) (pause : Bool) (event : WheelStatus) :
    Option (Scrolling × List ScrollEffect) :=
  let (s, ended) := if pause then s.rest conf else (s, [])
  let turned :=
    if event.deltaV > 0 then s.turnTo conf .up .down 1 event.deltaV
    -- `(int16_t) -event.deltaV`
    else if event.deltaV < 0 then s.turnTo conf .down .up (-1) (-event.deltaV)
    else some (s, [])
  turned.map fun (s, effects) => (s, ended ++ effects)

/-- Events with the pauses before them. -/
def handleScrolls (conf : Config.HiresScroll) :
    Scrolling → List (Bool × WheelStatus) → Option (Scrolling × List ScrollEffect)
  | s, [] => some (s, [])
  | s, (pause, event) :: events =>
    (s.handleScroll conf pause event).bind fun (s, effects) =>
      (handleScrolls conf s events).map fun (s, more) => (s, effects ++ more)

end Scrolling

namespace HiresScroll

/-! ## Strokes of the wheel -/

/-- The gestures as sides that are moved. -/
def gestureSide (conf : Config.HiresScroll) (turn : Turn) :
    Strokes.Side (Option GestureObject) Int16 ScrollEffect where
  move := moveGesture conf turn
  reset g := (restartGesture (turnEntry conf turn) g).1

/-- An event of the wheel as a move of one of them. -/
def scrollEvent (event : Bool × WheelStatus) : Strokes.Event Turn Int16 where
  pause := event.1
  move :=
    if event.2.deltaV > 0 then some (.up, event.2.deltaV)
    else if event.2.deltaV < 0 then some (.down, -event.2.deltaV)
    else none

/-- The stretches that the wheel is turned in one direction without a pause. -/
def strokes (events : List (Bool × WheelStatus)) : List (Strokes.Stroke Turn Int16) :=
  Strokes.strokes none (events.map scrollEvent)

/-- The strokes in one direction. -/
def strokesOf (turn : Turn) (events : List (Bool × WheelStatus)) : List (List Int16) :=
  ((strokes events).filter fun stroke => stroke.1 = turn).map Prod.snd

/-- No move of a stroke crosses two boundaries. -/
def CrossesSingly (config : Config.Gesture) (ns : List Int16) : Prop :=
  RunningTotal.Each
    (fun total n => Actions.intervals config (total + n) ≤ Actions.intervals config total + 1)
    (Actions.Gesture.thresholdOr config) (Actions.movements ns)

end HiresScroll

end Logid.Features
