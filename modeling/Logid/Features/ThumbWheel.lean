import Logid.Actions.Objects

/-!
# The thumb wheel

Rendering of `features/ThumbWheel.cpp:103-380`: the gestures and actions that the feature holds, what
an event of the wheel does with them, and what a change of profile and the methods that set them do.
-/

namespace Logid.Features

open Actions (BasicObject EventCodes GestureObject InputEvent)

/-- The fields of `hidpp20::ThumbWheel::ThumbwheelInfo` that are used. -/
structure ThumbwheelInfo where
  divertedRes : UInt16
  defaultDirection : Int8
  deriving DecidableEq, Repr

/-- `RotationStatus` -/
def rotationInactive : UInt8 := 0
def rotationStart : UInt8 := 1
def rotationStop : UInt8 := 3

/-- `Capabilities` -/
def capabilityTouch : UInt8 := 2
def capabilityProxy : UInt8 := 4
def capabilitySingleTap : UInt8 := 8

structure ThumbwheelEvent where
  rotation : Int16
  rotationStatus : UInt8
  flags : UInt8
  deriving DecidableEq, Repr

structure ThumbWheel where
  left : Option GestureObject := none
  right : Option GestureObject := none
  proxy : Option BasicObject := none
  tap : Option BasicObject := none
  touch : Option BasicObject := none
  lastProxy : Bool := false
  lastTouch : Bool := false

namespace ThumbWheel

/-- `_genGesture` -/
def genGesture (codes : EventCodes) (conf : Option Config.Gesture) : Option GestureObject :=
  (conf.map (GestureObject.make codes)).filter GestureObject.wheelCompatibility

/-- `_makeConfig` of a feature that holds nothing. -/
def makeConfig (codes : EventCodes) (config : Option Config.ThumbWheel) (w : ThumbWheel) :
    ThumbWheel :=
  match config with
  | none => w
  | some conf => { w with
      left := genGesture codes conf.left
      right := genGesture codes conf.right
      touch := conf.touch.map (BasicObject.make codes)
      tap := conf.tap.map (BasicObject.make codes)
      proxy := conf.proxy.map (BasicObject.make codes) }

/-- `_fixGesture`, with the entry of the gesture. -/
def fixGesture (info : ThumbwheelInfo) (config : Config.Gesture) (g : GestureObject) :
    GestureObject :=
  let g := match g with
    | .axis axis => GestureObject.axis (axis.setHiresMultiplier config info.divertedRes.toNat)
    | g => g
  g.press config true

/-- The entry that a gesture refers to. -/
def entry (conf : Option Config.Gesture) : Config.Gesture := conf.getD (.none {})

/-- The constructor. -/
def construct (codes : EventCodes) (info : ThumbwheelInfo) (config : Option Config.ThumbWheel) :
    ThumbWheel :=
  let conf := config.getD {}
  let w := makeConfig codes config {}
  { w with
    left := w.left.map (fixGesture info (entry conf.left))
    right := w.right.map (fixGesture info (entry conf.right)) }

def setProfile (codes : EventCodes) (config : Option Config.ThumbWheel) (w : ThumbWheel) :
    ThumbWheel :=
  makeConfig codes config
    { w with left := none, right := none, touch := none, tap := none, proxy := none }

/-- An action that a flag presses and releases. -/
def follow (flag last : Bool) (action : Option BasicObject) :
    Bool × Option BasicObject × List InputEvent :=
  if flag = last then (last, action, [])
  else
    match action with
    | none => (!last, none, [])
    | some a =>
      let (a, events) := if !last then a.press else a.release
      (!last, some a, events)

/-- A gesture that is called and sends nothing. -/
def pressGesture (config : Config.Gesture) (g : Option GestureObject) : Option GestureObject :=
  g.map (GestureObject.press config true)

def moveGesture (config : Config.Gesture) (movement : Int) :
    Option GestureObject → Option GestureObject × List InputEvent
  | none => (none, [])
  | some g =>
    let (g, events) := (g.press config true).move config movement
    (some g, events)

def releaseGesture (config : Config.Gesture) :
    Option GestureObject → Option GestureObject × List InputEvent
  | none => (none, [])
  | some g =>
    let (g, events) := g.released config false
    (some g, events)

/-- `_handleEvent` at the start of a rotation. -/
def startRotation (config : Config.ThumbWheel) (w : ThumbWheel) : ThumbWheel :=
  { w with
    right := pressGesture (entry config.right) w.right
    left := pressGesture (entry config.left) w.left }

/-- `_handleEvent` for a rotation by an amount. -/
def scroll (config : Config.ThumbWheel) (w : ThumbWheel) (rotation : Int) :
    ThumbWheel × List InputEvent :=
  if rotation > 0 then
    let (g, events) := moveGesture (entry config.right) (Actions.toInt16 rotation) w.right
    ({ w with right := g }, events)
  else if rotation < 0 then
    let (g, events) := moveGesture (entry config.left) (Actions.toInt16 (-rotation)) w.left
    ({ w with left := g }, events)
  else (w, [])

/-- `_handleEvent` at the end of a rotation. -/
def stopRotation (config : Config.ThumbWheel) (w : ThumbWheel) : ThumbWheel × List InputEvent :=
  let (right, first) := releaseGesture (entry config.right) w.right
  let (left, second) := releaseGesture (entry config.left) w.left
  ({ w with right := right, left := left }, first ++ second)

/-- The rotation of `_handleEvent`. -/
def rotate (info : ThumbwheelInfo) (config : Config.ThumbWheel) (w : ThumbWheel)
    (event : ThumbwheelEvent) : ThumbWheel × List InputEvent :=
  -- `event.rotation` is `int16_t`
  let rotation := Actions.toInt16 (event.rotation.toInt * info.defaultDirection.toInt)
  let w := if event.rotationStatus = rotationStart then w.startRotation config else w
  let (w, moved) := w.scroll config rotation
  let (w, stopped) :=
    if event.rotationStatus = rotationStop then w.stopRotation config else (w, [])
  (w, moved ++ stopped)

/-- `_handleEvent` -/
def handleEvent (info : ThumbwheelInfo) (config : Config.ThumbWheel) (w : ThumbWheel)
    (event : ThumbwheelEvent) : ThumbWheel × List InputEvent :=
  let (tap, tapped) :=
    if event.flags &&& capabilitySingleTap ≠ 0 then BasicObject.fire w.tap else (w.tap, [])
  let (lastProxy, proxy, proxied) :=
    follow (decide (event.flags &&& capabilityProxy ≠ 0)) w.lastProxy w.proxy
  let (lastTouch, touch, touched) :=
    follow (decide (event.flags &&& capabilityTouch ≠ 0)) w.lastTouch w.touch
  let w := { w with
    tap := tap, lastProxy := lastProxy, proxy := proxy, lastTouch := lastTouch, touch := touch }
  let (w, rotated) :=
    if event.rotationStatus ≠ rotationInactive then w.rotate info config event else (w, [])
  (w, tapped ++ proxied ++ touched ++ rotated)

/-! ## The methods on the bus

They give the configuration and the feature afterwards, and whether the call succeeds. -/

/-- `makeAction` of a type, which throws before it changes anything. -/
def makeAction (codes : EventCodes) (type : String) :
    Option (Option Config.BasicAction × Option BasicObject) :=
  (Actions.BasicAction.ofName type).map fun value => (value, value.map (BasicObject.make codes))

def setProxy (codes : EventCodes) (type : String) (config : Config.ThumbWheel) (w : ThumbWheel) :
    Config.ThumbWheel × ThumbWheel × Bool :=
  match makeAction codes type with
  | none => (config, w, false)
  | some (value, action) => ({ config with proxy := value }, { w with proxy := action }, true)

def setTap (codes : EventCodes) (type : String) (config : Config.ThumbWheel) (w : ThumbWheel) :
    Config.ThumbWheel × ThumbWheel × Bool :=
  match makeAction codes type with
  | none => (config, w, false)
  | some (value, action) => ({ config with tap := value }, { w with tap := action }, true)

def setTouch (codes : EventCodes) (type : String) (config : Config.ThumbWheel) (w : ThumbWheel) :
    Config.ThumbWheel × ThumbWheel × Bool :=
  match makeAction codes type with
  | none => (config, w, false)
  | some (value, action) => ({ config with touch := value }, { w with touch := action }, true)

/-- The left gesture is reset first. -/
def setLeft (codes : EventCodes) (info : ThumbwheelInfo) (type : String)
    (config : Config.ThumbWheel) (w : ThumbWheel) : Config.ThumbWheel × ThumbWheel × Bool :=
  match Actions.Gesture.ofType type with
  | none => ({ config with left := some (entry config.left) }, { w with left := none }, false)
  | some g =>
    let object := GestureObject.make codes g
    if object.wheelCompatibility then
      ({ config with left := some g }, { w with left := some (fixGesture info g object) }, true)
    else ({ config with left := none }, { w with left := none }, false)

def setRight (codes : EventCodes) (info : ThumbwheelInfo) (type : String)
    (config : Config.ThumbWheel) (w : ThumbWheel) : Config.ThumbWheel × ThumbWheel × Bool :=
  match Actions.Gesture.ofType type with
  | none => ({ config with right := some (entry config.right) }, w, false)
  | some g =>
    let object := GestureObject.make codes g
    if object.wheelCompatibility then
      ({ config with right := some g }, { w with right := some (fixGesture info g object) }, true)
    else ({ config with right := none }, { w with right := none }, false)

end ThumbWheel

end Logid.Features
