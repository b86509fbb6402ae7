import Logid.Features.Adopt
import Logid.Features.RemapButton
import Logid.Features.ThumbWheel
import Logid.Misc.Machine

/-!
# What a device sends to the virtual input device

The reports of the diverted controls and of the thumb wheel, and the methods on the bus that change
what the controls do: `SetProfile` and `ClearProfile` (`Device.cpp:262-317`), `SetAction` of a button
and of a gesture, `SetGesture`, `SetKeys`, and the methods of the thumb wheel. Each runs under the
locks of the objects that it changes and is one step.
-/

namespace Logid.Input

open Actions (ActionObject BasicObject Direction EventCodes GestureObject InputEvent Keyboard)
open Config (Profile stringLess)
open Features

/-- What a device is; its features adopt the profiles that it switches to. -/
structure Device where
  codes : EventCodes
  controls : List ControlInfo
  wheel : ThumbwheelInfo
  features : Supported
  remaps : features.remapbutton = some (controls.map ControlInfo.controlID)

structure State where
  profiles : SortedMap String Profile stringLess
  active : String
  remap : RemapButton
  wheel : ThumbWheel
  keyboard : Keyboard

/-- The object that has a `SetKeys` or, for a gesture, a `SetAction`. -/
inductive GesturePlace where
  | button (control : UInt16) (direction : Direction)
  | left
  | right
  deriving DecidableEq, Repr

inductive KeysPlace where
  | button (control : UInt16)
  | gesture (place : GesturePlace)
  | proxy
  | tap
  | touch
  deriving DecidableEq, Repr

inductive Label where
  /-- A `DivertedButtonEvent` with the controls that are held. -/
  | buttons (held : List UInt16)
  | rawXY (x y : Int16)
  | wheel (event : ThumbwheelEvent)
  | setProfile (name : String)
  | clearProfile (name : String)
  | setAction (control : UInt16) (type : String)
  | setGesture (control : UInt16) (direction type : String)
  | setGestureAction (place : GesturePlace) (type : String)
  | setKeys (place : KeysPlace) (keys : List String)
  | setProxy (type : String)
  | setTap (type : String)
  | setTouch (type : String)
  | setLeft (type : String)
  | setRight (type : String)
  deriving DecidableEq, Repr

/-! ## The configuration -/

def profileEntries (profile : Profile) : ButtonEntries := fun control =>
  ((profile.buttons.getD .empty).find? control).bind Config.Button.action

namespace State

def profile (s : State) : Profile := (s.profiles.find? s.active).getD {}

def withProfile (s : State) (f : Profile → Profile) : State :=
  { s with profiles := s.profiles.assign s.active (f s.profile) }

/-- The entries of the buttons in the active profile. -/
def entries (s : State) : ButtonEntries := profileEntries s.profile

def setEntry (s : State) (control : UInt16) (entry : Option Config.Action) : State :=
  s.withProfile fun profile => { profile with
    buttons := some ((profile.buttons.getD .empty).assign control { action := entry }) }

def wheelConfig (s : State) : Config.ThumbWheel := s.profile.thumbwheel.getD {}

def setWheelConfig (s : State) (config : Config.ThumbWheel) : State :=
  s.withProfile fun profile => { profile with thumbwheel := some config }

/-- The events go to the virtual input device. -/
def send (s : State) (events : List InputEvent) : State :=
  { s with keyboard := s.keyboard.applyAll events }

end State

/-! ## Reports -/

def buttonEvent (device : Device) (s : State) (held : List UInt16) : State :=
  let (remap, events) := s.remap.buttonEvent device.controls s.entries held
  State.send { s with remap := remap } events

def rawXYEvent (device : Device) (s : State) (x y : Int16) : State :=
  let (remap, events) := RemapButton.rawXYEvent s.entries x.toInt y.toInt device.controls s.remap
  State.send { s with remap := remap } events

def wheelEvent (device : Device) (s : State) (event : ThumbwheelEvent) : State :=
  if device.features.thumbwheel then
    let (wheel, events) := s.wheel.handleEvent device.wheel s.wheelConfig event
    State.send { s with wheel := wheel } events
  else s

/-! ## Profiles -/

/-- The features switch to the active profile. -/
def switch (device : Device) (s : State) : State :=
  let s := s.withProfile device.features.setProfile
  { s with
    remap := s.remap.setProfile device.codes device.controls s.entries
    wheel :=
      if device.features.thumbwheel then s.wheel.setProfile device.codes s.profile.thumbwheel
      else s.wheel }

/-- `Device::setProfile` -/
def setProfile (device : Device) (s : State) (name : String) : State :=
  switch device { s with profiles := s.profiles.emplace name {}, active := name }

/-- `Device::clearProfile`; an unknown name throws. -/
def clearProfile (device : Device) (s : State) (name : String) : State :=
  if name = s.active then switch device (s.withProfile fun _ => {})
  else { s with profiles := s.profiles.modify name fun _ => {} }

/-! ## Actions and gestures of buttons -/

/-- `Button::IPC::setAction` -/
def setAction (device : Device) (s : State) (control : UInt16) (type : String) : State :=
  match device.controls.find? fun c => c.controlID = control with
  | none => s
  | some c =>
    if c.accepts type then
      let b := (s.remap.buttons control).setAction device.codes type
      let s := match Actions.Action.ofName type with
        | some entry => s.setEntry control entry
        | none => s
      { s with remap := { s.remap with buttons := Function.update s.remap.buttons control b } }
    else s

/-- The gesture action of a button. -/
def gestureAction (s : State) (control : UInt16) : Option Actions.GestureAction :=
  match (s.remap.buttons control).action with
  | some (.gesture a) => some a
  | _ => none

def withButtonAction (s : State) (control : UInt16) (action : ActionObject) : State :=
  let b := { s.remap.buttons control with action := some action }
  { s with remap := { s.remap with buttons := Function.update s.remap.buttons control b } }

/-- `GestureAction::setGesture` of the action of a button. -/
def setGesture (device : Device) (s : State) (control : UInt16) (direction type : String) : State :=
  match gestureAction s control with
  | none => s
  | some a =>
    let config := gestureEntry (s.entries control)
    let (a, events) := a.replaceGesture device.codes config direction type
    let s := s.setEntry control
      (some (.gesture (Actions.GestureAction.setGesture config direction type).1))
    State.send (withButtonAction s control (.gesture a)) events

/-- A gesture object and its entry. -/
def gestureAt (s : State) : GesturePlace → Option (GestureObject × Config.Gesture)
  | .button control d =>
    (gestureAction s control).bind fun a => (a.gestures d).map fun g =>
      (g, Actions.GestureAction.gestureConfig (gestureEntry (s.entries control)) d)
  | .left => s.wheel.left.map fun g => (g, ThumbWheel.entry s.wheelConfig.left)
  | .right => s.wheel.right.map fun g => (g, ThumbWheel.entry s.wheelConfig.right)

/-- Put another object and entry at the place of a gesture that is there. -/
def replaceAt (s : State) (g : GestureObject) (entry : Config.Gesture) : GesturePlace → State
  | .button control d =>
    match gestureAction s control with
    | none => s
    | some a =>
      let config := gestureEntry (s.entries control)
      let s := s.setEntry control
        (some (.gesture (Actions.GestureAction.modifyEntry config d entry)))
      withButtonAction s control
        (.gesture { a with gestures := Function.update a.gestures d (some g) })
  | .left =>
    let s := s.setWheelConfig { s.wheelConfig with left := some entry }
    { s with wheel := { s.wheel with left := some g } }
  | .right =>
    let s := s.setWheelConfig { s.wheelConfig with right := some entry }
    { s with wheel := { s.wheel with right := some g } }

/-- `setAction` of a gesture that has the method. -/
def setGestureAction (device : Device) (s : State) (place : GesturePlace) (type : String) : State :=
  match gestureAt s place with
  | none => s
  | some (g, entry) =>
    replaceAt s (g.setAction device.codes entry type)
      ((Actions.Gesture.setAction type entry).getD entry) place

/-! ## Keys -/

/-- `SetKeys` of an action of the thumb wheel: the action, its entry and the events. -/
def setWheelKeys (device : Device) (keys : List String) (action : Option BasicObject) :
    Option (Option BasicObject × Option Config.BasicAction × List InputEvent) :=
  action.bind fun a => (a.setKeys device.codes keys).map fun (a, events) =>
    (some a, some (.keypress (Actions.KeypressAction.entryOfKeys keys)), events)

/-- `KeypressAction::setKeys` of the object at a place; nothing where there is none. -/
def setKeys (device : Device) (s : State) (place : KeysPlace) (keys : List String) : State :=
  match place with
  | .button control =>
    match (s.remap.buttons control).action with
    | some (.basic a) =>
      match a.setKeys device.codes keys with
      | some (a, events) =>
        let s := s.setEntry control (some (.keypress (Actions.KeypressAction.entryOfKeys keys)))
        State.send (withButtonAction s control (.basic a)) events
      | none => s
    | _ => s
  | .gesture place =>
    match gestureAt s place with
    | none => s
    | some (g, entry) =>
      match g.action.bind (BasicObject.setKeys device.codes keys) with
      | some (a, events) =>
        (replaceAt s (g.withAction (some a))
          ((Actions.Gesture.setKeys keys entry).getD entry) place).send events
      | none => s
  | .proxy =>
    match setWheelKeys device keys s.wheel.proxy with
    | some (action, entry, events) =>
      let s := s.setWheelConfig { s.wheelConfig with proxy := entry }
      State.send { s with wheel := { s.wheel with proxy := action } } events
    | none => s
  | .tap =>
    match setWheelKeys device keys s.wheel.tap with
    | some (action, entry, events) =>
      let s := s.setWheelConfig { s.wheelConfig with tap := entry }
      State.send { s with wheel := { s.wheel with tap := action } } events
    | none => s
  | .touch =>
    match setWheelKeys device keys s.wheel.touch with
    | some (action, entry, events) =>
      let s := s.setWheelConfig { s.wheelConfig with touch := entry }
      State.send { s with wheel := { s.wheel with touch := action } } events
    | none => s

/-! ## The system -/

/-- A method of the thumb wheel. -/
def wheelMethod (device : Device) (s : State)
    (f : Config.ThumbWheel → ThumbWheel → Config.ThumbWheel × ThumbWheel × Bool) : State :=
  if device.features.thumbwheel then
    let (config, wheel, _) := f s.wheelConfig s.wheel
    { s.setWheelConfig config with wheel := wheel }
  else s

def step (device : Device) (s : State) : Label → State
  | .buttons held => buttonEvent device s held
  | .rawXY x y => rawXYEvent device s x y
  | .wheel event => wheelEvent device s event
  | .setProfile name => setProfile device s name
  | .clearProfile name => clearProfile device s name
  | .setAction control type => setAction device s control type
  | .setGesture control direction type => setGesture device s control direction type
  | .setGestureAction place type => setGestureAction device s place type
  | .setKeys place keys => setKeys device s place keys
  | .setProxy type => wheelMethod device s (ThumbWheel.setProxy device.codes type)
  | .setTap type => wheelMethod device s (ThumbWheel.setTap device.codes type)
  | .setTouch type => wheelMethod device s (ThumbWheel.setTouch device.codes type)
  | .setLeft type => wheelMethod device s (ThumbWheel.setLeft device.codes device.wheel type)
  | .setRight type => wheelMethod device s (ThumbWheel.setRight device.codes device.wheel type)

/-- The device has just been made; nothing is held and no key is down. -/
def initial (device : Device) (profiles : SortedMap String Profile stringLess) (active : String) :
    State :=
  let profile := device.features.construct ((profiles.find? active).getD {})
  let s : State := {
    profiles := profiles.assign active profile
    active := active
    remap := { pressedButtons := [], buttons := fun _ => {} }
    wheel := {}
    keyboard := fun _ => false }
  { s with
    remap := .construct device.codes device.controls s.entries
    wheel :=
      if device.features.thumbwheel then .construct device.codes device.wheel s.profile.thumbwheel
      else {} }

def machine (device : Device) (profiles : SortedMap String Profile stringLess) (active : String) :
    Machine State Label where
  init := initial device profiles active
  step s a := some (step device s a)

/-! ## Keys that are down -/

/-- The action of a button, unless it is a gesture. -/
def basicAction (b : Button) : Option BasicObject :=
  match b.action with
  | some (.basic a) => some a
  | _ => none

/-- The keys of the action that an entry gives. -/
def entryKeys (codes : EventCodes) : Option Config.Action → List UInt32
  | some (.keypress config) => Actions.KeypressAction.setConfig codes config
  | _ => []

def basicKeys (codes : EventCodes) : Option Config.BasicAction → List UInt32
  | some (.keypress config) => Actions.KeypressAction.setConfig codes config
  | _ => []

/-- No diverted control is held: `_pressed_buttons` is the last report, and the flags are those of
the last event of the wheel. -/
def State.NothingHeld (s : State) : Prop :=
  s.remap.pressedButtons = [] ∧ s.wheel.lastProxy = false ∧ s.wheel.lastTouch = false

/-- While no control is held, no key is down. -/
def NoStuckKeys (s : State) : Prop := s.NothingHeld → ∀ code, s.keyboard code = false

/-- The keys of the action that are down are among the new ones. -/
def KeepsDown (s : State) (action : Option BasicObject) (keys : List UInt32) : Prop :=
  ∀ code ∈ BasicObject.keysOf action, s.keyboard code = true → code ∈ keys

/-- The actions of the controls that are held keep their keys that are down when the features switch
to the profile. -/
structure SwitchKeeps (device : Device) (s : State) (profile : Profile) : Prop where
  buttons : ∀ control ∈ s.remap.pressedButtons,
    KeepsDown s (basicAction (s.remap.buttons control))
      (entryKeys device.codes (profileEntries (device.features.setProfile profile) control))
  proxy : s.wheel.lastProxy = true → KeepsDown s s.wheel.proxy
    (basicKeys device.codes ((device.features.setProfile profile).thumbwheel.bind fun w => w.proxy))
  touch : s.wheel.lastTouch = true → KeepsDown s s.wheel.touch
    (basicKeys device.codes ((device.features.setProfile profile).thumbwheel.bind fun w => w.touch))

/-- `SetKeys` releases the old keys of an action that is pressed, and keeps those that are down of
one that is not. -/
def SetKeysKeeps (device : Device) (s : State) (action : Option BasicObject) (keys : List String) :
    Prop :=
  (∀ a, action = some a → a.pressed = false) →
    KeepsDown s action
      (Actions.KeypressAction.setConfig device.codes (Actions.KeypressAction.entryOfKeys keys))

/-- The step takes no key that is down from the action of a control that is held: neither by another
action, nor by other keys of an action that is not pressed. -/
def TakesNoKey (device : Device) (s : State) : Label → Prop
  | .setProfile name => SwitchKeeps device s ((s.profiles.find? name).getD {})
  | .clearProfile name => name = s.active → SwitchKeeps device s {}
  | .setAction control type =>
    (∃ c, (device.controls.find? fun c => c.controlID = control) = some c ∧ c.accepts type = true) →
      control ∈ s.remap.pressedButtons → KeepsDown s (basicAction (s.remap.buttons control)) []
  | .setProxy type => (Actions.BasicAction.ofName type).isSome = true →
      s.wheel.lastProxy = true → KeepsDown s s.wheel.proxy []
  | .setTouch type => (Actions.BasicAction.ofName type).isSome = true →
      s.wheel.lastTouch = true → KeepsDown s s.wheel.touch []
  | .setKeys (.button control) keys => control ∈ s.remap.pressedButtons →
      SetKeysKeeps device s (basicAction (s.remap.buttons control)) keys
  | .setKeys .proxy keys => s.wheel.lastProxy = true → SetKeysKeeps device s s.wheel.proxy keys
  | .setKeys .touch keys => s.wheel.lastTouch = true → SetKeysKeeps device s s.wheel.touch keys
  | _ => True

end Logid.Input
