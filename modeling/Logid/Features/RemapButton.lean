import Logid.Actions.Objects

/-!
# Diverted buttons

Rendering of `features/RemapButton.cpp:98-260`: the buttons of a device with the actions they hold,
what the reports of the device do to them, and what a change of profile and `SetAction` do. The entry
of a button is read when the button is used, so the functions take the entries of all buttons.
-/

namespace Logid.Features

open Actions (ActionObject Direction EventCodes InputEvent)

/-- What `SetAction` reads of `ReprogControls::ControlInfo`. -/
structure ControlInfo where
  controlID : UInt16
  temporaryDivertable : Bool
  rawXY : Bool
  deriving DecidableEq, Repr

/-- `_action` and `_first_move` of a `Button`. -/
structure Button where
  action : Option ActionObject := none
  firstMove : Bool := false

/-- The entries of the buttons, `config[controlID].action`. -/
abbrev ButtonEntries := UInt16 → Option Config.Action

/-- The gestures that the action of an entry refers to. -/
def gestureEntry (entry : Option Config.Action) : Config.GestureAction :=
  (entry.map Actions.Action.gestureEntry).getD {}

namespace Button

/-- `_makeConfig` of a button without action. -/
def make (codes : EventCodes) (entry : Option Config.Action) : Button :=
  { action := entry.map (ActionObject.make codes) }

/-- A method of the action, if there is one. -/
def onAction (b : Button) (f : ActionObject → ActionObject × List InputEvent) :
    Button × List InputEvent :=
  match b.action with
  | some action =>
    let (action, events) := f action
    ({ b with action := some action }, events)
  | none => (b, [])

def press (entry : Option Config.Action) (b : Button) : Button × List InputEvent :=
  Button.onAction { b with firstMove := true } (ActionObject.press (gestureEntry entry))

def release (entry : Option Config.Action) (b : Button) : Button × List InputEvent :=
  b.onAction (ActionObject.release (gestureEntry entry))

/-- The first movement after a press is dropped. -/
def move (entry : Option Config.Action) (x y : Int) (b : Button) : Button × List InputEvent :=
  if b.action.isSome && !b.firstMove then b.onAction (ActionObject.move (gestureEntry entry) x y)
  else if b.firstMove then ({ b with firstMove := false }, [])
  else (b, [])

def pressed (b : Button) : Bool :=
  match b.action with
  | some action => action.pressed
  | none => false

/-- `setProfile` -/
def setProfile (codes : EventCodes) (entry : Option Config.Action) (b : Button) : Button :=
  { b with action := entry.map (ActionObject.make codes) }

/-- `IPC::setAction`, what it does to the action. It is reset first, and a type that is no action
throws. -/
def setAction (codes : EventCodes) (type : String) (b : Button) : Button :=
  { b with action :=
      ((Actions.Action.ofName type).bind id).map (ActionObject.make codes) }

end Button

/-- `IPC::setAction` does not throw before it resets the action. -/
def ControlInfo.accepts (control : ControlInfo) (type : String) : Bool :=
  control.temporaryDivertable && (type != "Gesture" || control.rawXY)

/-- `_pressed_buttons`, in the order of the set, and `_buttons`. -/
structure RemapButton where
  pressedButtons : List UInt16
  buttons : UInt16 → Button

namespace RemapButton

/-- One of `_buttons` does something; the others are not there. -/
def onButton (controls : List ControlInfo) (r : RemapButton) (i : UInt16)
    (f : Button → Button × List InputEvent) : RemapButton × List InputEvent :=
  if i ∈ controls.map ControlInfo.controlID then
    let (b, events) := f (r.buttons i)
    ({ r with buttons := Function.update r.buttons i b }, events)
  else (r, [])

/-- The first loop of `_buttonEvent`: what is left in `_pressed_buttons` are the removed buttons. -/
def pressAdded (controls : List ControlInfo) (entries : ButtonEntries) :
    List UInt16 → RemapButton → RemapButton × List InputEvent
  | [], r => (r, [])
  | i :: is, r =>
    if i ∈ r.pressedButtons then
      pressAdded controls entries is { r with pressedButtons := r.pressedButtons.erase i }
    else
      let (r, events) := r.onButton controls i (Button.press (entries i))
      let (r, more) := pressAdded controls entries is r
      (r, events ++ more)

/-- The second loop. -/
def releaseRemoved (controls : List ControlInfo) (entries : ButtonEntries) :
    List UInt16 → RemapButton → RemapButton × List InputEvent
  | [], r => (r, [])
  | i :: is, r =>
    let (r, events) := r.onButton controls i (Button.release (entries i))
    let (r, more) := releaseRemoved controls entries is r
    (r, events ++ more)

/-- `_buttonEvent` -/
def buttonEvent (controls : List ControlInfo) (entries : ButtonEntries) (r : RemapButton)
    (newState : List UInt16) : RemapButton × List InputEvent :=
  let (r, presses) := pressAdded controls entries newState r
  let (r, releases) := releaseRemoved controls entries r.pressedButtons r
  ({ r with pressedButtons := newState }, presses ++ releases)

/-- The handler of `DivertedRawXYEvent`. -/
def rawXYEvent (entries : ButtonEntries) (x y : Int) :
    List ControlInfo → RemapButton → RemapButton × List InputEvent
  | [], r => (r, [])
  | control :: controls, r =>
    let i := control.controlID
    let (b, events) :=
      if (r.buttons i).pressed then (r.buttons i).move (entries i) x y else (r.buttons i, [])
    let (r, more) := rawXYEvent entries x y controls
      { r with buttons := Function.update r.buttons i b }
    (r, events ++ more)

/-- The constructor, with the entries of the profile. -/
def construct (codes : EventCodes) (controls : List ControlInfo) (entries : ButtonEntries) :
    RemapButton where
  pressedButtons := []
  buttons i := if i ∈ controls.map ControlInfo.controlID then .make codes (entries i) else {}

/-- `setProfile`, with the entries of the new profile. -/
def setProfile (codes : EventCodes) (controls : List ControlInfo) (entries : ButtonEntries)
    (r : RemapButton) : RemapButton :=
  { r with buttons := fun i =>
      if i ∈ controls.map ControlInfo.controlID then (r.buttons i).setProfile codes (entries i)
      else r.buttons i }

end RemapButton

end Logid.Features
