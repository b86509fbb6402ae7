import Logid.Backend.Hidpp20.ControlReporting
import Logid.Input

/-!
# Diverted controls

Rendering of `reprogFlags` of the actions, of the configuration function of a button and `configure`
(`features/RemapButton.cpp:32-75,96-99,208-222,252-262,287-303`), and of the places that call it:
`_init`, `wakeup` and `reconfigure` (`Device.cpp:151-225`), `setProfile` and `clearProfile`
(`Device.cpp:262-312`), and `SetAction`. The buttons are those of `Logid.Input`; the device stores what
is written to it, and any request can fail, also that of the constructor of a `ChangeHostAction`
(`ChangeHostAction.cpp:50-56`), whose button or gesture is left without an action then. The actions of
the thumb wheel, which no button has, are taken to be made.
-/

namespace Logid.Actions

open Backend.Hidpp20.ReprogControls (temporaryDiverted rawXYDiverted)

/-- `reprogFlags` is the same in all these classes. -/
def BasicObject.reprogFlags (_ : BasicObject) : UInt8 := temporaryDiverted

def GestureAction.reprogFlags (_ : GestureAction) : UInt8 := temporaryDiverted ||| rawXYDiverted

def ActionObject.reprogFlags : ActionObject → UInt8
  | .basic a => a.reprogFlags
  | .gesture a => a.reprogFlags

/-- The constructor of the action asks the device for a feature; it throws if there is no answer. -/
def BasicAction.asksFeature : Config.BasicAction → Bool
  | .changeHost _ => true
  | _ => false

/-- The constructor of a gesture makes its action. -/
def Gesture.asksFeature (config : Config.Gesture) : Bool :=
  (Gesture.action config).any BasicAction.asksFeature

/-- A `GestureAction` makes the gestures of the directions. -/
def Action.asksFeature : Config.Action → Bool
  | .changeHost _ => true
  | .gesture config => (config.gestures.getD .empty).entries.any fun e =>
      (Direction.ofName e.1).isSome && Gesture.asksFeature e.2
  | _ => false

end Logid.Actions

namespace Logid.Diversion

open Actions (ActionObject)
open Backend.Hidpp20.ReprogControls
open Config (Profile stringLess)
open Features (Button)

/-- A device with the version of its `ReprogControls`; `_buttons` is a map over the control ids. -/
structure Device extends Input.Device where
  version : Version
  ordered : controls.Pairwise fun a b => a.controlID < b.controlID

/-- What becomes of a request. -/
inductive Reply where
  | done
  /-- The device answers with an error. -/
  | refused
  /-- There is no answer in time; the device has got the request or not. -/
  | timeout (stored : Bool)
  deriving DecidableEq, Repr

abbrev ReportingTable := UInt16 → Reporting

/-- How a step of the device goes. -/
structure Outcome where
  /-- None of the features that switch to the profile before the buttons throws. -/
  switched : Bool := true
  /-- The controls whose new action is not made, should its constructor ask for a feature. -/
  unmade : UInt16 → Bool := fun _ => false
  /-- A new gesture, or its new action, is not made, should its constructor ask for a feature. -/
  gestureUnmade : Bool := false
  /-- What the device has when the call of `configure` starts, where it has been reset or was off. -/
  start : Option ReportingTable := none
  /-- `configure` is reached: no feature that switches after the buttons or is configured before them
  throws, nor does the reset. -/
  reached : Bool := true
  /-- What becomes of the requests, in their order; of those after them, `done`. -/
  replies : List Reply := []

/-- `hidpp20_reprog_rebind` -/
def rebind : UInt8 := changeTemporaryDivert ||| changeRawXYDivert

/-- The flags of an action that may not be there. -/
def flagsOf (action : Option ActionObject) : UInt8 := action.elim 0 ActionObject.reprogFlags

/-- `_conf_func` of a button: the parameters of its request. -/
def confFunc (version : Version) (control : Features.ControlInfo) (action : Option ActionObject) :
    Option (List UInt8) :=
  let report : ControlInfo :=
    { controlID := control.controlID, flags := rebind ||| flagsOf action }
  setControlReporting version control.controlID report

/-- `configure` on the buttons of the controls that are left; a request that fails throws. -/
def configureButtons (version : Version) (buttons : UInt16 → Button) :
    List Features.ControlInfo → List Reply → ReportingTable → ReportingTable
  | [], _, reporting => reporting
  | control :: controls, replies, reporting =>
    match confFunc version control (buttons control.controlID).action with
    | none => configureButtons version buttons controls replies reporting
    | some params =>
      match replies with
      | [] => configureButtons version buttons controls [] (storeReporting reporting params)
      | .done :: replies =>
        configureButtons version buttons controls replies (storeReporting reporting params)
      | .refused :: _ => reporting
      | .timeout stored :: _ => if stored then storeReporting reporting params else reporting

structure State where
  /-- Its active profile is the one that the buttons refer to. -/
  input : Input.State
  reporting : ReportingTable
  /-- `_profile_name` -/
  profileName : String

inductive Label where
  /-- A report of the device or a method on the bus, with what becomes of the requests it makes. -/
  | input (label : Input.Label) (outcome : Outcome)
  | wakeup (outcome : Outcome)

/-- `Device::reconfigure`; `_init` configures the features in the same order. -/
def reconfigure (device : Device) (s : State) (outcome : Outcome) : State :=
  let start := outcome.start.getD s.reporting
  let buttons := s.input.remap.buttons
  { s with reporting :=
      if outcome.reached then
        configureButtons device.version buttons device.controls outcome.replies start
      else start }

/-- `Button::configure` of one button. -/
def configureButton (device : Device) (s : State) (control : Features.ControlInfo)
    (outcome : Outcome) : State :=
  let buttons := s.input.remap.buttons
  { s with reporting :=
      configureButtons device.version buttons [control] outcome.replies s.reporting }

/-- The action that the entry of a control gives is not made. -/
def notMade (unmade : UInt16 → Bool) (cid : UInt16) (entry : Option Config.Action) : Bool :=
  unmade cid && entry.any Actions.Action.asksFeature

/-- A button is left without an action. -/
def withoutAction (s : Input.State) (cid : UInt16) : Input.State :=
  let b := { s.remap.buttons cid with action := none }
  { s with remap := { s.remap with buttons := Function.update s.remap.buttons cid b } }

/-- `_makeConfig` catches what the constructor of an action throws. -/
def withoutUnmade (s : Input.State) (unmade : UInt16 → Bool) : Input.State :=
  let button (cid : UInt16) : Button :=
    if notMade unmade cid (s.entries cid) then { s.remap.buttons cid with action := none }
    else s.remap.buttons cid
  { s with remap := { s.remap with buttons := button } }

/-- The features switch to a profile, in the order of their names; the buttons keep what they have if
one before them throws. -/
def switchTo (device : Device) (s : State) (profiles : SortedMap String Profile stringLess)
    (name : String) (outcome : Outcome) : State :=
  if outcome.switched then
    let input := Input.switch device.toDevice { s.input with profiles := profiles, active := name }
    reconfigure device
      { s with input := withoutUnmade input outcome.unmade, profileName := name } outcome
  else { s with input := { s.input with profiles := profiles }, profileName := name }

/-- `Device::setProfile` -/
def setProfile (device : Device) (s : State) (name : String) (outcome : Outcome) : State :=
  switchTo device s (s.input.profiles.emplace name {}) name outcome

/-- `Device::clearProfile`; an unknown name throws. -/
def clearProfile (device : Device) (s : State) (name : String) (outcome : Outcome) : State :=
  if name = s.profileName then switchTo device s (s.input.profiles.assign name {}) name outcome
  else { s with input := { s.input with profiles := s.input.profiles.modify name fun _ => {} } }

/-- `Button::IPC::setAction`; where `makeAction` throws the button has no action any more, and is not
configured. -/
def setAction (device : Device) (s : State) (cid : UInt16) (type : String) (outcome : Outcome) :
    State :=
  let t := { s with input := Input.step device.toDevice s.input (.setAction cid type) }
  match device.controls.find? fun c => c.controlID = cid with
  | some control =>
    if control.accepts type then
      match Actions.Action.ofName type with
      | some entry =>
        if notMade outcome.unmade cid entry then
          { t with input := withoutAction t.input cid }
        else configureButton device t control outcome
      | none => t
    else t
  | none => t

/-- `setAction` of a gesture; where `makeAction` throws the gesture has no action any more. -/
def setGestureAction (device : Device) (s : State) (place : Input.GesturePlace) (type : String)
    (outcome : Outcome) : State :=
  let input := Input.step device.toDevice s.input (.setGestureAction place type)
  match Input.gestureAt input place with
  | some (g, entry) =>
    if outcome.gestureUnmade && Actions.Gesture.asksFeature entry then
      { s with input := Input.replaceAt input (g.withAction none) entry place }
    else { s with input := input }
  | none => { s with input := input }

/-- A direction is left without a gesture where the constructor of its gesture asks for a feature. -/
def withoutGesture (s : Input.State) (cid : UInt16) (direction : String) : Input.State :=
  match Input.gestureAction s cid, Actions.Direction.ofName direction with
  | some a, some d =>
    let entry := Actions.GestureAction.gestureConfig (Features.gestureEntry (s.entries cid)) d
    if Actions.Gesture.asksFeature entry then
      Input.withButtonAction s cid
        (.gesture { a with gestures := Function.update a.gestures d none })
    else s
  | _, _ => s

/-- `GestureAction::setGesture`; a gesture of an unknown type is made of its entry again, and there is
none where this throws. -/
def setGesture (device : Device) (s : State) (cid : UInt16) (direction type : String)
    (outcome : Outcome) : State :=
  let input := Input.step device.toDevice s.input (.setGesture cid direction type)
  { s with input := if outcome.gestureUnmade then withoutGesture input cid direction else input }

def step (device : Device) (s : State) : Label → State
  | .input (.setProfile name) outcome => setProfile device s name outcome
  | .input (.clearProfile name) outcome => clearProfile device s name outcome
  | .input (.setAction cid type) outcome => setAction device s cid type outcome
  | .input (.setGesture cid direction type) outcome => setGesture device s cid direction type outcome
  | .input (.setGestureAction place type) outcome => setGestureAction device s place type outcome
  | .input label _ => { s with input := Input.step device.toDevice s.input label }
  | .wakeup outcome => reconfigure device s outcome

/-- The step clears the profile that the buttons refer to, and they do not switch to the new one:
their references dangle. -/
def dangles (s : State) : Label → Bool
  | .input (.clearProfile name) outcome =>
    name = s.input.active && !(name = s.profileName && outcome.switched)
  | _ => false

/-- A device that has been made: `_init` came to its end, so no request of it failed but those of
actions. -/
def initial (device : Device) (profiles : SortedMap String Profile stringLess) (active : String)
    (start : ReportingTable) (unmade : UInt16 → Bool) : State :=
  let input := Input.initial device.toDevice profiles active
  reconfigure device
    { input := withoutUnmade input unmade, reporting := start, profileName := active } {}

def machine (device : Device) (profiles : SortedMap String Profile stringLess) (active : String)
    (start : ReportingTable) (unmade : UInt16 → Bool) : Machine State Label where
  init := initial device profiles active start unmade
  step s a := if dangles s a then none else some (step device s a)

/-! ## What the device should divert -/

/-- The control is diverted as the flags ask, and acts as itself. -/
def Agrees (reporting : ReportingTable) (control : Features.ControlInfo) (flags : UInt8) : Prop :=
  (reporting control.controlID).flags &&& (temporaryDiverted ||| rawXYDiverted) = flags ∧
    (reporting control.controlID).remap = control.controlID

/-- The device diverts each control that has an action, its movements too where the action is a
gesture, and nothing else. -/
def Diverts (device : Device) (s : State) : Prop :=
  ∀ control ∈ device.controls,
    Agrees s.reporting control (flagsOf (s.input.remap.buttons control.controlID).action)

/-- The device gets the request with the number `k`: none before it fails, and it does not get lost on
its way. -/
def stores : List Reply → Nat → Bool
  | [], _ => true
  | .done :: _, 0 => true
  | .done :: replies, k + 1 => stores replies k
  | .timeout stored :: _, 0 => stored
  | .timeout _ :: _, _ + 1 => false
  | .refused :: _, _ => false

/-- The flags of the action that an entry gives. -/
def entryFlags : Option Config.Action → UInt8
  | none => 0
  | some (.gesture _) => temporaryDiverted ||| rawXYDiverted
  | some _ => temporaryDiverted

/-- Each control gets its request, or needs none as what the device has to start with agrees. -/
def Reconfigures (device : Device) (s : State) (outcome : Outcome) (flags : UInt16 → UInt8) : Prop :=
  ∀ k control, device.controls[k]? = some control →
    (outcome.reached = true ∧ stores outcome.replies k = true) ∨
      Agrees (outcome.start.getD s.reporting) control (flags control.controlID)

/-- The flags that the entries of a profile ask for when the features have switched to it, as far as
their actions are made. -/
def profileFlags (device : Device) (profile : Profile) (unmade : UInt16 → Bool) (cid : UInt16) :
    UInt8 :=
  let entry := Input.profileEntries (device.features.setProfile profile) cid
  if notMade unmade cid entry then 0 else entryFlags entry

/-- `SetAction` makes an action that asks for what the old one did, or the device gets its request; a
type that is no action leaves none, and so does one that is not made, so there was none before. -/
def SetActionDelivers (s : State) (control : Features.ControlInfo) (type : String)
    (outcome : Outcome) : Prop :=
  match Actions.Action.ofName type with
  | some entry =>
    if notMade outcome.unmade control.controlID entry then
      (s.input.remap.buttons control.controlID).action = none
    else stores outcome.replies 0 = true ∨
      entryFlags entry = flagsOf (s.input.remap.buttons control.controlID).action
  | none => (s.input.remap.buttons control.controlID).action = none

/-- What a step has to do for the device to keep diverting what it should. -/
def Delivers (device : Device) (s : State) : Label → Prop
  | .input (.setProfile name) outcome => outcome.switched = true →
    Reconfigures device s outcome
      (profileFlags device ((s.input.profiles.find? name).getD {}) outcome.unmade)
  | .input (.clearProfile name) outcome => name = s.profileName → outcome.switched = true →
    Reconfigures device s outcome (profileFlags device {} outcome.unmade)
  | .input (.setAction cid type) outcome =>
    ∀ control, (device.controls.find? fun c => c.controlID = cid) = some control →
      control.accepts type = true → SetActionDelivers s control type outcome
  | .input _ _ => True
  | .wakeup outcome =>
    Reconfigures device s outcome fun cid => flagsOf (s.input.remap.buttons cid).action

end Logid.Diversion
