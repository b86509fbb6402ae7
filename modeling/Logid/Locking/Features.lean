import Logid.Backend.Error
import Logid.Misc.AssocMap
import Logid.Misc.LockProgram

/-!
# The locks of a device's features

Rendering of what the features of a device do while they hold a lock: the virtual `configure` and
`setProfile` of `features/*.cpp`, and the constructors of `actions/*.cpp` and
`actions/gesture/*.cpp` that `setProfile` runs. Of the data, only what decides which lock is taken
or which call is made next is kept. A call into a `hidpp20` object or into the virtual input device
answers as the device's oracle says: with the byte that its caller looks at, or an exception.
-/

namespace Logid.Locking

open Logid.Backend (Exn)

/-- The two wheel gestures of `HiresScroll`. -/
inductive Side where
  | up
  | down
  deriving DecidableEq, Repr

/-- The mutexes of a device, of its features, and of what they own. -/
inductive Lock where
  /-- `Device::_state_lock` -/
  | state
  /-- `Device::_profile_mutex` -/
  | profile
  /-- `DPI::_config_mutex` -/
  | dpiConfig
  /-- `DPI::_dpi_list_mutex` -/
  | dpiLists
  | smartShiftConfig
  | hiresScrollConfig
  /-- `Gesture::_config_mutex` of a wheel gesture. -/
  | gesture (side : Side)
  /-- `RemapButton::_button_lock` -/
  | button
  /-- `Button::_action_lock` -/
  | action (cid : UInt16)
  | thumbWheelConfig
  deriving DecidableEq, Repr

/-- The exceptions that a handler of a feature, an action or a gesture tells apart. -/
inductive Exception where
  | backend (e : Exn)
  /-- `hidpp20::UnsupportedFeature` -/
  | unsupportedFeature
  | invalidAction
  | invalidEventCode
  | invalidArgument
  | outOfRange
  deriving DecidableEq, Repr

/-- `catch (std::exception&)` catches it. -/
def Exception.isStd : Exception → Bool
  | .backend e => e.isStd
  | _ => true

/-- A key or an axis in the configuration. -/
inductive EventCode where
  | name
  | code
  deriving DecidableEq, Repr

inductive BasicAction where
  | none
  | keypress (keys : List EventCode)
  | toggleSmartShift
  | toggleHiresScroll
  | cycleDPI
  | changeDPI
  | changeHost
  | changeProfile
  deriving DecidableEq, Repr

/-- `config::Gesture`; an `OnFewPixels` gesture is an `interval` one. -/
inductive Gesture where
  | none
  | axis (axis : Option EventCode)
  | interval (action : Option BasicAction)
  | release (action : Option BasicAction)
  | threshold (action : Option BasicAction)
  deriving DecidableEq, Repr

inductive Action where
  | basic (action : BasicAction)
  /-- The gestures by the name of their direction, in the order of the map. -/
  | gestures (gestures : List (String × Gesture))
  deriving DecidableEq, Repr

inductive DPIConfig where
  | int (dpi : Int)
  | list (dpis : List Int)
  deriving DecidableEq, Repr

/-- A plain `bool` in its place has neither gesture. -/
structure HiresScrollConfig where
  up : Option Gesture := none
  down : Option Gesture := none
  deriving DecidableEq, Repr

structure ThumbWheelConfig where
  left : Option Gesture := none
  right : Option Gesture := none
  touch : Option BasicAction := none
  tap : Option BasicAction := none
  proxy : Option BasicAction := none
  deriving DecidableEq, Repr

structure Profile where
  dpi : Option DPIConfig := none
  smartShift : Option Unit := none
  hiresScroll : Option HiresScrollConfig := none
  /-- The action of a button; the map's `operator[]` makes an entry without one. -/
  buttons : UInt16 → Option Action := fun _ => none
  thumbWheel : Option ThumbWheelConfig := none

inductive Feature where
  | dpi
  | smartShift
  | hiresScroll
  | remapButton
  | deviceStatus
  | deviceBattery
  | thumbWheel
  deriving DecidableEq, Repr

structure State where
  /-- The number of calls made so far. -/
  calls : Nat
  awake : Bool
  profiles : AssocMap String Profile
  profileName : String
  /-- `_dpi_lists.size()` -/
  dpiLists : Nat
  /-- The profile that a feature's configuration is of. -/
  config : Feature → Profile

structure Device where
  /-- The entries of `_features`. -/
  has : Feature → Bool
  resetMechanism : Bool
  /-- The control ids in `RemapButton::_buttons`. -/
  buttons : List UInt16
  defaultProfile : String
  /-- How the `n`-th call ends. -/
  answer : Nat → Except Exception UInt8

abbrev Program (α : Type) := LockProgram Lock Exception State α

open LockProgram (raise ofExcept get modify handle withLock)

/-- The next call into code that takes none of the locks. -/
def call (d : Device) : Program UInt8 := do
  let s ← get
  modify fun s => { s with calls := s.calls + 1 }
  ofExcept (d.answer s.calls)

/-- A call whose result decides nothing. -/
def command (d : Device) : Program Unit := do
  let _ ← call d
  return ()

/-- `hidpp20::Error::InvalidFeatureIndex`. -/
def invalidFeatureIndex : UInt8 := 6

/-- The constructor of `hidpp20::Feature` (`backend/hidpp20/Feature.cpp:43-63`). -/
def lookup (d : Device) : Program Unit := do
  let index ← handle (call d) fun e =>
    if e = .backend (.hidpp20Error invalidFeatureIndex) then raise .unsupportedFeature else raise e
  if index = 0 then raise .unsupportedFeature

def Feature.config (f : Feature) : Program Profile := do
  let s ← get
  return s.config f

/-- `_config = profile.…` -/
def Feature.setConfig (f : Feature) (profile : Profile) : Program Unit :=
  modify fun s => { s with config := Function.update s.config f profile }

/-- A try block whose handler logs one kind of exception. -/
def ignoring (caught : Exception → Bool) (p : Program Unit) : Program Unit :=
  handle p fun e => if caught e then pure () else raise e

/-- `KeypressAction::_setConfig` for one key: `toKeyCode`, `registerKey`. -/
def registerKey (d : Device) : EventCode → Program Unit
  | .name => ignoring (· = .invalidEventCode) do
    command d
    command d
  | .code => command d

/-- `Action::makeAction` of a `config::BasicAction`. -/
def makeBasicAction (d : Device) : BasicAction → Program Unit
  | .keypress keys => keys.forM (registerKey d)
  | .changeHost => ignoring (· = .unsupportedFeature) (lookup d)
  | _ => pure ()

def makeOptional (d : Device) : Option BasicAction → Program Unit
  | some action => makeBasicAction d action
  | none => pure ()

/-- `Gesture::makeGesture`: the constructor of the gesture. -/
def makeGesture (d : Device) : Gesture → Program Unit
  | .none | .axis none => pure ()
  | .axis (some .code) => command d
  | .axis (some .name) => do
    -- `toAxisCode`, then `registerAxis` if it gave a code
    let known ← handle (do command d; return true) fun e =>
      if e = .invalidEventCode then return false else raise e
    if known then command d
  | .interval action | .threshold action => ignoring (· = .invalidAction) (makeOptional d action)
  | .release action => makeOptional d action

/-- `GestureAction::toDirection` knows the name. -/
def isDirection (name : String) : Bool :=
  name.toLower ∈ ["up", "down", "left", "right", "none"]

/-- `Action::makeAction` of a `config::Action`. -/
def makeAction (d : Device) : Action → Program Unit
  | .basic action => makeBasicAction d action
  | .gestures gestures => gestures.forM fun (name, gesture) =>
    ignoring (· = .invalidArgument) do
      if isDirection name then makeGesture d gesture else raise .invalidArgument

/-- `emit_signal` -/
def notify (d : Device) : Program Unit := command d

/-- `Device::setBattery` (`Device.cpp:208-216`), which `DeviceBattery` calls. -/
def Device.setBattery (d : Device) (notifies : Bool) : Program Unit :=
  withLock .state do
    if notifies then notify d

namespace DPI

/-- `_fillDPILists` (`features/DPI.cpp:155-167`). -/
def fillDPILists (d : Device) (sensor : UInt8) : Program Unit := do
  let needsFill ← withLock .dpiLists do
    let s ← get
    return decide (s.dpiLists ≤ sensor.toNat)
  if needsFill then
    withLock .dpiLists do
      let s ← get
      (List.range (sensor.toNat + 1 - s.dpiLists)).forM fun _ => do
        command d
        modify fun s => { s with dpiLists := s.dpiLists + 1 }

/-- `setSensorDPI(i, getClosestDPI(_dpi_lists.at(i), dpi))` -/
def setSensorDPI (d : Device) (i : Nat) : Program Unit := do
  let s ← get
  if s.dpiLists ≤ i then raise .outOfRange else command d

/-- The loop over a list of DPIs, from sensor `i` on. -/
def setSensorDPIs (d : Device) (i : Nat) : List Int → Program Unit
  | [] => pure ()
  | dpi :: dpis => do
    if dpi ≠ 0 then setSensorDPI d i
    setSensorDPIs d (i + 1) dpis

/-- `DPI::configure` (`features/DPI.cpp:77-110`). -/
def configure (d : Device) : Program Unit :=
  withLock .dpiConfig do
    let config ← Feature.dpi.config
    match config.dpi with
    | none => pure ()
    | some (.int dpi) => do
      fillDPILists d 0
      withLock .dpiLists do
        if dpi ≠ 0 then setSensorDPI d 0
    | some (.list dpis) =>
      if dpis = [] then pure ()
      else do
        fillDPILists d (UInt8.ofNat (dpis.length - 1))
        withLock .dpiLists (setSensorDPIs d 0 dpis)

def setProfile (profile : Profile) : Program Unit :=
  withLock .dpiConfig (Feature.dpi.setConfig profile)

end DPI

namespace SmartShift

def configure (d : Device) : Program Unit :=
  withLock .smartShiftConfig do
    let config ← Feature.smartShift.config
    if config.smartShift.isSome then command d

def setProfile (profile : Profile) : Program Unit :=
  withLock .smartShiftConfig (Feature.smartShift.setConfig profile)

end SmartShift

namespace HiresScroll

/-- `getMode` and `setMode`. -/
def configure (d : Device) : Program Unit :=
  withLock .hiresScrollConfig do
    command d
    command d

/-- `gesture->press(true)` locks the gesture's own mutex, but for a `NullGesture`. -/
def press (side : Side) : Gesture → Program Unit
  | .none => pure ()
  | _ => withLock (.gesture side) (pure ())

/-- `_fixGesture` (`features/HiresScroll.cpp:153-161`): an axis asks for the multiplier. -/
def fixGesture (d : Device) (side : Side) (gesture : Gesture) : Program Unit := do
  match gesture with
  | .axis _ => command d
  | _ => pure ()
  press side gesture

def makeWheelGesture (d : Device) (side : Side) : Option Gesture → Program Unit
  | some gesture => do
    makeGesture d gesture
    fixGesture d side gesture
  | none => pure ()

def makeConfig (d : Device) : Program Unit := do
  let config ← Feature.hiresScroll.config
  match config.hiresScroll with
  | some conf => do
    makeWheelGesture d .up conf.up
    makeWheelGesture d .down conf.down
  | none => pure ()

def setProfile (d : Device) (profile : Profile) : Program Unit :=
  withLock .hiresScrollConfig do
    Feature.hiresScroll.setConfig profile
    makeConfig d

end HiresScroll

namespace RemapButton

/-- `Button::configure` for every button: `_conf_func` sets the control's reporting. -/
def configure (d : Device) : Program Unit :=
  d.buttons.forM fun cid => withLock (.action cid) (command d)

/-- `Button::setProfile` (`features/RemapButton.cpp:271-276`). -/
def setButtonProfile (d : Device) (cid : UInt16) (action : Option Action) : Program Unit :=
  withLock (.action cid) do
    match action with
    | some action => ignoring Exception.isStd (makeAction d action)
    | none => pure ()

def setProfile (d : Device) (profile : Profile) : Program Unit :=
  withLock .button do
    Feature.remapButton.setConfig profile
    d.buttons.forM fun cid => setButtonProfile d cid (profile.buttons cid)

end RemapButton

namespace DeviceBattery

/-- `DeviceBattery::configure` (`features/DeviceBattery.cpp:43-64`): `getStatus` of either feature,
then `setBattery` without a signal. -/
def configure (d : Device) : Program Unit :=
  ignoring Exception.isStd do
    command d
    d.setBattery false

end DeviceBattery

namespace ThumbWheel

def configure (d : Device) : Program Unit :=
  withLock .thumbWheelConfig do
    let config ← Feature.thumbWheel.config
    if config.thumbWheel.isSome then command d

def genGesture (d : Device) : Option Gesture → Program Unit
  | some gesture => ignoring (· = .invalidAction) (makeGesture d gesture)
  | none => pure ()

def genAction (d : Device) : Option BasicAction → Program Unit
  | some action => ignoring (· = .invalidAction) (makeBasicAction d action)
  | none => pure ()

def makeConfig (d : Device) : Program Unit := do
  let config ← Feature.thumbWheel.config
  match config.thumbWheel with
  | some conf => do
    genGesture d conf.left
    genGesture d conf.right
    genAction d conf.touch
    genAction d conf.tap
    genAction d conf.proxy
  | none => pure ()

def setProfile (d : Device) (profile : Profile) : Program Unit :=
  withLock .thumbWheelConfig do
    Feature.thumbWheel.setConfig profile
    makeConfig d

end ThumbWheel

namespace Feature

/-- The virtual `configure`; that of `DeviceStatus` does nothing. -/
def configure (d : Device) : Feature → Program Unit
  | .dpi => DPI.configure d
  | .smartShift => SmartShift.configure d
  | .hiresScroll => HiresScroll.configure d
  | .remapButton => RemapButton.configure d
  | .deviceStatus => pure ()
  | .deviceBattery => DeviceBattery.configure d
  | .thumbWheel => ThumbWheel.configure d

/-- The virtual `setProfile`; those of `DeviceStatus` and `DeviceBattery` do nothing. -/
def setProfile (d : Device) (profile : Profile) : Feature → Program Unit
  | .dpi => DPI.setProfile profile
  | .smartShift => SmartShift.setProfile profile
  | .hiresScroll => HiresScroll.setProfile d profile
  | .remapButton => RemapButton.setProfile d profile
  | .deviceStatus | .deviceBattery => pure ()
  | .thumbWheel => ThumbWheel.setProfile d profile

end Feature

end Logid.Locking
