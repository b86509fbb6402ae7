import Logid.Locking.Features

/-!
# The locks of a device's operations

Rendering of the operations of `Device.cpp:188-317` that a connection event, a broadcast or a D-Bus
call runs on a live device, with the features and the locks they go through.
-/

namespace Logid.Locking

open LockProgram (raise get modify withLock)

/-- The order of `_features`, a map with the features' names as its keys. -/
def featureOrder : List Feature :=
  [.deviceBattery, .deviceStatus, .dpi, .hiresScroll, .remapButton, .smartShift, .thumbWheel]

/-- The name under which `_init` adds a feature. -/
def Feature.name : Feature → String
  | .dpi => "dpi"
  | .smartShift => "smartshift"
  | .hiresScroll => "hiresscroll"
  | .remapButton => "remapbutton"
  | .deviceStatus => "devicestatus"
  | .deviceBattery => "devicebattery"
  | .thumbWheel => "thumbwheel"

example : (featureOrder.map Feature.name).Pairwise (· < ·) := by decide

namespace Device

def features (d : Device) : List Feature := featureOrder.filter d.has

/-- `Device::reset`; the mechanism looks up the feature and calls `getProfile` and `reset`. -/
def reset (d : Device) : Program Unit :=
  if d.resetMechanism then do
    lookup d
    command d
    command d
  else pure ()

def reconfigure (d : Device) : Program Unit := do
  d.reset
  d.features.forM (Feature.configure d)

def setAwake (awake : Bool) : Program Unit :=
  modify fun s => { s with awake := awake }

def sleep (d : Device) : Program Unit :=
  withLock .state do
    let s ← get
    if s.awake then
      setAwake false
      notify d

def wakeup (d : Device) : Program Unit :=
  withLock .state do
    d.reconfigure
    let s ← get
    if !s.awake then
      setAwake true
      notify d

/-- The features are given a profile, and the device is configured by it. -/
def applyProfile (d : Device) (profile : Profile) : Program Unit := do
  d.features.forM (Feature.setProfile d profile)
  d.reconfigure

def setProfile (d : Device) (name : String) : Program Unit :=
  withLock .profile do
    modify fun s => { s with profiles := s.profiles.emplace name {}, profileName := name }
    let s ← get
    d.applyProfile ((s.profiles.find? name).getD {})

def removeProfile (d : Device) (name : String) : Program Unit :=
  withLock .profile do
    let s ← get
    if name = s.profileName then raise .invalidArgument
    else if name = d.defaultProfile then raise .invalidArgument
    else modify fun s => { s with profiles := s.profiles.erase name }

def clearProfile (d : Device) (name : String) : Program Unit :=
  withLock .profile do
    let s ← get
    if name = s.profileName then
      modify fun s => { s with profiles := s.profiles.set name {} }
      d.applyProfile {}
    else if s.profiles.Has name then
      modify fun s => { s with profiles := s.profiles.set name {} }
    else raise .invalidArgument

end Device

inductive Operation where
  | sleep
  /-- After a connection event or a wireless-status broadcast. -/
  | wakeup
  | setBattery (notifies : Bool)
  | setProfile (name : String)
  | clearProfile (name : String)
  | removeProfile (name : String)
  | reconfigure

def Operation.run (d : Device) : Operation → Program Unit
  | .sleep => d.sleep
  | .wakeup => d.wakeup
  | .setBattery notifies => d.setBattery notifies
  | .setProfile name => d.setProfile name
  | .clearProfile name => d.clearProfile name
  | .removeProfile name => d.removeProfile name
  | .reconfigure => d.reconfigure

end Logid.Locking
