import Logid.Features.Adopt
import Logid.Misc.AssocMap
import Logid.Misc.Machine

/-!
# The profiles of the devices

Rendering of the parts of `Device.cpp` that read and change the profiles: `_getConfig` (374-400), the
beginning of `_init` (155-161) and `setProfile`, `setProfileDelayed`, `removeProfile` and
`clearProfile` (262-317). Devices of one name share one `config::Device`, so the configuration stands
beside the devices in the state. A device keeps an iterator into the map of its profiles. An iterator
points to one node: erasing the node makes it dangle, also when the key is inserted anew.
-/

namespace Logid.Profiles

open Config (Profile stringLess)
open Features (Supported)

/-- A node of `config.profiles`. One key never gets the same number twice. -/
structure Node where
  id : Nat
  profile : Profile
  deriving DecidableEq

/-- An iterator of `config.profiles`. -/
structure Iter where
  key : String
  id : Nat
  deriving DecidableEq, Repr

abbrev ProfileMap := SortedMap String Node stringLess

structure DeviceConfig where
  defaultProfile : String := ""
  profiles : ProfileMap := .empty
  deriving DecidableEq

/-- What `logid::Device` keeps of its profile, and its features. -/
structure Device where
  name : String
  features : Supported
  profile : Iter
  profileName : String

structure State where
  /-- `config()->devices` -/
  devices : SortedMap String (DeviceConfig ⊕ Profile) stringLess
  live : AssocMap Nat Device
  /-- The queued tasks of `setProfileDelayed`. -/
  tasks : List (Nat × String)
  nextNode : Nat
  nextDevice : Nat

/-- How a change of profile ends once the profile is there. -/
inductive Outcome where
  | done
  /-- A feature throws; it and the features before it leave this in the profile. -/
  | featureThrows (left : Profile)
  | reconfigureThrows

/-- What the caller of a method sees. -/
inductive Reply where
  | ok
  | invalidArgument (what : String)
  /-- The exception of a feature or of the hardware. -/
  | threw
  deriving DecidableEq, Repr

def Outcome.reply : Outcome → Reply
  | .done => .ok
  | .featureThrows _ => .threw
  | .reconfigureThrows => .threw

/-- What the profile holds afterwards. -/
def Outcome.profile (adopt : Profile → Profile) : Outcome → Profile → Profile
  | .featureThrows left, _ => left
  | _, profile => adopt profile

/-- Writes into the profile of a node. -/
def Node.write (f : Profile → Profile) (node : Node) : Node :=
  { node with profile := f node.profile }

/-- `_config` of a device. -/
def State.config (s : State) (device : Device) : Option DeviceConfig :=
  (s.devices.find? device.name).bind fun entry => entry.getLeft?

/-- What the device writes through the reference `_config`. -/
def State.setConfig (s : State) (device : Device) (conf : DeviceConfig) : State :=
  { s with devices := s.devices.assign device.name (.inl conf) }

/-- `_config.profiles.find(profile)`, or the entry that `insert` makes. -/
def locate (nextNode : Nat) (profiles : ProfileMap) (profile : String) : ProfileMap × Iter :=
  match profiles.find? profile with
  | some node => (profiles, ⟨profile, node.id⟩)
  | none => (profiles.emplace profile ⟨nextNode, {}⟩, ⟨profile, nextNode⟩)

/-- `Device::_getConfig` (`Device.cpp:374-400`) -/
def getConfig (s : State) (name : String) : DeviceConfig :=
  let single (profile : Profile) : DeviceConfig :=
    { defaultProfile := "default",
      profiles := SortedMap.empty.emplace "default" ⟨s.nextNode, profile⟩ }
  match (s.devices.find? name).getD (.inl {}) with
  | .inr profile => single profile
  | .inl conf => if conf.profiles.entries.isEmpty then single {} else conf

/-- The constructor of `Device`. When it throws no device is left, but the configuration is. -/
def make (s : State) (name : String) (features : Supported) (outcome : Outcome) : State :=
  let conf := getConfig s name
  let (profiles, iter) := locate (s.nextNode + 1) conf.profiles conf.defaultProfile
  let written := profiles.modify conf.defaultProfile
    (Node.write (outcome.profile features.construct))
  { s with
    devices := s.devices.assign name (.inl { conf with profiles := written })
    live :=
      match outcome with
      | .done => s.live.emplace s.nextDevice
          { name := name, features := features, profile := iter, profileName := conf.defaultProfile }
      | _ => s.live
    nextNode := s.nextNode + 2
    nextDevice := s.nextDevice + 1 }

/-- `Device::setProfile` (`Device.cpp:262-274`) -/
def setProfile (s : State) (id : Nat) (profile : String) (outcome : Outcome) :
    Option (State × Reply) := do
  let device ← s.live.find? id
  let conf ← s.config device
  let (profiles, iter) := locate s.nextNode conf.profiles profile
  let written := profiles.modify profile (Node.write (outcome.profile device.features.setProfile))
  let s' := { s with
    live := s.live.set id { device with profile := iter, profileName := profile }
    nextNode := s.nextNode + 1 }
  return (s'.setConfig device { conf with profiles := written }, outcome.reply)

/-- `Device::removeProfile` (`Device.cpp:283-292`) -/
def removeProfile (s : State) (id : Nat) (profile : String) : Option (State × Reply) := do
  let device ← s.live.find? id
  let conf ← s.config device
  if profile = device.profileName then
    return (s, .invalidArgument "cannot remove active profile")
  else if profile = conf.defaultProfile then
    return (s, .invalidArgument "cannot remove default profile")
  else
    return (s.setConfig device { conf with profiles := conf.profiles.erase profile }, .ok)

/-- `Device::clearProfile` (`Device.cpp:294-312`). Nothing is defined once the iterator dangles. -/
def clearProfile (s : State) (id : Nat) (profile : String) (outcome : Outcome) :
    Option (State × Reply) := do
  let device ← s.live.find? id
  let conf ← s.config device
  let write (key : String) (f : Profile → Profile) : State :=
    s.setConfig device { conf with profiles := conf.profiles.modify key (Node.write f) }
  if profile = device.profileName then
    let node ← conf.profiles.find? device.profile.key
    if node.id = device.profile.id then
      let cleared := write device.profile.key fun _ =>
        outcome.profile device.features.setProfile {}
      return (cleared, outcome.reply)
    else none
  else if (conf.profiles.find? profile).isSome then
    return (write profile fun _ => {}, .ok)
  else
    return (s, .invalidArgument "unknown profile")

/-- A write of the property `DefaultProfile`, which is `_config.default_profile`. -/
def writeDefaultProfile (s : State) (id : Nat) (value : String) : Option State := do
  let device ← s.live.find? id
  let conf ← s.config device
  return s.setConfig device { conf with defaultProfile := value }

/-- `Device::setProfileDelayed` -/
def setProfileDelayed (s : State) (id : Nat) (profile : String) : Option State := do
  let _ ← s.live.find? id
  return { s with tasks := s.tasks ++ [(id, profile)] }

/-- A worker runs the `n`-th queued task. -/
def runTask (s : State) (n : Nat) (outcome : Outcome) : Option State := do
  let task ← s.tasks[n]?
  let s' := { s with tasks := s.tasks.eraseIdx n }
  match s.live.find? task.1 with
  | some _ => (setProfile s' task.1 task.2 outcome).map Prod.fst
  -- `self_weak.lock()` gives null
  | none => return s'

inductive Label where
  | make (name : String) (features : Supported) (outcome : Outcome)
  /-- The last reference to a device is dropped. -/
  | destroy (id : Nat)
  | setProfile (id : Nat) (profile : String) (outcome : Outcome)
  | removeProfile (id : Nat) (profile : String)
  | clearProfile (id : Nat) (profile : String) (outcome : Outcome)
  | writeDefaultProfile (id : Nat) (value : String)
  | setProfileDelayed (id : Nat) (profile : String)
  | runTask (n : Nat) (outcome : Outcome)

def step (s : State) : Label → Option State
  | .make name features outcome => some (make s name features outcome)
  | .destroy id => some { s with live := s.live.erase id }
  | .setProfile id profile outcome => (setProfile s id profile outcome).map Prod.fst
  | .removeProfile id profile => (removeProfile s id profile).map Prod.fst
  | .clearProfile id profile outcome => (clearProfile s id profile outcome).map Prod.fst
  | .writeDefaultProfile id value => writeDefaultProfile s id value
  | .setProfileDelayed id profile => setProfileDelayed s id profile
  | .runTask n outcome => runTask s n outcome

/-- The state after the configuration is loaded. -/
def loaded (config : Config.Config) : State where
  devices := (config.devices.getD .empty).mapValues fun _ entry =>
    entry.map (fun conf => {
      defaultProfile := conf.defaultProfile
      profiles := conf.profiles.mapValues fun _ profile => ⟨0, profile⟩ }) id
  live := .empty
  tasks := []
  nextNode := 1
  nextDevice := 0

def machine (config : Config.Config) : Machine State Label where
  init := loaded config
  step := step

/-- The iterator of the device points to an entry of the map, and the key of the entry is the
`ActiveProfile` of the device. -/
def Device.PointsInto (device : Device) (conf : DeviceConfig) : Prop :=
  device.profile.key = device.profileName ∧
    ∃ node, conf.profiles.find? device.profile.key = some node ∧ node.id = device.profile.id

/-- The iterator of every device is in the map of its configuration, at its `ActiveProfile`. -/
def State.ProfilesValid (s : State) : Prop :=
  ∀ id device, s.live.find? id = some device →
    ∃ conf, s.config device = some conf ∧ device.PointsInto conf

/-- What `RemoveProfile` does not check: a profile that it erases is not the active one of another
device with the same configuration. -/
def NotActiveElsewhere (s : State) : Label → Prop
  | .removeProfile id profile =>
    ∀ device conf, s.live.find? id = some device → s.config device = some conf →
      profile ≠ device.profileName → profile ≠ conf.defaultProfile →
        ∀ id' other, s.live.find? id' = some other → other.name = device.name →
          other.profileName ≠ profile
  | _ => True

end Logid.Profiles
