import Logid.Features.Adopt
import Logid.Features.Configure
import Logid.Misc.Machine

/-!
# The SmartShift feature

Rendering of `features/SmartShift.cpp`: the constructor (26-55), `configure` (57-77), `setProfile`
(82-85) and the bus methods `SetActive`, `SetThreshold` and `SetTorque` (137-201), on the profiles of a
device, which `Device::setProfile` and `clearProfile` switch (`Device.cpp:262-312`). `_config` refers to
the entry of a profile, so what is edited stays with the profile.
-/

namespace Logid.Features.SmartShift

open Backend.Hidpp20.SmartShift (Version Status Defaults setStatusParams)

/-- What the device says of the feature. -/
structure Device where
  version : Version
  torqueSupport : Bool
  defaults : Defaults

/-- A call of `setStatus`, with the configuration at that time. -/
structure Sent where
  status : Status
  config : Option Config.SmartShift

structure State where
  /-- The `smartshift` entry of each profile; a profile that is not there is created without one. -/
  profiles : String → Option Config.SmartShift
  /-- The profile that `_config` refers to. -/
  profile : String
  /-- `_profile_name` of the device -/
  profileName : String
  sent : List Sent

namespace State

def config (s : State) : Option Config.SmartShift := s.profiles s.profile

/-- A write to `_config.get()`. -/
def edit (s : State) (config : Option Config.SmartShift) : State :=
  { s with profiles := Function.update s.profiles s.profile config }

def setStatus (s : State) (status : Status) : State :=
  { s with sent := { status, config := s.config } :: s.sent }

end State

/-- The status that `configure` makes of the configuration. -/
def settings (conf : Config.SmartShift) : Status where
  setActive := conf.on.isSome
  active := conf.on.getD false
  setAutoDisengage := conf.threshold.isSome
  autoDisengage := (conf.threshold.getD 0).toUInt8
  setTorque := conf.torque.isSome
  torque := (conf.torque.getD 0).toUInt8

theorem configure_eq_settings (version : Version) (config : Option Config.SmartShift)
    (hw : Backend.Hidpp20.Hardware) :
    configure version config hw = config.elim hw fun conf =>
      Backend.Hidpp20.SmartShift.setStatus version hw (settings conf) := by
  cases config <;> rfl

/-- `configure`, unless a feature before it has thrown. -/
def State.configure (s : State) (reached : Bool) : State :=
  match s.config with
  | none => s
  | some conf => if reached then s.setStatus (settings conf) else s

/-- The constructor, in `Device::_init`. -/
def construct (profiles : String → Option Config.SmartShift) (defaultProfile : String) : State where
  profiles := Function.update profiles defaultProfile
    ((profiles defaultProfile).map Config.SmartShift.clip)
  profile := defaultProfile
  profileName := defaultProfile
  sent := []

/-! ## The bus methods -/

def setActive (active clear : Bool) (s : State) : State :=
  if clear then s.edit (s.config.map fun conf => { conf with on := none })
  else
    (s.edit (some { s.config.getD {} with on := some active })).setStatus
      { active, setActive := true }

def setThreshold (device : Device) (threshold : UInt8) (clear : Bool) (s : State) : State :=
  -- clip threshold
  let threshold := if threshold = 0 then 1 else threshold
  if clear then
    (s.edit (s.config.map fun conf => { conf with threshold := none })).setStatus
      { setAutoDisengage := true, autoDisengage := device.defaults.autoDisengage }
  else
    (s.edit (some { s.config.getD {} with threshold := some threshold.toUInt32 })).setStatus
      { setAutoDisengage := true, autoDisengage := threshold }

/-- It throws when torque is unsupported. -/
def setTorque (device : Device) (torque : UInt8) (clear : Bool) (s : State) : State :=
  -- clip torque
  let torque := if torque = 0 then 1 else if torque > 100 then 100 else torque
  if device.torqueSupport then
    if clear then
      (s.edit (s.config.map fun conf => { conf with torque := none })).setStatus
        { setTorque := true, torque := device.defaults.torque }
    else
      (s.edit (some { s.config.getD {} with torque := some torque.toUInt32 })).setStatus
        { setTorque := true, torque := torque }
  else s

/-! ## Runs -/

/-- `switched` is false where a feature before this one throws in `setProfile`, and `reached` where
another one throws before `configure`. -/
inductive Label where
  | setProfile (profile : String) (switched reached : Bool)
  | clearProfile (profile : String) (switched reached : Bool)
  | wakeup (reached : Bool)
  | setActive (active clear : Bool)
  | setThreshold (threshold : UInt8) (clear : Bool)
  | setTorque (torque : UInt8) (clear : Bool)
  deriving DecidableEq, Repr

/-- The feature switches to a profile and is configured, unless another one throws before. -/
def switchTo (profile : String) (switched reached : Bool) (s : State) : State :=
  if switched then { s with profile := profile }.configure reached else s

/-- `Device::setProfile` -/
def setProfile (profile : String) (switched reached : Bool) (s : State) : State :=
  switchTo profile switched reached { s with profileName := profile }

/-- `Device::clearProfile` -/
def clearProfile (profile : String) (switched reached : Bool) (s : State) : State :=
  let s' := { s with profiles := Function.update s.profiles profile none }
  if profile = s.profileName then switchTo profile switched reached s' else s'

def step (device : Device) (s : State) : Label → State
  | .setProfile profile switched reached => setProfile profile switched reached s
  | .clearProfile profile switched reached => clearProfile profile switched reached s
  | .wakeup reached => s.configure reached
  | .setActive active clear => setActive active clear s
  | .setThreshold threshold clear => setThreshold device threshold clear s
  | .setTorque torque clear => setTorque device torque clear s

def machine (device : Device) (profiles : String → Option Config.SmartShift)
    (defaultProfile : String) : Machine State Label where
  init := (construct profiles defaultProfile).configure true
  step s label := some (step device s label)

/-! ## Ranges -/

/-- The parameters for a configured threshold or torque are in range. A device of the first version
gets no torque. -/
structure Sent.InRange (version : Version) (e : Sent) : Prop where
  threshold : ∀ threshold, e.status.setAutoDisengage = true →
    e.config.bind (·.threshold) = some threshold →
      (setStatusParams version e.status).autoDisengage ≠ 0 ∧
        (1 ≤ threshold.toNat → threshold.toNat ≤ 255 →
          (setStatusParams version e.status).autoDisengage.toNat = threshold.toNat)
  torque : ∀ torque, version = .v2 → e.status.setTorque = true →
    e.config.bind (·.torque) = some torque →
      1 ≤ (setStatusParams version e.status).torque.toNat ∧
        (setStatusParams version e.status).torque.toNat ≤ 100

def SendsInRange (version : Version) (s : State) : Prop := ∀ e ∈ s.sent, e.InRange version

/-- What the configuration says is in range once it is cut to a byte. -/
structure FitsByte (version : Version) (conf : Config.SmartShift) : Prop where
  threshold : ∀ threshold, conf.threshold = some threshold → threshold.toNat % 256 ≠ 0
  torque : ∀ torque, version = .v2 → conf.torque = some torque →
    1 ≤ torque.toNat % 256 ∧ torque.toNat % 256 ≤ 100

/-- Every profile that was loaded is in range; in the default profile, which the constructor clips, the
threshold may be 0 and the torque is free. -/
def LoadedInRange (version : Version) (profiles : String → Option Config.SmartShift)
    (defaultProfile : String) : Prop :=
  ∀ profile conf, profiles profile = some conf →
    if profile = defaultProfile then
      ∀ threshold, conf.threshold = some threshold → threshold ≠ 0 → threshold.toNat % 256 ≠ 0
    else FitsByte version conf

end Logid.Features.SmartShift
