import Logid.Features.Settings
import Logid.Features.Wheels
import Logid.Misc.Machine

/-!
# The mode of the hi-res wheel

`HiresScroll` keeps its three options in the configuration, in `_mode` and `_mask`, and in the mode byte
of the device. Rendering of `_makeConfig`, `_configure`, `SetHires`, `SetInvert` and `SetTarget`
(`features/HiresScroll.cpp:50-103` and `249-279`), with the calls that change the gestures.
-/

namespace Logid.Features

open Actions (EventCodes)
open Backend.Hidpp20 (Hardware)

/-- The options that are bits of the mode. -/
inductive ModeOption where
  | hires
  | invert
  | target
  deriving DecidableEq, Repr

namespace ModeOption

/-- `hidpp20::HiresScroll::Mode` -/
def bit : ModeOption → UInt8
  | hires => Backend.Hidpp20.HiresScroll.hiRes
  | invert => Backend.Hidpp20.HiresScroll.inverted
  | target => Backend.Hidpp20.HiresScroll.target

def index : ModeOption → Fin 8
  | hires => 1
  | invert => 2
  | target => 0

def get (conf : Config.HiresScroll) : ModeOption → Option Bool
  | hires => conf.hires
  | invert => conf.invert
  | target => conf.target

def set (conf : Config.HiresScroll) (value : Bool) : ModeOption → Config.HiresScroll
  | hires => { conf with hires := some value }
  | invert => { conf with invert := some value }
  | target => { conf with target := some value }

/-- The option in the present configuration. -/
def configured (entry : HiresEntry) (option : ModeOption) : Option Bool :=
  option.get (HiresScroll.parentConfig entry)

end ModeOption

/-- `_mode` and `_mask` -/
structure ModeMask where
  mode : UInt8 := 0
  mask : UInt8 := 0
  deriving DecidableEq, Repr

namespace ModeMask

/-- What `_makeConfig` does for an option. -/
def addOption (conf : Config.HiresScroll) (option : ModeOption) (m : ModeMask) : ModeMask :=
  match option.get conf with
  | none => m
  | some value =>
    { mode := if value then m.mode ||| option.bit else m.mode
      mask := m.mask ||| option.bit }

/-- `_mode` and `_mask` after `_makeConfig`. -/
def makeConfig (config : HiresEntry) : ModeMask :=
  match config with
  | none => {}
  | some value =>
    let m : ModeMask := match value with
      | .inl _ => { mask := 0 ||| ModeOption.hires.bit }
      | .inr _ => {}
    let conf := Config.HiresScroll.adopt value
    addOption conf .target (addOption conf .invert (addOption conf .hires m))

/-- What `SetHires`, `SetInvert` and `SetTarget` do. -/
def setOption (option : ModeOption) (value : Bool) (m : ModeMask) : ModeMask where
  mode := if value then m.mode ||| option.bit else m.mode &&& ~~~option.bit
  mask := m.mask ||| option.bit

/-- `_configure` -/
def configure (m : ModeMask) (hw : Hardware) : Hardware :=
  let mode := Backend.Hidpp20.HiresScroll.getMode hw
  let mode := mode &&& ~~~m.mask
  let mode := mode ||| (m.mode &&& m.mask)
  Backend.Hidpp20.HiresScroll.setMode hw mode

end ModeMask

/-- The feature with its part of the profile, and the device. -/
structure WheelMode where
  entry : HiresEntry
  modeMask : ModeMask
  gestures : HiresScroll
  hardware : Hardware

namespace WheelMode

inductive Label where
  | setProfile (config : HiresEntry)
  /-- `SetHires`, `SetInvert` and `SetTarget`; the device may not answer. -/
  | setOption (option : ModeOption) (value answers : Bool)
  /-- `SetUp` and `SetDown` -/
  | setGesture (turn : Turn) (type : String)
  | configure
  /-- The mode of the device changes by itself. -/
  | deviceMode (mode : UInt8)

def construct (codes : EventCodes) (multiplier : UInt8) (config : HiresEntry) (hw : Hardware) :
    WheelMode where
  entry := HiresScroll.adoptEntry config
  modeMask := ModeMask.makeConfig config
  gestures := HiresScroll.construct codes multiplier config
  hardware := hw

def setProfile (codes : EventCodes) (multiplier : UInt8) (config : HiresEntry) (s : WheelMode) :
    WheelMode :=
  { s with
    entry := HiresScroll.adoptEntry config
    modeMask := ModeMask.makeConfig config
    gestures := s.gestures.setProfile codes multiplier config }

def configure (s : WheelMode) : WheelMode :=
  { s with hardware := s.modeMask.configure s.hardware }

def setOption (option : ModeOption) (value answers : Bool) (s : WheelMode) : WheelMode :=
  let s := { s with
    entry := some (.inr (option.set (HiresScroll.parentConfig s.entry) value))
    modeMask := s.modeMask.setOption option value }
  if answers then s.configure else s

/-- `none` where a null node is used. -/
def setGesture (codes : EventCodes) (multiplier : UInt8) (turn : Turn) (type : String)
    (s : WheelMode) : Option WheelMode :=
  (s.gestures.setGesture codes multiplier turn type s.entry).map fun (conf, gestures, _) =>
    { s with entry := some (.inr conf), gestures := gestures }

def machine (codes : EventCodes) (multiplier : UInt8) (config : HiresEntry) (hw : Hardware) :
    Machine WheelMode Label where
  init := construct codes multiplier config hw
  step s
    | .setProfile config => some (s.setProfile codes multiplier config)
    | .setOption option value answers => some (s.setOption option value answers)
    | .setGesture turn type => s.setGesture codes multiplier turn type
    | .configure => some s.configure
    | .deviceMode mode => some { s with
      hardware := Backend.Hidpp20.HiresScroll.setMode s.hardware mode }

/-- The bits that are set are those of the options with a property. -/
def BitsOf (byte : UInt8) (p : ModeOption → Prop) : Prop :=
  ∀ bit, bitOf byte bit = 1 ↔ ∃ option : ModeOption, option.index = bit ∧ p option

/-- `_mode` and `_mask` are those of the present configuration. -/
structure Coherent (s : WheelMode) : Prop where
  mask : BitsOf s.modeMask.mask fun option => (option.configured s.entry).isSome
  mode : BitsOf s.modeMask.mode fun option => option.configured s.entry = some true

/-- In the mode of a device the options that are configured have their values, and the other bits are
what they were. -/
structure Configured (entry : HiresEntry) (before after : Hardware) : Prop where
  option : ∀ (option : ModeOption) value, option.configured entry = some value →
    bitOf after.scrollMode option.index = value.toNat
  other : ∀ bit, (∀ option : ModeOption, option.index = bit → option.configured entry = none) →
    bitOf after.scrollMode bit = bitOf before.scrollMode bit
  frame : after = { before with scrollMode := after.scrollMode }

/-- The copies agree, and `configure` makes any device agree. -/
def Agrees (s : WheelMode) : Prop :=
  s.Coherent ∧ ∀ hw, Configured s.entry hw ({ s with hardware := hw } : WheelMode).configure.hardware

end WheelMode

end Logid.Features
