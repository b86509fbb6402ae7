import Logid.Backend.Hidpp20.Features
import Logid.Features.Adopt

/-!
# Configuring the hardware

Rendering of `Device::setProfile` and `Device::reconfigure` (`Device.cpp:220-274`) with the
`configure` of the features that write the settings the daemon controls: `DPI`, `HiresScroll`,
`SmartShift` and `ThumbWheel`, run in the order of their names. The other features write no such
setting.
-/

namespace Logid.Features

open Backend.Hidpp20 (Hardware SensorDPIList SmartShift.Version)
open Config (Profile stringLess)

/-- A device: the features of its hardware. -/
structure Info where
  /-- The DPI lists of its sensors. -/
  sensors : Option (List SensorDPIList) := none
  /-- A sensor is named by a byte. -/
  sensors_le : ∀ lists ∈ sensors, lists.length ≤ 256 := by simp
  smartShift : Option Backend.Hidpp20.SmartShift.Version := none
  hiresScroll : Bool := false
  /-- The controls of `ReprogControls`. -/
  controls : Option (List UInt16) := none
  thumbWheel : Bool := false
  /-- What a `Reset` does to the settings, for a device that has the feature. -/
  reset : Option (Hardware → Hardware) := none

namespace Info

def supported (info : Info) : Supported where
  smartshift := info.smartShift.isSome
  hiresscroll := info.hiresScroll
  remapbutton := info.controls
  thumbwheel := info.thumbWheel

def sensorLists (info : Info) : List SensorDPIList := info.sensors.getD []

theorem sensorLists_length (info : Info) : info.sensorLists.length ≤ 256 := by
  cases h : info.sensors with
  | none => simp [sensorLists, h]
  | some lists =>
    simp only [sensorLists, h, Option.getD_some]
    exact info.sensors_le lists h

end Info

/-! ## DPI -/

/-- `std::min_element` by the distance to `dpi`, from the best element so far. -/
def nearest (dpi : UInt16) (best : UInt16) : List UInt16 → UInt16
  | [] => best
  | a :: as =>
    if (dpi.toNat - a.toNat : Int).natAbs < (dpi.toNat - best.toNat : Int).natAbs then
      nearest dpi a as
    else nearest dpi best as

/-- `getClosestDPI` (`DPI.cpp:28-60`); `none` where it is undefined: a range without bounds or with
step zero. -/
def getClosestDPI (list : SensorDPIList) (dpi : UInt16) : Option UInt16 :=
  if list.isRange then
    match list.dpis with
    | [] => none
    | first :: rest =>
      let min := rest.foldl (fun m a => if a < m then a else m) first
      let max := rest.foldl (fun m a => if m < a then a else m) first
      if list.dpiStep = 0 then none
      else if (dpi.toNat - min.toNat : Int) % list.dpiStep.toNat = 0 ∧ min ≤ dpi ∧ dpi ≤ max then
        some dpi
      else if max < dpi then some max
      else if dpi < min then some min
      else
        -- `round` goes to the nearest integer, away from zero at a half
        let steps := (2 * (dpi.toNat - min.toNat) + list.dpiStep.toNat) / (2 * list.dpiStep.toNat)
        some (UInt16.ofNat (min.toNat + steps * list.dpiStep.toNat))
  else if dpi ∈ list.dpis then some dpi
  else
    match list.dpis with
    | [] => some 0
    | first :: rest => some (nearest dpi first rest)

/-- `_dpi_lists`: the lists of the first sensors, read once. -/
abbrev DpiLists (info : Info) := { lists : List SensorDPIList // lists <+: info.sensorLists }

/-- Hardware, and what a feature keeps of it. -/
structure Control (info : Info) where
  hardware : Hardware
  dpiLists : DpiLists info

theorem prefix_concat {α : Type*} {l lists : List α} {a : α} (h : l <+: lists)
    (ha : lists[l.length]? = some a) : l ++ [a] <+: lists := by
  obtain ⟨rest, rfl⟩ := h
  cases rest with
  | nil => simp at ha
  | cons b rest =>
    rw [List.getElem?_append_right (Nat.le_refl _), Nat.sub_self, List.getElem?_cons_zero,
      Option.some_inj] at ha
    subst ha
    exact ⟨rest, by simp⟩

/-- The loop of `_fillDPILists`; `false` when `getSensorDPIList` throws. -/
def fillLoop {info : Info} : Nat → DpiLists info → DpiLists info × Bool
  | 0, lists => (lists, true)
  | n + 1, lists =>
    match h : info.sensorLists[lists.1.length]? with
    | some list => fillLoop n ⟨lists.1 ++ [list], prefix_concat lists.2 h⟩
    | none => (lists, false)

/-- `DPI::_fillDPILists` -/
def fillDPILists {info : Info} (lists : DpiLists info) (sensor : UInt8) : DpiLists info × Bool :=
  fillLoop (sensor.toNat + 1 - lists.1.length) lists

/-- The conversion of an `int` to the parameter of `getClosestDPI`. -/
def toUInt16 (dpi : Int32) : UInt16 := dpi.toUInt32.toUInt16

/-- The loop of `DPI::configure`; `false` when `at` throws, `none` where `getClosestDPI` is
undefined. -/
def setDPIs (lists : List SensorDPIList) : List Int32 → Nat → Hardware → Option (Hardware × Bool)
  | [], _, hw => some (hw, true)
  | dpi :: dpis, i, hw =>
    if dpi = 0 then setDPIs lists dpis (i + 1) hw
    else
      match lists[i]? with
      | none => some (hw, false)
      | some list => do
        let closest ← getClosestDPI list (toUInt16 dpi)
        setDPIs lists dpis (i + 1)
          (Backend.Hidpp20.AdjustableDPI.setSensorDPI hw (UInt8.ofNat i) closest)

/-- The values of the option, one for each sensor. -/
def dpiValues : Config.DPI → List Int32
  | .inl dpi => [dpi]
  | .inr dpis => dpis

/-- `DPI::configure` (`DPI.cpp:75-112`). A single value is the list of it: the lists are filled up to
sensor 0, and sensor 0 is set. -/
def DPI.configure {info : Info} (config : Option Config.DPI) (c : Control info) :
    Option (Control info × Bool) :=
  match config with
  | none => some (c, true)
  | some value =>
    let dpis := dpiValues value
    if dpis.isEmpty then some (c, true)
    else
      -- the size is converted to the `uint8_t` of the parameter
      let (lists, filled) := fillDPILists c.dpiLists (UInt8.ofNat (dpis.length - 1))
      if filled then do
        let (hw, done) ← setDPIs lists.1 dpis 0 c.hardware
        return ({ hardware := hw, dpiLists := lists }, done)
      else some ({ c with dpiLists := lists }, false)

/-! ## HiresScroll, SmartShift and ThumbWheel -/

/-- The mask and the mode of an option of the group. -/
def modeBit (option : Option Bool) (bit : UInt8) : UInt8 × UInt8 :=
  match option with
  | some value => (bit, if value then bit else 0)
  | none => (0, 0)

/-- `_mask` and `_mode` after `HiresScroll::_makeConfig`. -/
def HiresScroll.maskMode (config : Option (Bool ⊕ Config.HiresScroll)) : UInt8 × UInt8 :=
  match config with
  | none => (0, 0)
  | some config =>
    let conf := Config.HiresScroll.adopt config
    let hires := modeBit conf.hires Backend.Hidpp20.HiresScroll.hiRes
    let invert := modeBit conf.invert Backend.Hidpp20.HiresScroll.inverted
    let target := modeBit conf.target Backend.Hidpp20.HiresScroll.target
    (hires.1 ||| invert.1 ||| target.1, hires.2 ||| invert.2 ||| target.2)

/-- `HiresScroll::_configure` -/
def HiresScroll.configure (config : Option (Bool ⊕ Config.HiresScroll)) (hw : Hardware) : Hardware :=
  let (mask, mode) := maskMode config
  let old := Backend.Hidpp20.HiresScroll.getMode hw
  Backend.Hidpp20.HiresScroll.setMode hw ((old &&& ~~~mask) ||| (mode &&& mask))

/-- `SmartShift::configure` -/
def SmartShift.configure (version : Backend.Hidpp20.SmartShift.Version)
    (config : Option Config.SmartShift) (hw : Hardware) : Hardware :=
  match config with
  | none => hw
  | some conf => Backend.Hidpp20.SmartShift.setStatus version hw {
      setActive := conf.on.isSome
      active := conf.on.getD false
      setAutoDisengage := conf.threshold.isSome
      autoDisengage := (conf.threshold.getD 0).toUInt8
      setTorque := conf.torque.isSome
      torque := (conf.torque.getD 0).toUInt8 }

/-- `ThumbWheel::configure` -/
def ThumbWheel.configure (config : Option Config.ThumbWheel) (hw : Hardware) : Hardware :=
  match config with
  | none => hw
  | some value =>
    Backend.Hidpp20.ThumbWheel.setStatus hw (value.divert.getD false) (value.invert.getD false)

/-! ## The device -/

def configureDPI {info : Info} (profile : Profile) (c : Control info) :
    Option (Control info × Bool) :=
  if info.sensors.isSome then DPI.configure profile.dpi c else some (c, true)

def configureHiresScroll (info : Info) (profile : Profile) (hw : Hardware) : Hardware :=
  if info.hiresScroll then HiresScroll.configure profile.hiresscroll hw else hw

def configureSmartShift (info : Info) (profile : Profile) (hw : Hardware) : Hardware :=
  match info.smartShift with
  | some version => SmartShift.configure version profile.smartshift hw
  | none => hw

def configureThumbWheel (info : Info) (profile : Profile) (hw : Hardware) : Hardware :=
  if info.thumbWheel then ThumbWheel.configure profile.thumbwheel hw else hw

/-- The features after `DPI`, when it does not throw. -/
def configureOthers (info : Info) (profile : Profile) (hw : Hardware) : Hardware :=
  configureThumbWheel info profile
    (configureSmartShift info profile (configureHiresScroll info profile hw))

/-- `Device::reset` -/
def reset (info : Info) (hw : Hardware) : Hardware := (info.reset.getD id) hw

/-- `Device::reconfigure`; `false` when it throws. -/
def reconfigure {info : Info} (profile : Profile) (c : Control info) :
    Option (Control info × Bool) := do
  let (c, done) ← configureDPI profile { c with hardware := reset info c.hardware }
  if done then return ({ c with hardware := configureOthers info profile c.hardware }, true)
  else return (c, false)

structure State (info : Info) where
  /-- `_config.profiles` -/
  profiles : SortedMap String Profile stringLess
  control : Control info

/-- The profile of a name; a name that is not in the map gets an empty one. -/
def State.profile {info : Info} (s : State info) (name : String) : Profile :=
  (s.profiles.find? name).getD {}

/-- `Device::setProfile` -/
def setProfile {info : Info} (s : State info) (name : String) : Option (State info × Bool) := do
  let profile := info.supported.setProfile (s.profile name)
  let (control, done) ← reconfigure profile s.control
  return ({ profiles := s.profiles.assign name profile, control := control }, done)

end Logid.Features
