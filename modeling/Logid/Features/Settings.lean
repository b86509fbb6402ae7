import Logid.Features.Configure
import Logid.Misc.Override

/-!
# What a profile programs

The settings of the hardware as a function of their names, and for each profile the partial
assignment that switching to it makes. It is read off the options of the profile: an option that is
absent programs nothing.
-/

namespace Logid.Features

open Backend.Hidpp20 (Hardware SensorDPIList)
open Config (Profile)

/-- The settings the daemon controls; the mode of `HiresScroll` is a setting a bit. -/
inductive Setting where
  | dpi (sensor : UInt8)
  | wheelMode
  | autoDisengage
  | torque
  | scrollMode (bit : Fin 8)
  | thumbDiverted
  | thumbInverted
  deriving DecidableEq

/-- The bit of a byte as a number. -/
def bitOf (byte : UInt8) (bit : Fin 8) : Nat := (byte.toBitVec.getLsbD bit).toNat

def settings (hw : Hardware) : Setting → Nat
  | .dpi sensor => (hw.dpi sensor).toNat
  | .wheelMode => hw.wheelMode.toNat
  | .autoDisengage => hw.autoDisengage.toNat
  | .torque => hw.torque.toNat
  | .scrollMode bit => bitOf hw.scrollMode bit
  | .thumbDiverted => hw.thumbDiverted.toNat
  | .thumbInverted => hw.thumbInverted.toNat

/-! ## The DPI of the sensors -/

/-- The values of the `dpi` option on a device with `AdjustableDPI`. -/
def dpiOption (info : Info) (profile : Profile) : List Int32 :=
  match info.sensors, profile.dpi with
  | some _, some value => dpiValues value
  | _, _ => []

/-- How many lists are filled for the values: their number is cut to a byte on the way. -/
def needed (dpis : List Int32) : Nat := (dpis.length - 1) % 256 + 1

/-- The lists can be filled: no sensor is asked for that the device does not have. -/
def CanFill (info : Info) (dpis : List Int32) : Prop :=
  dpis = [] ∨ needed dpis ≤ info.sensorLists.length

instance (info : Info) (dpis : List Int32) : Decidable (CanFill info dpis) :=
  inferInstanceAs (Decidable (_ ∨ _))

/-- The lists that are there when the values are set, where `known` were there before. -/
def listsFor (info : Info) (known : Nat) (dpis : List Int32) : List SensorDPIList :=
  info.sensorLists.take (max known (needed dpis))

/-- `DPI::configure` returns: the lists can be filled, and every value but zero has one. -/
def Completes (info : Info) (known : Nat) (dpis : List Int32) : Prop :=
  CanFill info dpis ∧
    ∀ e ∈ dpis.zipIdx, e.1 ≠ 0 → e.2 < (listsFor info known dpis).length

instance (info : Info) (known : Nat) (dpis : List Int32) : Decidable (Completes info known dpis) :=
  inferInstanceAs (Decidable (_ ∧ _))

/-- How many lists are there afterwards. -/
def knownAfter (info : Info) (known : Nat) (profile : Profile) : Nat :=
  let dpis := dpiOption info profile
  if dpis.isEmpty then known else min info.sensorLists.length (max known (needed dpis))

/-- The DPI that the values, of which the first is for sensor `start`, give a sensor. -/
def dpiProgram (lists : List SensorDPIList) (dpis : List Int32) (start sensor : Nat) :
    Option UInt16 :=
  if sensor < start then none
  else do
    let dpi ← dpis[sensor - start]?
    let list ← lists[sensor]?
    if dpi = 0 then none else getClosestDPI list (toUInt16 dpi)

/-! ## The other settings -/

/-- A value for a parameter in which zero means no change. -/
def nonzero (value : UInt32) : Option Nat :=
  if value.toUInt8 = 0 then none else some value.toUInt8.toNat

def otherProgram (info : Info) (profile : Profile) : Override Setting Nat
  | .dpi _ => none
  | .wheelMode =>
    if info.smartShift.isSome then
      (profile.smartshift.bind (·.on)).map fun on => if on then 2 else 1
    else none
  | .autoDisengage =>
    if info.smartShift.isSome then (profile.smartshift.bind (·.threshold)).bind nonzero else none
  | .torque =>
    if info.smartShift = some .v2 then (profile.smartshift.bind (·.torque)).bind nonzero else none
  | .scrollMode bit =>
    let (mask, mode) := HiresScroll.maskMode profile.hiresscroll
    if info.hiresScroll ∧ bitOf mask bit = 1 then some (bitOf mode bit) else none
  | .thumbDiverted =>
    if info.thumbWheel then profile.thumbwheel.map fun value => (value.divert.getD false).toNat
    else none
  | .thumbInverted =>
    if info.thumbWheel then profile.thumbwheel.map fun value => (value.invert.getD false).toNat
    else none

/-- What switching to the profile writes, where `known` DPI lists were read before. When
`DPI::configure` throws, the features after it are not configured. -/
def program (info : Info) (known : Nat) (profile : Profile) : Override Setting Nat
  | .dpi sensor =>
    let dpis := dpiOption info profile
    if CanFill info dpis then
      (dpiProgram (listsFor info known dpis) dpis 0 sensor.toNat).map UInt16.toNat
    else none
  | setting =>
    if Completes info known (dpiOption info profile) then otherProgram info profile setting else none

/-- Switching to `b` covers what switching to `a` did: each setting that `b` alone does not program
has from the start the value that `a`, or `b` with the DPI lists that `a` read, programs. -/
def Covers {info : Info} (s : State info) (a b : String) : Prop :=
  let known := s.control.dpiLists.1.length
  let first := program info known (s.profile a)
  let second := program info (knownAfter info known (s.profile a)) (s.profile b)
  ∀ setting, program info known (s.profile b) setting = none →
    ∀ value, (first.andThen second) setting = some value →
      settings s.control.hardware setting = value

end Logid.Features
