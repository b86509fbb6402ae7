import Logid.Config.Map
import Logid.Config.Types

/-!
# The configuration schema

Rendering of `config/schema.h`: the records of the configuration, each with the members that its
constructor hands to `group` or `signed_group`, in that order. A variant of records is an inductive
type whose codec is that of the sum of its alternatives.
-/

set_option linter.dupNamespace false

namespace Logid.Config

/-- `keys::name`, `keys::cid` and `keys::direction` -/
def keys.name : String := "name"
def keys.cid : String := "cid"
def keys.direction : String := "direction"

/-- `std::less<std::string>` -/
def stringLess : KeyLess String := KeyLess.on id

/-- `std::less<uint16_t>` -/
def uint16Less : KeyLess UInt16 := KeyLess.on UInt16.toNat

structure NoAction where
  deriving DecidableEq, Repr, Inhabited

/-- `std::variant<uint, std::string>` -/
abbrev Key := UInt32 ⊕ String

structure KeypressAction where
  keys : Option (String ⊕ UInt32 ⊕ List Key) := none
  deriving DecidableEq, Repr, Inhabited

structure ToggleSmartShift where
  deriving DecidableEq, Repr, Inhabited

structure ToggleHiresScroll where
  deriving DecidableEq, Repr, Inhabited

structure CycleDPI where
  dpis : Option (List Int32) := none
  sensor : Option Int32 := none
  deriving DecidableEq, Repr, Inhabited

structure ChangeDPI where
  inc : Option Int32 := none
  sensor : Option Int32 := none
  deriving DecidableEq, Repr, Inhabited

structure ChangeHost where
  host : Option (Int32 ⊕ String) := none
  deriving DecidableEq, Repr, Inhabited

structure ChangeProfile where
  profile : Option String := none
  deriving DecidableEq, Repr, Inhabited

inductive BasicAction where
  | none (action : NoAction)
  | keypress (action : KeypressAction)
  | toggleSmartShift (action : ToggleSmartShift)
  | toggleHiresScroll (action : ToggleHiresScroll)
  | cycleDPI (action : CycleDPI)
  | changeDPI (action : ChangeDPI)
  | changeHost (action : ChangeHost)
  | changeProfile (action : ChangeProfile)
  deriving DecidableEq, Inhabited

structure AxisGesture where
  threshold : Option Int32 := none
  axis : Option (String ⊕ UInt32) := none
  axisMultiplier : Option Rat := none
  deriving DecidableEq, Inhabited

/-- Also `FewPixelsGesture`, which derives from it and differs in its signature. -/
structure IntervalGesture where
  threshold : Option Int32 := none
  action : Option BasicAction := none
  interval : Option Int32 := none
  deriving DecidableEq, Inhabited

structure ReleaseGesture where
  threshold : Option Int32 := none
  action : Option BasicAction := none
  deriving DecidableEq, Inhabited

structure ThresholdGesture where
  threshold : Option Int32 := none
  action : Option BasicAction := none
  deriving DecidableEq, Inhabited

structure NoGesture where
  threshold : Option Int32 := none
  deriving DecidableEq, Inhabited

inductive Gesture where
  | none (gesture : NoGesture)
  | axis (gesture : AxisGesture)
  | interval (gesture : IntervalGesture)
  | fewPixels (gesture : IntervalGesture)
  | release (gesture : ReleaseGesture)
  | threshold (gesture : ThresholdGesture)
  deriving DecidableEq

/-- A variant is made with its first alternative. -/
instance : Inhabited Gesture := ⟨.none {}⟩

structure GestureAction where
  gestures : Option (SortedMap String Gesture lessCaseless) := none
  deriving DecidableEq, Inhabited

inductive Action where
  | none (action : NoAction)
  | keypress (action : KeypressAction)
  | toggleSmartShift (action : ToggleSmartShift)
  | toggleHiresScroll (action : ToggleHiresScroll)
  | cycleDPI (action : CycleDPI)
  | changeDPI (action : ChangeDPI)
  | changeHost (action : ChangeHost)
  | changeProfile (action : ChangeProfile)
  | gesture (action : GestureAction)
  deriving DecidableEq

structure Button where
  action : Option Action := none
  deriving DecidableEq, Inhabited

structure SmartShift where
  on : Option Bool := none
  threshold : Option UInt32 := none
  torque : Option UInt32 := none
  deriving DecidableEq, Repr, Inhabited

structure HiresScroll where
  hires : Option Bool := none
  invert : Option Bool := none
  target : Option Bool := none
  up : Option Gesture := none
  down : Option Gesture := none
  deriving DecidableEq, Inhabited

abbrev DPI := Int32 ⊕ List Int32

structure DpiPreset where
  value : Int32 := 0
  label : Option String := none
  deriving DecidableEq, Repr, Inhabited

structure ThumbWheel where
  divert : Option Bool := none
  invert : Option Bool := none
  left : Option Gesture := none
  right : Option Gesture := none
  proxy : Option BasicAction := none
  touch : Option BasicAction := none
  tap : Option BasicAction := none
  deriving DecidableEq, Inhabited

abbrev RemapButton := SortedMap UInt16 Button uint16Less

structure Profile where
  dpi : Option DPI := none
  dpiPresets : Option (List DpiPreset) := none
  smartshift : Option SmartShift := none
  hiresscroll : Option (Bool ⊕ HiresScroll) := none
  thumbwheel : Option ThumbWheel := none
  buttons : Option RemapButton := none
  deriving DecidableEq, Inhabited

structure Device where
  defaultProfile : String := ""
  profiles : SortedMap String Profile stringLess := .empty
  deriving DecidableEq, Inhabited

abbrev Devices := SortedMap String (Device ⊕ Profile) stringLess

structure Config where
  devices : Option Devices := none
  ignore : Option (SortedMap UInt16 Unit uint16Less) := none
  ioTimeout : Option Rat := none
  workers : Option Int32 := none
  deriving DecidableEq, Inhabited

/-! ## The groups -/

def NoAction.group : Group NoAction where
  init := {}
  sign := some ("type", "None")
  members := []

def keysIo : ConfigIo (String ⊕ UInt32 ⊕ List Key) :=
  variantIo stringIo (variantIo uintIo (listIo (variantIo uintIo stringIo)))

def KeypressAction.group : Group KeypressAction where
  init := {}
  sign := some ("type", "Keypress")
  members := [⟨"keys", optionalIo keysIo, fun t => t.keys, fun x t => { t with keys := x }⟩]

def ToggleSmartShift.group : Group ToggleSmartShift where
  init := {}
  sign := some ("type", "ToggleSmartShift")
  members := []

def ToggleHiresScroll.group : Group ToggleHiresScroll where
  init := {}
  sign := some ("type", "ToggleHiresScroll")
  members := []

def CycleDPI.group : Group CycleDPI where
  init := {}
  sign := some ("type", "CycleDPI")
  members := [
    ⟨"dpis", optionalIo (listIo intIo), fun t => t.dpis, fun x t => { t with dpis := x }⟩,
    ⟨"sensor", optionalIo intIo, fun t => t.sensor, fun x t => { t with sensor := x }⟩]

def ChangeDPI.group : Group ChangeDPI where
  init := {}
  sign := some ("type", "ChangeDPI")
  members := [
    ⟨"inc", optionalIo intIo, fun t => t.inc, fun x t => { t with inc := x }⟩,
    ⟨"sensor", optionalIo intIo, fun t => t.sensor, fun x t => { t with sensor := x }⟩]

def ChangeHost.group : Group ChangeHost where
  init := {}
  sign := some ("type", "ChangeHost")
  members := [⟨"host", optionalIo (variantIo intIo stringIo), fun t => t.host,
    fun x t => { t with host := x }⟩]

def ChangeProfile.group : Group ChangeProfile where
  init := {}
  sign := some ("type", "ChangeProfile")
  members := [⟨"profile", optionalIo stringIo, fun t => t.profile,
    fun x t => { t with profile := x }⟩]

namespace BasicAction

/-- The alternatives in the order of the variant. -/
abbrev Alternatives := NoAction ⊕ KeypressAction ⊕ ToggleSmartShift ⊕ ToggleHiresScroll ⊕
  CycleDPI ⊕ ChangeDPI ⊕ ChangeHost ⊕ ChangeProfile

def toAlternatives : BasicAction → Alternatives
  | .none a => .inl a
  | .keypress a => .inr (.inl a)
  | .toggleSmartShift a => .inr (.inr (.inl a))
  | .toggleHiresScroll a => .inr (.inr (.inr (.inl a)))
  | .cycleDPI a => .inr (.inr (.inr (.inr (.inl a))))
  | .changeDPI a => .inr (.inr (.inr (.inr (.inr (.inl a)))))
  | .changeHost a => .inr (.inr (.inr (.inr (.inr (.inr (.inl a))))))
  | .changeProfile a => .inr (.inr (.inr (.inr (.inr (.inr (.inr a))))))

def ofAlternatives : Alternatives → BasicAction
  | .inl a => .none a
  | .inr (.inl a) => .keypress a
  | .inr (.inr (.inl a)) => .toggleSmartShift a
  | .inr (.inr (.inr (.inl a))) => .toggleHiresScroll a
  | .inr (.inr (.inr (.inr (.inl a)))) => .cycleDPI a
  | .inr (.inr (.inr (.inr (.inr (.inl a))))) => .changeDPI a
  | .inr (.inr (.inr (.inr (.inr (.inr (.inl a)))))) => .changeHost a
  | .inr (.inr (.inr (.inr (.inr (.inr (.inr a)))))) => .changeProfile a

theorem ofAlternatives_toAlternatives (a : BasicAction) : ofAlternatives (toAlternatives a) = a := by
  cases a <;> rfl

def io : ConfigIo BasicAction :=
  reinterpretIo
    (variantIo NoAction.group.io
      (variantIo KeypressAction.group.io
        (variantIo ToggleSmartShift.group.io
          (variantIo ToggleHiresScroll.group.io
            (variantIo CycleDPI.group.io
              (variantIo ChangeDPI.group.io
                (variantIo ChangeHost.group.io ChangeProfile.group.io)))))))
    toAlternatives ofAlternatives

end BasicAction

def AxisGesture.group : Group AxisGesture where
  init := {}
  sign := some ("mode", "Axis")
  members := [
    ⟨"threshold", optionalIo intIo, fun t => t.threshold, fun x t => { t with threshold := x }⟩,
    ⟨"axis", optionalIo (variantIo stringIo uintIo), fun t => t.axis,
      fun x t => { t with axis := x }⟩,
    ⟨"axis_multiplier", optionalIo doubleIo, fun t => t.axisMultiplier,
      fun x t => { t with axisMultiplier := x }⟩]

/-- The constructor with a name that `FewPixelsGesture` uses too. -/
def IntervalGesture.groupNamed (name : String) : Group IntervalGesture where
  init := {}
  sign := some ("mode", name)
  members := [
    ⟨"threshold", optionalIo intIo, fun t => t.threshold, fun x t => { t with threshold := x }⟩,
    ⟨"action", optionalIo BasicAction.io, fun t => t.action, fun x t => { t with action := x }⟩,
    ⟨"interval", optionalIo intIo, fun t => t.interval, fun x t => { t with interval := x }⟩]

def IntervalGesture.group : Group IntervalGesture := IntervalGesture.groupNamed "OnInterval"

def FewPixelsGesture.group : Group IntervalGesture := IntervalGesture.groupNamed "OnFewPixels"

def ReleaseGesture.group : Group ReleaseGesture where
  init := {}
  sign := some ("mode", "OnRelease")
  members := [
    ⟨"threshold", optionalIo intIo, fun t => t.threshold, fun x t => { t with threshold := x }⟩,
    ⟨"action", optionalIo BasicAction.io, fun t => t.action, fun x t => { t with action := x }⟩]

def ThresholdGesture.group : Group ThresholdGesture where
  init := {}
  sign := some ("mode", "OnThreshold")
  members := [
    ⟨"threshold", optionalIo intIo, fun t => t.threshold, fun x t => { t with threshold := x }⟩,
    ⟨"action", optionalIo BasicAction.io, fun t => t.action, fun x t => { t with action := x }⟩]

def NoGesture.group : Group NoGesture where
  init := {}
  sign := some ("mode", "NoPress")
  members := [
    ⟨"threshold", optionalIo intIo, fun t => t.threshold, fun x t => { t with threshold := x }⟩]

namespace Gesture

abbrev Alternatives := NoGesture ⊕ AxisGesture ⊕ IntervalGesture ⊕ IntervalGesture ⊕
  ReleaseGesture ⊕ ThresholdGesture

def toAlternatives : Gesture → Alternatives
  | .none g => .inl g
  | .axis g => .inr (.inl g)
  | .interval g => .inr (.inr (.inl g))
  | .fewPixels g => .inr (.inr (.inr (.inl g)))
  | .release g => .inr (.inr (.inr (.inr (.inl g))))
  | .threshold g => .inr (.inr (.inr (.inr (.inr g))))

def ofAlternatives : Alternatives → Gesture
  | .inl g => .none g
  | .inr (.inl g) => .axis g
  | .inr (.inr (.inl g)) => .interval g
  | .inr (.inr (.inr (.inl g))) => .fewPixels g
  | .inr (.inr (.inr (.inr (.inl g)))) => .release g
  | .inr (.inr (.inr (.inr (.inr g)))) => .threshold g

theorem ofAlternatives_toAlternatives (g : Gesture) : ofAlternatives (toAlternatives g) = g := by
  cases g <;> rfl

def io : ConfigIo Gesture :=
  reinterpretIo
    (variantIo NoGesture.group.io
      (variantIo AxisGesture.group.io
        (variantIo IntervalGesture.group.io
          (variantIo FewPixelsGesture.group.io
            (variantIo ReleaseGesture.group.io ThresholdGesture.group.io)))))
    toAlternatives ofAlternatives

end Gesture

def GestureAction.group : Group GestureAction where
  init := {}
  sign := some ("type", "Gestures")
  members := [⟨"gestures", optionalIo (mapIo keys.direction stringIo Gesture.io),
    fun t => t.gestures, fun x t => { t with gestures := x }⟩]

namespace Action

abbrev Alternatives := NoAction ⊕ KeypressAction ⊕ ToggleSmartShift ⊕ ToggleHiresScroll ⊕
  CycleDPI ⊕ ChangeDPI ⊕ ChangeHost ⊕ ChangeProfile ⊕ GestureAction

def toAlternatives : Action → Alternatives
  | .none a => .inl a
  | .keypress a => .inr (.inl a)
  | .toggleSmartShift a => .inr (.inr (.inl a))
  | .toggleHiresScroll a => .inr (.inr (.inr (.inl a)))
  | .cycleDPI a => .inr (.inr (.inr (.inr (.inl a))))
  | .changeDPI a => .inr (.inr (.inr (.inr (.inr (.inl a)))))
  | .changeHost a => .inr (.inr (.inr (.inr (.inr (.inr (.inl a))))))
  | .changeProfile a => .inr (.inr (.inr (.inr (.inr (.inr (.inr (.inl a)))))))
  | .gesture a => .inr (.inr (.inr (.inr (.inr (.inr (.inr (.inr a)))))))

def ofAlternatives : Alternatives → Action
  | .inl a => .none a
  | .inr (.inl a) => .keypress a
  | .inr (.inr (.inl a)) => .toggleSmartShift a
  | .inr (.inr (.inr (.inl a))) => .toggleHiresScroll a
  | .inr (.inr (.inr (.inr (.inl a)))) => .cycleDPI a
  | .inr (.inr (.inr (.inr (.inr (.inl a))))) => .changeDPI a
  | .inr (.inr (.inr (.inr (.inr (.inr (.inl a)))))) => .changeHost a
  | .inr (.inr (.inr (.inr (.inr (.inr (.inr (.inl a))))))) => .changeProfile a
  | .inr (.inr (.inr (.inr (.inr (.inr (.inr (.inr a))))))) => .gesture a

theorem ofAlternatives_toAlternatives (a : Action) : ofAlternatives (toAlternatives a) = a := by
  cases a <;> rfl

def io : ConfigIo Action :=
  reinterpretIo
    (variantIo NoAction.group.io
      (variantIo KeypressAction.group.io
        (variantIo ToggleSmartShift.group.io
          (variantIo ToggleHiresScroll.group.io
            (variantIo CycleDPI.group.io
              (variantIo ChangeDPI.group.io
                (variantIo ChangeHost.group.io
                  (variantIo ChangeProfile.group.io GestureAction.group.io))))))))
    toAlternatives ofAlternatives

end Action

def Button.group : Group Button where
  init := {}
  members := [⟨"action", optionalIo Action.io, fun t => t.action,
    fun x t => { t with action := x }⟩]

def SmartShift.group : Group SmartShift where
  init := {}
  members := [
    ⟨"on", optionalIo boolIo, fun t => t.on, fun x t => { t with on := x }⟩,
    ⟨"threshold", optionalIo uintIo, fun t => t.threshold, fun x t => { t with threshold := x }⟩,
    ⟨"torque", optionalIo uintIo, fun t => t.torque, fun x t => { t with torque := x }⟩]

def HiresScroll.group : Group HiresScroll where
  init := {}
  members := [
    ⟨"hires", optionalIo boolIo, fun t => t.hires, fun x t => { t with hires := x }⟩,
    ⟨"invert", optionalIo boolIo, fun t => t.invert, fun x t => { t with invert := x }⟩,
    ⟨"target", optionalIo boolIo, fun t => t.target, fun x t => { t with target := x }⟩,
    ⟨"up", optionalIo Gesture.io, fun t => t.up, fun x t => { t with up := x }⟩,
    ⟨"down", optionalIo Gesture.io, fun t => t.down, fun x t => { t with down := x }⟩]

def dpiIo : ConfigIo DPI := variantIo intIo (listIo intIo)

def DpiPreset.group : Group DpiPreset where
  init := {}
  members := [
    ⟨"value", intIo.member, fun t => t.value, fun x t => { t with value := x }⟩,
    ⟨"label", optionalIo stringIo, fun t => t.label, fun x t => { t with label := x }⟩]

def ThumbWheel.group : Group ThumbWheel where
  init := {}
  members := [
    ⟨"divert", optionalIo boolIo, fun t => t.divert, fun x t => { t with divert := x }⟩,
    ⟨"invert", optionalIo boolIo, fun t => t.invert, fun x t => { t with invert := x }⟩,
    ⟨"left", optionalIo Gesture.io, fun t => t.left, fun x t => { t with left := x }⟩,
    ⟨"right", optionalIo Gesture.io, fun t => t.right, fun x t => { t with right := x }⟩,
    ⟨"proxy", optionalIo BasicAction.io, fun t => t.proxy, fun x t => { t with proxy := x }⟩,
    ⟨"touch", optionalIo BasicAction.io, fun t => t.touch, fun x t => { t with touch := x }⟩,
    ⟨"tap", optionalIo BasicAction.io, fun t => t.tap, fun x t => { t with tap := x }⟩]

def remapButtonIo : ConfigIo RemapButton := mapIo keys.cid uint16Io Button.group.io

def hiresscrollIo : ConfigIo (Bool ⊕ HiresScroll) := variantIo boolIo HiresScroll.group.io

def Profile.group : Group Profile where
  init := {}
  members := [
    ⟨"dpi", optionalIo dpiIo, fun t => t.dpi, fun x t => { t with dpi := x }⟩,
    ⟨"dpi_presets", optionalIo (listIo DpiPreset.group.io), fun t => t.dpiPresets,
      fun x t => { t with dpiPresets := x }⟩,
    ⟨"smartshift", optionalIo SmartShift.group.io, fun t => t.smartshift,
      fun x t => { t with smartshift := x }⟩,
    ⟨"hiresscroll", optionalIo hiresscrollIo, fun t => t.hiresscroll,
      fun x t => { t with hiresscroll := x }⟩,
    ⟨"buttons", optionalIo remapButtonIo, fun t => t.buttons, fun x t => { t with buttons := x }⟩,
    ⟨"thumbwheel", optionalIo ThumbWheel.group.io, fun t => t.thumbwheel,
      fun x t => { t with thumbwheel := x }⟩]

def profilesIo : ConfigIo (SortedMap String Profile stringLess) :=
  mapIo keys.name stringIo Profile.group.io

/-- A property is read and written as its value. -/
def Device.group : Group Device where
  init := {}
  members := [
    ⟨"default_profile", stringIo.member, fun t => t.defaultProfile,
      fun x t => { t with defaultProfile := x }⟩,
    ⟨"profiles", profilesIo.member, fun t => t.profiles, fun x t => { t with profiles := x }⟩]

def devicesIo : ConfigIo Devices :=
  mapIo keys.name stringIo (variantIo Device.group.io Profile.group.io)

def ignoreIo : ConfigIo (SortedMap UInt16 Unit uint16Less) := setIo uint16Io

def Config.group : Group Config where
  init := {}
  members := [
    ⟨"devices", optionalIo devicesIo, fun t => t.devices, fun x t => { t with devices := x }⟩,
    ⟨"ignore", optionalIo ignoreIo, fun t => t.ignore, fun x t => { t with ignore := x }⟩,
    ⟨"io_timeout", optionalIo doubleIo, fun t => t.ioTimeout,
      fun x t => { t with ioTimeout := x }⟩,
    ⟨"workers", optionalIo intIo, fun t => t.workers, fun x t => { t with workers := x }⟩]

end Logid.Config
