import Logid.Features.ClosestDPI
import Logid.Features.Settings

/-!
# The configured DPI of the sensors

Rendering of `DPI::setDPI` (`features/DPI.cpp:120-127`) and of the bus methods `GetDPI` and `SetDPI`
(165-223), which read and edit the configuration that `DPI::configure` programs.
-/

namespace Logid.Features

open Backend.Hidpp20 (Hardware SensorDPIList)

namespace DPI

/-- `DPI::setDPI`; `false` when it throws, `none` where `getClosestDPI` is undefined. -/
def setDPI {info : Info} (c : Control info) (dpi : UInt16) (sensor : UInt8) :
    Option (Control info × Bool) :=
  if dpi = 0 then some (c, true)
  else
    let (lists, filled) := fillDPILists c.dpiLists sensor
    if filled then
      match lists.1[sensor.toNat]? with
      | none => some ({ c with dpiLists := lists }, false)
      | some list => do
        let closest ← getClosestDPI list dpi
        return ({
          hardware := Backend.Hidpp20.AdjustableDPI.setSensorDPI c.hardware sensor closest
          dpiLists := lists }, true)
    else some ({ c with dpiLists := lists }, false)

/-! ## The bus methods -/

/-- `IPC::getDPI` -/
def getDPI (config : Option Config.DPI) (hw : Hardware) (sensor : UInt8) : UInt16 :=
  match config with
  | none => Backend.Hidpp20.AdjustableDPI.getSensorDPI hw sensor
  | some (.inl dpi) =>
    if sensor = 0 then toUInt16 dpi else Backend.Hidpp20.AdjustableDPI.getSensorDPI hw sensor
  | some (.inr list) =>
    match list[sensor.toNat]? with
    | some dpi => toUInt16 dpi
    | none => Backend.Hidpp20.AdjustableDPI.getSensorDPI hw sensor

/-- The conversion of a `uint16_t` to `int`. -/
def toInt32 (dpi : UInt16) : Int32 := dpi.toUInt32.toInt32

/-- Zeros up to the place of the sensor, and the value there. -/
def setPadded (list : List Int32) (dpi : Int32) (sensor : Nat) : List Int32 :=
  (list ++ List.replicate (sensor + 1 - list.length) 0).set sensor dpi

/-- What `IPC::setDPI` makes of the configuration. -/
def editConfig (config : Option Config.DPI) (dpi : UInt16) (sensor : UInt8) : Config.DPI :=
  match config.getD (.inr []) with
  | .inl _ =>
    if sensor = 0 then .inl (toInt32 dpi)
    else
      let list := List.replicate (sensor.toNat + 1) (0 : Int32)
      let list := list.set sensor.toNat (toInt32 dpi)
      .inr (list.set 0 (toInt32 dpi))
  | .inr list => .inr (setPadded list (toInt32 dpi) sensor.toNat)

/-- `IPC::setDPI` -/
def editDPI {info : Info} (config : Option Config.DPI) (c : Control info) (dpi : UInt16)
    (sensor : UInt8) : Option (Config.DPI × Control info × Bool) := do
  let (c, done) ← setDPI c dpi sensor
  return (editConfig config dpi sensor, c, done)

end DPI

/-! ## What `configure` programs -/

/-- The value for a sensor, if `configure` programs it. -/
def DPI.programmed {info : Info} (config : Option Config.DPI) (c : Control info) (sensor : UInt8) :
    Option UInt16 :=
  let dpis := config.elim [] dpiValues
  if CanFill info dpis then
    dpiProgram (listsFor info c.dpiLists.1.length dpis) dpis 0 sensor.toNat
  else none

/-- `SetDPI` returns, `GetDPI` of the sensor gives the new value, and for any other sensor `GetDPI` and
what `configure` programs are what they were. -/
def TouchesOne {info : Info} (config : Option Config.DPI) (c : Control info) (dpi : UInt16)
    (sensor : UInt8) : Prop :=
  ∃ config' c', DPI.editDPI config c dpi sensor = some (config', c', true) ∧
    DPI.getDPI (some config') c'.hardware sensor = dpi ∧
    ∀ other : UInt8, other.toNat < info.sensorLists.length → other ≠ sensor →
      DPI.getDPI (some config') c'.hardware other = DPI.getDPI config c.hardware other ∧
      DPI.programmed (some config') c' other = DPI.programmed config c other

/-- What `SetDPI` writes for the sensors below is what they have. -/
structure KeepsOthers {info : Info} (config : Option Config.DPI) (c : Control info) (dpi : UInt16)
    (sensor : UInt8) : Prop where
  chooses : ∀ list, info.sensorLists[sensor.toNat]? = some list → ChoosesValue list
  /-- The single value becomes the new one. -/
  single : ∀ old, config = some (.inl old) → sensor ≠ 0 → toUInt16 old = dpi
  /-- The sensors without a value get zeros. -/
  padding : ∀ other : UInt8, (config.elim [] dpiValues).length ≤ other.toNat → other < sensor →
    c.hardware.dpi other = 0
  /-- The values that had no list, more than 256, get one. -/
  unlisted : ∀ (other : UInt8) value list, other < sensor →
    max c.dpiLists.1.length (needed (config.elim [] dpiValues)) ≤ other.toNat →
    (config.elim [] dpiValues)[other.toNat]? = some value → value ≠ 0 →
    info.sensorLists[other.toNat]? = some list → ¬ChoosesValue list

/-- The list answers the request neither below the value nor above it. -/
def AnswersAt (list : SensorDPIList) (value dpi : UInt16) : Prop :=
  ChoosesValue list ∧ ∀ side, AnswersOnSide list side value dpi

/-- A request between 0 and 65535 is near the grid. Any other is cut to one that is answered at the end
of the list on its side. -/
def RequestNear (list : SensorDPIList) (dpi : Int32) : Prop :=
  if dpi.toInt < 0 then
    ∃ lo ∈ list.dpis, (∀ value ∈ list.dpis, lo ≤ value) ∧ AnswersAt list lo (toUInt16 dpi)
  else if 65535 < dpi.toInt then
    ∃ hi ∈ list.dpis, (∀ value ∈ list.dpis, value ≤ hi) ∧ AnswersAt list hi (toUInt16 dpi)
  else GridNear list (toUInt16 dpi)

/-- `configure` returns, each sensor with a value that is not zero gets a supported value nearest to
it, and those with a zero keep theirs. -/
def ConfiguresNearest {info : Info} (value : Config.DPI) (c : Control info) : Prop :=
  ∃ c', DPI.configure (some value) c = some (c', true) ∧
    ∀ (i : Nat) (dpi : Int32), (dpiValues value)[i]? = some dpi →
      (dpi ≠ 0 → ∃ list, info.sensorLists[i]? = some list ∧
        IsNearest (supported list) dpi.toInt (c'.hardware.dpi (UInt8.ofNat i)).toNat) ∧
      (dpi = 0 → i < 256 →
        c'.hardware.dpi (UInt8.ofNat i) = c.hardware.dpi (UInt8.ofNat i))

/-- `configure` has a list for each value that is not zero, and the value is near its grid. -/
def RequestsNear (info : Info) (known : Nat) (dpis : List Int32) : Prop :=
  Completes info known dpis ∧
    ∀ (i : Nat) (dpi : Int32) list, dpis[i]? = some dpi → dpi ≠ 0 →
      info.sensorLists[i]? = some list → RequestNear list dpi

end Logid.Features
