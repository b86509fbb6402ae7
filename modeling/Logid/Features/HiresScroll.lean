import Logid.Actions.Objects

/-!
# The gestures of the hi-res wheel

Rendering of the parts of `features/HiresScroll.cpp` that make the two gestures of the wheel: the end
of `_makeConfig`, `_makeGesture`, `_fixGesture`, `_parentConfig`, `SetUp` and `SetDown`
(88-91, 139-161, 236-247 and 281-319).
-/

namespace Logid.Features

open Actions (EventCodes GestureObject)

/-- The two ways to turn the wheel. -/
inductive Turn where
  | up
  | down
  deriving DecidableEq, Repr

/-- `config::Profile::hiresscroll` -/
abbrev HiresEntry := Option (Bool ⊕ Config.HiresScroll)

/-- A gesture with its node, `_up_node` or `_down_node`, which may be reset. -/
structure WheelSide where
  gesture : Option GestureObject := none
  node : Bool := true

structure HiresScroll where
  up : WheelSide := {}
  down : WheelSide := {}

namespace HiresScroll

def side (h : HiresScroll) : Turn → WheelSide
  | .up => h.up
  | .down => h.down

def setSide (h : HiresScroll) (value : WheelSide) : Turn → HiresScroll
  | .up => { h with up := value }
  | .down => { h with down := value }

/-- `config.up` and `config.down` -/
def entry (conf : Config.HiresScroll) : Turn → Option Config.Gesture
  | .up => conf.up
  | .down => conf.down

def setEntry (conf : Config.HiresScroll) (value : Option Config.Gesture) : Turn → Config.HiresScroll
  | .up => { conf with up := value }
  | .down => { conf with down := value }

/-- `_fixGesture`, with the entry of the gesture. -/
def fixGesture (multiplier : UInt8) (config : Config.Gesture) (g : GestureObject) : GestureObject :=
  let g := match g with
    | .axis axis => GestureObject.axis (axis.setHiresMultiplier config multiplier.toNat)
    | g => g
  g.press config true

/-- `_makeGesture` -/
def makeGesture (codes : EventCodes) (multiplier : UInt8) (config : Option Config.Gesture) :
    Option GestureObject :=
  config.map fun g => fixGesture multiplier g (.make codes g)

/-- `IPC::_parentConfig` -/
def parentConfig : HiresEntry → Config.HiresScroll
  | none => {}
  | some (.inl hires) => { hires := some hires }
  | some (.inr conf) => conf

/-- How a call of `SetUp` or `SetDown` ends. -/
inductive Outcome where
  | done
  | invalidGesture
  /-- `std::invalid_argument("incompatible gesture")` -/
  | incompatible
  deriving DecidableEq, Repr

/-- `IPC::setUp` and `IPC::setDown`; `none` where the node is null and used. -/
def setGesture (codes : EventCodes) (multiplier : UInt8) (turn : Turn) (type : String)
    (config : HiresEntry) (h : HiresScroll) : Option (Config.HiresScroll × HiresScroll × Outcome) :=
  let conf := parentConfig config
  match Actions.Gesture.ofType type with
  | none => some (setEntry conf (some ((entry conf turn).getD (.none {}))) turn, h, .invalidGesture)
  | some g =>
    if (h.side turn).node then
      let object := GestureObject.make codes g
      if object.wheelCompatibility then
        some (setEntry conf (some g) turn,
          h.setSide { gesture := some (fixGesture multiplier g object) } turn, .done)
      -- the node is reset, not the gesture
      else some (setEntry conf none turn, h.setSide ⟨some object, false⟩ turn, .incompatible)
    else none

end HiresScroll

end Logid.Features
