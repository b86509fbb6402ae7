import Logid.Features.HiresScroll
import Logid.Features.RemapButton
import Logid.Features.ThumbWheel

/-!
# The methods that take a type

Rendering of the methods on the bus that set an action or a gesture by the name of its type, each with
the entry and the object that it changes: `Button::IPC::setAction` (`RemapButton.cpp:287-303`),
`setAction` of the three gestures that have an action, `GestureAction::setGesture` and the methods of
the two wheels. A call that fails leaves what it has done until then.
-/

namespace Logid.Features

open Actions (ActionObject Direction EventCodes GestureObject)

/-- How a call ends. -/
inductive CallReply where
  | ok
  | invalidArgument (what : String)
  | invalidAction (name : String)
  | invalidGesture
  deriving DecidableEq, Repr

/-- What a call leaves. -/
structure Called (E O : Type) where
  entry : E
  object : O
  reply : CallReply

/-- The call fails and changes nothing, or only makes the object again. -/
def Called.FailsCleanly {E O : Type} (r : Called E O) (entry : E) (object rebuilt : O) : Prop :=
  r.reply ≠ .ok ∧ r.entry = entry ∧ (r.object = object ∨ r.object = rebuilt)

/-! ## Actions -/

/-- `IPC::setAction` of a button up to `configure`. -/
def Button.callSetAction (codes : EventCodes) (control : ControlInfo) (type : String)
    (entry : Option Config.Action) (b : Button) : Called (Option Config.Action) Button :=
  if !control.temporaryDivertable then ⟨entry, b, .invalidArgument "Non-remappable"⟩
  else if type = "Gesture" && !control.rawXY then ⟨entry, b, .invalidArgument "No gesture support"⟩
  else
    match Actions.Action.ofName type with
    | none => ⟨entry, b.setAction codes type, .invalidAction type⟩
    | some value => ⟨value, b.setAction codes type, .ok⟩

/-- `IntervalGesture::setAction`: the entry is put back, and the action is made of it again. -/
def IntervalGesture.callSetAction (codes : EventCodes) (type : String)
    (entry : Config.IntervalGesture) (g : Actions.IntervalGesture) :
    Called Config.IntervalGesture Actions.IntervalGesture :=
  match Actions.BasicAction.ofName type with
  | none =>
    ⟨entry, { g with action := entry.action.map (.make codes) },
      .invalidArgument "Invalid action type"⟩
  | some value => ⟨{ entry with action := value }, { g with action := value.map (.make codes) }, .ok⟩

/-- `ReleaseGesture::setAction`, which does the same. -/
def ReleaseGesture.callSetAction (codes : EventCodes) (type : String)
    (entry : Config.ReleaseGesture) (g : Actions.ReleaseGesture) :
    Called Config.ReleaseGesture Actions.ReleaseGesture :=
  match Actions.BasicAction.ofName type with
  | none =>
    ⟨entry, { g with action := entry.action.map (.make codes) },
      .invalidArgument "Invalid action type"⟩
  | some value => ⟨{ entry with action := value }, { g with action := value.map (.make codes) }, .ok⟩

/-- `ThresholdGesture::setAction`, which does not. -/
def ThresholdGesture.callSetAction (codes : EventCodes) (type : String)
    (entry : Config.ThresholdGesture) (g : Actions.ThresholdGesture) :
    Called Config.ThresholdGesture Actions.ThresholdGesture :=
  match Actions.BasicAction.ofName type with
  | none => ⟨entry, { g with action := none }, .invalidAction type⟩
  | some value => ⟨{ entry with action := value }, { g with action := value.map (.make codes) }, .ok⟩

namespace ThumbWheel

/-- `IPC::_parentConfig` -/
def parentConfig (config : Option Config.ThumbWheel) : Config.ThumbWheel := config.getD {}

/-- A method that sets an action, with `_parentConfig` before it. -/
def callAction (set : Config.ThumbWheel → ThumbWheel → Config.ThumbWheel × ThumbWheel × Bool)
    (type : String) (config : Option Config.ThumbWheel) (w : ThumbWheel) :
    Called (Option Config.ThumbWheel) ThumbWheel :=
  let (conf, w, done) := set (parentConfig config) w
  ⟨some conf, w, if done then .ok else .invalidAction type⟩

/-- A method that sets a gesture, with `_parentConfig` before it. -/
def callGesture (set : Config.ThumbWheel → ThumbWheel → Config.ThumbWheel × ThumbWheel × Bool)
    (type : String) (config : Option Config.ThumbWheel) (w : ThumbWheel) :
    Called (Option Config.ThumbWheel) ThumbWheel :=
  let (conf, w, done) := set (parentConfig config) w
  ⟨some conf, w,
    if done then .ok
    else if (Actions.Gesture.ofType type).isNone then .invalidGesture
    else .invalidArgument "incompatible gesture"⟩

end ThumbWheel

inductive ActionMethod where
  | button (control : ControlInfo)
  | intervalGesture
  | releaseGesture
  | thresholdGesture
  | wheelProxy
  | wheelTap
  | wheelTouch
  deriving DecidableEq, Repr

namespace ActionMethod

/-- The configuration that the method writes. -/
abbrev Entry : ActionMethod → Type
  | button _ => Option Config.Action
  | intervalGesture => Config.IntervalGesture
  | releaseGesture => Config.ReleaseGesture
  | thresholdGesture => Config.ThresholdGesture
  | wheelProxy | wheelTap | wheelTouch => Option Config.ThumbWheel

/-- The object whose action it sets. -/
abbrev Object : ActionMethod → Type
  | button _ => Button
  | intervalGesture => Actions.IntervalGesture
  | releaseGesture => Actions.ReleaseGesture
  | thresholdGesture => Actions.ThresholdGesture
  | wheelProxy | wheelTap | wheelTouch => ThumbWheel

def call (codes : EventCodes) (type : String) :
    (m : ActionMethod) → m.Entry → m.Object → Called m.Entry m.Object
  | button control => Button.callSetAction codes control type
  | intervalGesture => IntervalGesture.callSetAction codes type
  | releaseGesture => ReleaseGesture.callSetAction codes type
  | thresholdGesture => ThresholdGesture.callSetAction codes type
  | wheelProxy => ThumbWheel.callAction (ThumbWheel.setProxy codes type) type
  | wheelTap => ThumbWheel.callAction (ThumbWheel.setTap codes type) type
  | wheelTouch => ThumbWheel.callAction (ThumbWheel.setTouch codes type) type

/-- The types that `makeAction` knows for the method. -/
def recognises (type : String) : ActionMethod → Bool
  | button _ => (Actions.Action.ofName type).isSome
  | _ => (Actions.BasicAction.ofName type).isSome

/-- The object with its action made of the entry. -/
def rebuild (codes : EventCodes) : (m : ActionMethod) → m.Entry → m.Object → m.Object
  | button _ => fun (entry : Option Config.Action) (b : Button) =>
    { b with action := entry.map (ActionObject.make codes) }
  | intervalGesture => fun (entry : Config.IntervalGesture) (g : Actions.IntervalGesture) =>
    { g with action := entry.action.map (.make codes) }
  | releaseGesture => fun (entry : Config.ReleaseGesture) (g : Actions.ReleaseGesture) =>
    { g with action := entry.action.map (.make codes) }
  | thresholdGesture => fun (entry : Config.ThresholdGesture) (g : Actions.ThresholdGesture) =>
    { g with action := entry.action.map (.make codes) }
  | wheelProxy => fun (config : Option Config.ThumbWheel) (w : ThumbWheel) =>
    { w with proxy := (ThumbWheel.parentConfig config).proxy.map (.make codes) }
  | wheelTap => fun (config : Option Config.ThumbWheel) (w : ThumbWheel) =>
    { w with tap := (ThumbWheel.parentConfig config).tap.map (.make codes) }
  | wheelTouch => fun (config : Option Config.ThumbWheel) (w : ThumbWheel) =>
    { w with touch := (ThumbWheel.parentConfig config).touch.map (.make codes) }

/-- The call fails and changes nothing, or only makes the action again of its entry. -/
def FailsCleanly (codes : EventCodes) (m : ActionMethod) (type : String) (entry : m.Entry)
    (object : m.Object) : Prop :=
  (m.call codes type entry object).FailsCleanly entry object (m.rebuild codes entry object)

/-- What the method must find to fail so for a type that is no action. -/
def KeepsOnFailure : (m : ActionMethod) → m.Entry → m.Object → Prop
  | button control => fun (entry : Option Config.Action) (b : Button) =>
    control.temporaryDivertable = false ∨ b.action = none ∨ entry = none
  | intervalGesture => fun _ _ => True
  | releaseGesture => fun _ _ => True
  | thresholdGesture => fun (entry : Config.ThresholdGesture) (g : Actions.ThresholdGesture) =>
    g.action = none ∨ entry.action = none
  | wheelProxy | wheelTap | wheelTouch => fun (config : Option Config.ThumbWheel) _ =>
    config ≠ none

end ActionMethod

/-! ## Gestures -/

/-- `GestureAction::setGesture` -/
def GestureAction.callSetGesture (codes : EventCodes) (direction type : String)
    (config : Config.GestureAction) (a : Actions.GestureAction) :
    Called Config.GestureAction Actions.GestureAction :=
  let (conf, done) := Actions.GestureAction.setGesture config direction type
  ⟨conf, (a.replaceGesture codes config direction type).1,
    if done then .ok
    else if (Direction.ofName direction).isNone then .invalidArgument "direction"
    else .invalidArgument "Invalid gesture type"⟩

/-- `setUp` and `setDown` of the hi-res wheel; `none` where a null node is used. -/
def HiresScroll.callSetGesture (codes : EventCodes) (multiplier : UInt8) (turn : Turn)
    (type : String) (config : HiresEntry) (h : HiresScroll) :
    Option (Called HiresEntry HiresScroll) :=
  (h.setGesture codes multiplier turn type config).map fun (conf, h, outcome) =>
    ⟨some (.inr conf), h,
      match outcome with
      | .done => .ok
      | .invalidGesture => .invalidGesture
      | .incompatible => .invalidArgument "incompatible gesture"⟩

def Turn.direction : Turn → Direction
  | .up => .up
  | .down => .down

def Turn.ofDirection : Direction → Option Turn
  | .up => some .up
  | .down => some .down
  | _ => none

/-- What the methods read of the device. -/
structure Wheels where
  info : ThumbwheelInfo
  multiplier : UInt8

inductive GestureMethod where
  | setGesture (direction : String)
  /-- `SetUp` and `SetDown` -/
  | setTurn (turn : Turn)
  | setLeft
  | setRight
  deriving DecidableEq, Repr

namespace GestureMethod

abbrev Entry : GestureMethod → Type
  | setGesture _ => Config.GestureAction
  | setTurn _ => HiresEntry
  | setLeft | setRight => Option Config.ThumbWheel

abbrev Object : GestureMethod → Type
  | setGesture _ => Actions.GestureAction
  | setTurn _ => HiresScroll
  | setLeft | setRight => ThumbWheel

def call (codes : EventCodes) (wheels : Wheels) (type : String) :
    (m : GestureMethod) → m.Entry → m.Object → Option (Called m.Entry m.Object)
  | setGesture direction => fun config a =>
    some (GestureAction.callSetGesture codes direction type config a)
  | setTurn turn => HiresScroll.callSetGesture codes wheels.multiplier turn type
  | setLeft => fun config w =>
    some (ThumbWheel.callGesture (ThumbWheel.setLeft codes wheels.info type) type config w)
  | setRight => fun config w =>
    some (ThumbWheel.callGesture (ThumbWheel.setRight codes wheels.info type) type config w)

/-- The direction whose gesture is set. -/
def target : GestureMethod → Option Direction
  | setGesture direction => Direction.ofName direction
  | setTurn turn => some turn.direction
  | setLeft => some .left
  | setRight => some .right

/-- The configuration of a direction. -/
def entryOf (d : Direction) : (m : GestureMethod) → m.Entry → Option Config.Gesture
  | setGesture _ => fun (config : Config.GestureAction) => Actions.GestureAction.entry config d
  | setTurn _ => fun (config : HiresEntry) =>
    (Turn.ofDirection d).bind (HiresScroll.entry (HiresScroll.parentConfig config))
  | setLeft | setRight => fun (config : Option Config.ThumbWheel) =>
    match d with
    | .left => (ThumbWheel.parentConfig config).left
    | .right => (ThumbWheel.parentConfig config).right
    | _ => none

/-- The live gesture of a direction. -/
def gestureOf (d : Direction) : (m : GestureMethod) → m.Object → Option GestureObject
  | setGesture _ => fun (a : Actions.GestureAction) => a.gestures d
  | setTurn _ => fun (h : HiresScroll) =>
    (Turn.ofDirection d).bind fun turn => (h.side turn).gesture
  | setLeft | setRight => fun (w : ThumbWheel) =>
    match d with
    | .left => w.left
    | .right => w.right
    | _ => none

/-- The gesture is one that the class makes of the entry. -/
def Rebuilt (codes : EventCodes) (wheels : Wheels) (entry : Option Config.Gesture)
    (live : Option GestureObject) : GestureMethod → Prop
  | setGesture _ => live = entry.map (.make codes)
  | setTurn _ => live = HiresScroll.makeGesture codes wheels.multiplier entry
  | setLeft | setRight =>
    -- the constructor also fixes it
    live = ThumbWheel.genGesture codes entry ∨
      live = (ThumbWheel.genGesture codes entry).map
        (ThumbWheel.fixGesture wheels.info (ThumbWheel.entry entry))

/-- The type is not known, or for a wheel names a gesture that it cannot use. -/
def rejects (codes : EventCodes) (type : String) (m : GestureMethod) : Bool :=
  match Actions.Gesture.ofType type, m with
  | none, _ => true
  | some _, setGesture _ => false
  | some g, _ => !(GestureObject.make codes g).wheelCompatibility

/-- The call fails, the configuration of every direction is as it was, the gesture of the direction is
the old one or one made of that configuration, and the other gestures are the old ones. -/
def FailsCleanly (codes : EventCodes) (wheels : Wheels) (m : GestureMethod) (type : String)
    (entry : m.Entry) (object : m.Object) : Prop :=
  ∃ r, m.call codes wheels type entry object = some r ∧ r.reply ≠ .ok ∧
    (∀ d, m.entryOf d r.entry = m.entryOf d entry) ∧
    ∀ d, m.gestureOf d r.object = m.gestureOf d object ∨
      m.target = some d ∧ m.Rebuilt codes wheels (m.entryOf d entry) (m.gestureOf d r.object)

/-- What the method must find to fail cleanly for a type that it rejects. -/
def KeepsOnFailure (codes : EventCodes) (type : String) :
    (m : GestureMethod) → m.Entry → m.Object → Prop
  | setGesture direction => fun (config : Config.GestureAction) _ =>
    ∀ d, Direction.ofName direction = some d → Actions.GestureAction.entry config d ≠ none
  | setTurn turn => fun (config : HiresEntry) (h : HiresScroll) =>
    let entry := HiresScroll.entry (HiresScroll.parentConfig config) turn
    match Actions.Gesture.ofType type with
    | none => entry ≠ none
    -- the entry is gone after an earlier such call, but the gesture has stayed
    | some g =>
      (h.side turn).node = true ∧ entry = none ∧ (h.side turn).gesture = some (.make codes g)
  | setLeft => fun (config : Option Config.ThumbWheel) (w : ThumbWheel) =>
    let entry := (ThumbWheel.parentConfig config).left
    if Actions.Gesture.ofType type = none then
      -- the gesture is reset before the type is looked at
      entry ≠ none ∧ (w.left = none ∨ ThumbWheel.genGesture codes entry = none)
    else entry = none
  | setRight => fun (config : Option Config.ThumbWheel) _ =>
    let entry := (ThumbWheel.parentConfig config).right
    if Actions.Gesture.ofType type = none then entry ≠ none else entry = none

end GestureMethod

end Logid.Features
