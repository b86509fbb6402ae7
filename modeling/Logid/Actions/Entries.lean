import Logid.Actions.Direction
import Logid.Config.Schema

/-!
# Configuration entries of actions and gestures

Rendering of what the D-Bus methods of actions and gestures do to the configuration entries that the
objects refer to: `_makeAction` with a name (`Action.cpp:57-115`), `Gesture::makeGesture` with a type
(`Gesture.cpp:70-89`), the setters of the gestures, `KeypressAction::setKeys` and
`GestureAction::setGesture` (`GestureAction.cpp:226-278`).
-/

namespace Logid.Actions

open Config (lessCaseless)

/-! ## Actions -/

/-- `interface_name` of the class that the alternative names. -/
def BasicAction.interfaceName : Config.BasicAction → String
  | .none _ => "None"
  | .keypress _ => "Keypress"
  | .toggleSmartShift _ => "ToggleSmartShift"
  | .toggleHiresScroll _ => "ToggleHiresScroll"
  | .cycleDPI _ => "CycleDPI"
  | .changeDPI _ => "ChangeDPI"
  | .changeHost _ => "ChangeHost"
  | .changeProfile _ => "ChangeProfile"

/-- `_makeAction` with a name: the entry it assigns, which is reset for "Default", and `none` for
`InvalidAction`. -/
def BasicAction.ofName : String → Option (Option Config.BasicAction)
  | "ChangeDPI" => some (some (.changeDPI {}))
  | "CycleDPI" => some (some (.cycleDPI {}))
  | "Keypress" => some (some (.keypress {}))
  | "None" => some (some (.none {}))
  | "ChangeHost" => some (some (.changeHost {}))
  | "ToggleHiresScroll" => some (some (.toggleHiresScroll {}))
  | "ToggleSmartShift" => some (some (.toggleSmartShift {}))
  | "ChangeProfile" => some (some (.changeProfile {}))
  | "Default" => some none
  | _ => none

/-- An alternative of `BasicAction` as one of `Action`. -/
def Action.ofBasic : Config.BasicAction → Config.Action
  | .none a => .none a
  | .keypress a => .keypress a
  | .toggleSmartShift a => .toggleSmartShift a
  | .toggleHiresScroll a => .toggleHiresScroll a
  | .cycleDPI a => .cycleDPI a
  | .changeDPI a => .changeDPI a
  | .changeHost a => .changeHost a
  | .changeProfile a => .changeProfile a

/-- `makeAction` with a name for `config::Action`, which has the gestures too. -/
def Action.ofName (name : String) : Option (Option Config.Action) :=
  match BasicAction.ofName name with
  | some config => some (config.map Action.ofBasic)
  | none => if name = "Gesture" then some (some (.gesture {})) else none

/-- `interface_name` of the class that the alternative names. -/
def Action.interfaceName : Config.Action → String
  | .none _ => "None"
  | .keypress _ => "Keypress"
  | .toggleSmartShift _ => "ToggleSmartShift"
  | .toggleHiresScroll _ => "ToggleHiresScroll"
  | .cycleDPI _ => "CycleDPI"
  | .changeDPI _ => "ChangeDPI"
  | .changeHost _ => "ChangeHost"
  | .changeProfile _ => "ChangeProfile"
  | .gesture _ => "Gesture"

/-- `KeypressAction::setKeys`, what it does to the entry. -/
def KeypressAction.entryOfKeys (keys : List String) : Config.KeypressAction :=
  { keys := some (.inr (.inr (keys.map .inr))) }

theorem BasicAction.interfaceName_ofName {name : String} {config : Config.BasicAction}
    (h : BasicAction.ofName name = some (some config)) : interfaceName config = name := by
  unfold BasicAction.ofName at h
  split at h <;> cases h <;> rfl

/-- Only "Default" resets an entry. -/
theorem BasicAction.ofName_eq_some_none {name : String} :
    BasicAction.ofName name = some none ↔ name = "Default" := by
  constructor
  · intro h
    unfold BasicAction.ofName at h
    split at h <;> first | rfl | cases h
  · intro h
    subst h
    decide

/-! ## Gestures -/

namespace Gesture

/-- `interface_name` of the class that the alternative names. -/
def interfaceName : Config.Gesture → String
  | .none _ => "None"
  | .axis _ => "Axis"
  | .interval _ | .fewPixels _ => "OnInterval"
  | .release _ | .threshold _ => "OnRelease"

/-- `makeGesture` with a type: the entry it assigns, `none` for `InvalidGesture`. The name of
`ThresholdGesture` is that of `ReleaseGesture`, which is compared first. -/
def ofType : String → Option Config.Gesture
  | "Axis" => some (.axis {})
  | "OnInterval" => some (.interval {})
  | "OnRelease" => some (.release {})
  | "None" => some (.none {})
  | _ => none

/-- The member `threshold`, which every alternative has. -/
def threshold : Config.Gesture → Option Int32
  | .none g => g.threshold
  | .axis g => g.threshold
  | .interval g | .fewPixels g => g.threshold
  | .release g => g.threshold
  | .threshold g => g.threshold

def withThreshold (value : Option Int32) : Config.Gesture → Config.Gesture
  | .none g => .none { g with threshold := value }
  | .axis g => .axis { g with threshold := value }
  | .interval g => .interval { g with threshold := value }
  | .fewPixels g => .fewPixels { g with threshold := value }
  | .release g => .release { g with threshold := value }
  | .threshold g => .threshold { g with threshold := value }

/-- The member `interval` of the alternatives that have it. -/
def interval : Config.Gesture → Option Int32
  | .interval g | .fewPixels g => g.interval
  | _ => none

/-- The member `axis_multiplier` of the alternative that has it. -/
def axisMultiplier : Config.Gesture → Option Rat
  | .axis g => g.axisMultiplier
  | _ => none

/-- The member `action` of the alternatives that have it. -/
def action : Config.Gesture → Option Config.BasicAction
  | .interval g | .fewPixels g => g.action
  | .release g => g.action
  | .threshold g => g.action
  | _ => none

/-- The argument 0 resets a member. -/
def resetZero (value : Int32) : Option Int32 := if value = 0 then none else some value

/-- The methods on the interface of a gesture; `none` where it has no such method. -/
def setInterval (value : Int32) : Config.Gesture → Option Config.Gesture
  | .interval g => some (.interval { g with interval := resetZero value })
  | .fewPixels g => some (.fewPixels { g with interval := resetZero value })
  | _ => none

def setThreshold (value : Int32) (g : Config.Gesture) : Option Config.Gesture :=
  match g with
  | .none _ => none
  | _ => some (withThreshold (resetZero value) g)

def setMultiplier (value : Rat) : Config.Gesture → Option Config.Gesture
  | .axis g => some (.axis { g with axisMultiplier := some value })
  | _ => none

def withAction (value : Option Config.BasicAction) : Config.Gesture → Option Config.Gesture
  | .interval g => some (.interval { g with action := value })
  | .fewPixels g => some (.fewPixels { g with action := value })
  | .release g => some (.release { g with action := value })
  | .threshold g => some (.threshold { g with action := value })
  | _ => none

/-- A name that is no action leaves the entry as it was, and the call fails. -/
def setAction (type : String) (g : Config.Gesture) : Option Config.Gesture :=
  (BasicAction.ofName type).bind fun value => withAction value g

/-- The action that the gesture has, which must be a keypress. -/
def setKeys (keys : List String) (g : Config.Gesture) : Option Config.Gesture :=
  match action g with
  | some (.keypress _) => withAction (some (.keypress (KeypressAction.entryOfKeys keys))) g
  | _ => none

end Gesture

namespace GestureAction

/-- The entry of a direction. -/
def entry (config : Config.GestureAction) (d : Direction) : Option Config.Gesture :=
  config.gestures.bind fun gestures => gestures.find? d.name

/-- Change the entry of a direction, which is there. -/
def modifyEntry (config : Config.GestureAction) (d : Direction) (g : Config.Gesture) :
    Config.GestureAction :=
  { gestures := config.gestures.map fun gestures => gestures.modify d.name fun _ => g }

/-- `GestureAction::setGesture`, what it does to the configuration, and whether it succeeds. A type
that is not known leaves an entry in any case. -/
def setGesture (config : Config.GestureAction) (direction type : String) :
    Config.GestureAction × Bool :=
  match Direction.ofName direction with
  | none => (config, false)
  | some d =>
    let gestures := config.gestures.getD .empty
    match Gesture.ofType type with
    | none =>
      -- the map makes a `NoGesture` where there is no entry; the handler rethrows before the threshold
      ({ gestures := some (gestures.emplace d.name (.none {})) }, false)
    | some g =>
      let g := if d = .none then Gesture.withThreshold (some 0) g else g
      ({ gestures := some (gestures.assign d.name g) }, true)

end GestureAction

end Logid.Actions
