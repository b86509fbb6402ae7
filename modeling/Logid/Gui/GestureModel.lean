import Mathlib.Data.Rat.Defs
import Mathlib.Logic.Function.Basic
import Logid.Actions.Entries
import Logid.Misc.Machine

/-!
# The gesture model of the user interface

Rendering of `GestureModel.cpp:150-390`: the state of each direction and the edits with the D-Bus
calls that they make. The calls are delivered in the order in which they are made.
-/

namespace Logid.Gui

open Actions (Direction)

/-- `GestureModel::DirectionState` -/
structure DirectionState where
  mode : String := ""
  plainMode : String := ""
  actionType : String := ""
  granularity : Int32 := 0
  deriving DecidableEq, Repr

/-- `_dirs`; a direction without an entry reads as a new one. -/
structure GestureModel where
  dirs : String → DirectionState

namespace GestureModel

def isCardinal (d : String) : Bool := d == "up" || d == "down" || d == "left" || d == "right"

def plainModeForType : String → String
  | "OnInterval" => "Repeat while moving"
  | "OnRelease" => "Do once when moved far enough"
  | "Axis" => "Adjust proportionally"
  | "None" => "Nothing"
  | _ => ""

def mapMode : String → Option String
  | "Repeat while moving" => some "OnInterval"
  | "Do once when moved far enough" => some "OnRelease"
  | "Adjust proportionally" => some "Axis"
  | "Nothing" => some "None"
  | _ => none

/-- The methods that `performParamCall` calls, with their arguments. -/
inductive Param where
  | setInterval (interval : Int32)
  | setThreshold (threshold : Int32)
  | setMultiplier (multiplier : Rat)
  | setAction (type : String)
  | setKeys (keys : List String)
  deriving DecidableEq, Repr

inductive Call where
  /-- `performSetGesture` -/
  | setGesture (direction type : String)
  /-- `performParamCall` -/
  | param (direction type : String) (method : Param)
  deriving DecidableEq, Repr

inductive Edit where
  | mode (direction plainMode : String)
  | granularity (direction : String) (rawValue : Int32)
  | action (direction actionType : String)
  | keypress (direction : String) (evdevNames : List String)
  deriving DecidableEq, Repr

def setState (m : GestureModel) (direction : String) (st : DirectionState) : GestureModel :=
  { dirs := Function.update m.dirs direction st }

/-- An edit changes the model at once and makes its calls; `none` for a rejected edit. -/
def setMode (m : GestureModel) (direction plainMode : String) :
    Option (GestureModel × List Call) :=
  if isCardinal direction then
    (mapMode plainMode).map fun type =>
      let st := { m.dirs direction with mode := type, plainMode := plainMode }
      let st := if type = "None" ∨ type = "Axis" then { st with actionType := "" } else st
      (m.setState direction st, [.setGesture direction type])
  else none

/-- The setter for the mode, with the value that it sends. -/
def granularityMethod (mode : String) (rawValue : Int32) : Option Param :=
  if mode = "OnInterval" then some (.setInterval rawValue)
  else if mode = "OnRelease" then some (.setThreshold rawValue)
  else if mode = "Axis" then some (.setMultiplier rawValue.toInt)
  else none

def setGranularity (m : GestureModel) (direction : String) (rawValue : Int32) :
    Option (GestureModel × List Call) :=
  let st := m.dirs direction
  if isCardinal direction ∧ 0 ≤ rawValue then
    (granularityMethod st.mode rawValue).map fun method =>
      (m.setState direction { st with granularity := rawValue },
        [.param direction st.mode method])
  else none

/-- The modes with a `SetAction`. -/
def discrete (mode : String) : Bool := mode == "OnInterval" || mode == "OnRelease"

def setGestureAction (m : GestureModel) (direction actionType : String) :
    Option (GestureModel × List Call) :=
  let st := m.dirs direction
  if isCardinal direction ∧ discrete st.mode ∧ actionType ≠ "" then
    some (m.setState direction { st with actionType := actionType },
      [.param direction st.mode (.setAction actionType)])
  else none

def setGestureKeypress (m : GestureModel) (direction : String) (evdevNames : List String) :
    Option (GestureModel × List Call) :=
  let st := m.dirs direction
  if isCardinal direction ∧ discrete st.mode ∧ evdevNames ≠ [] then
    some (m.setState direction { st with actionType := "Keypress" }, [
      .param direction st.mode (.setAction "Keypress"),
      .param direction st.mode (.setKeys evdevNames)])
  else none

def edit (m : GestureModel) : Edit → Option (GestureModel × List Call)
  | .mode direction plainMode => m.setMode direction plainMode
  | .granularity direction rawValue => m.setGranularity direction rawValue
  | .action direction actionType => m.setGestureAction direction actionType
  | .keypress direction evdevNames => m.setGestureKeypress direction evdevNames

/-! ## The daemon -/

/-- What the method does to the entry of the gesture; `none` when the call fails. -/
def Param.run (g : Config.Gesture) : Param → Option Config.Gesture
  | .setInterval interval => Actions.Gesture.setInterval interval g
  | .setThreshold threshold => Actions.Gesture.setThreshold threshold g
  | .setMultiplier multiplier => Actions.Gesture.setMultiplier multiplier g
  | .setAction type => Actions.Gesture.setAction type g
  | .setKeys keys => Actions.Gesture.setKeys keys g

/-- `SetKeys` is on the interface of the action at the node of the gesture. -/
def Param.onGesture : Param → Bool
  | .setKeys _ => false
  | _ => true

/-- The node `gestures/<direction>`. -/
def nodeDirection (direction : String) : Option Direction :=
  (Direction.ofName direction).filter fun d => d.name == direction

/-- What a call does to the configuration of the button's gestures; `none` when it fails. -/
def Call.run (config : Config.GestureAction) : Call → Option Config.GestureAction
  | .setGesture direction type =>
    match Actions.GestureAction.setGesture config direction type with
    | (config', true) => some config'
    | (_, false) => none
  | .param direction type method => do
    let d ← nodeDirection direction
    let g ← Actions.GestureAction.entry config d
    if method.onGesture ∧ Actions.Gesture.interfaceName g ≠ type then none
    else
      let g' ← method.run g
      return Actions.GestureAction.modifyEntry config d g'

def deliverAll (config : Config.GestureAction) (calls : List Call) : Option Config.GestureAction :=
  calls.foldlM Call.run config

/-! ## Agreement -/

/-- The number that the granularity of the mode is; 0 stands for a member that is not set. -/
def entryGranularity : Config.Gesture → Rat
  | .none _ => 0
  | .axis g => g.axisMultiplier.getD 0
  | .interval g | .fewPixels g => (g.interval.getD 0).toInt
  | .release g => (g.threshold.getD 0).toInt
  | .threshold g => (g.threshold.getD 0).toInt

def entryActionType (g : Config.Gesture) : String :=
  match Actions.Gesture.action g with
  | some action => Actions.BasicAction.interfaceName action
  | none => ""

/-- The model shows the entry of a direction. -/
structure Shows (st : DirectionState) (g : Config.Gesture) : Prop where
  mode : st.mode = Actions.Gesture.interfaceName g
  plainMode : st.plainMode = plainModeForType st.mode
  actionType : st.actionType = entryActionType g
  granularity : (st.granularity.toInt : Rat) = entryGranularity g

/-- Each of the four directions is shown; one without an entry as a new one. -/
def Agrees (m : GestureModel) (config : Config.GestureAction) : Prop :=
  ∀ d : Direction, d ≠ .none →
    match Actions.GestureAction.entry config d with
    | some g => Shows (m.dirs d.name) g
    | none => m.dirs d.name = {}

/-- The model, the configuration in the daemon and the calls on their way to it. -/
structure State where
  model : GestureModel
  daemon : Config.GestureAction
  calls : List Call

inductive Label where
  | edit (e : Edit)
  /-- The daemon gets the next call. -/
  | deliver
  deriving DecidableEq, Repr

/-- The edits are those that the model accepts and whose calls will succeed. -/
def step (s : State) : Label → Option State
  | .edit e => do
    let (model, calls) ← s.model.edit e
    if (deliverAll s.daemon (s.calls ++ calls)).isSome then
      return { s with model := model, calls := s.calls ++ calls }
    else none
  | .deliver =>
    match s.calls with
    | call :: calls => (call.run s.daemon).map fun daemon =>
        { s with daemon := daemon, calls := calls }
    | [] => none

/-- A model in sync with the daemon. -/
structure Start where
  model : GestureModel
  daemon : Config.GestureAction
  agrees : Agrees model daemon

def machine (start : Start) : Machine State Label where
  init := { model := start.model, daemon := start.daemon, calls := [] }
  step := step

/-- The model agrees with what the daemon has when it has got all the calls. -/
def InSync (s : State) : Prop :=
  ∀ config, deliverAll s.daemon s.calls = some config → Agrees s.model config

/-- The edit keeps nothing on show that the daemon drops: a new mode is set where no granularity is
shown and no action, unless the mode clears it; and the action is not "Default". -/
def DropsNothing (m : GestureModel) : Edit → Prop
  | .mode direction plainMode =>
    (m.dirs direction).granularity = 0 ∧
      ((m.dirs direction).actionType = "" ∨
        plainMode = "Nothing" ∨ plainMode = "Adjust proportionally")
  | .action _ actionType => actionType ≠ "Default"
  | .granularity _ _ | .keypress _ _ => True

/-- `DropsNothing` for the steps that are edits. -/
def EditsDropNothing (s : State) : Label → Prop
  | .edit e => DropsNothing s.model e
  | .deliver => True

end GestureModel

end Logid.Gui
