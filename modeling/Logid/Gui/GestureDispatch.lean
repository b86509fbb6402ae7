import Logid.Gui.GestureModel

/-!
# The gesture model on the bus

Rendering of the live part of `GestureModel.cpp`: the probes with which a new model reads what is
configured (`seedFromDaemon`, `probeDirection` and `seedParam`, 93-183), and the calls of an edit
(`performSetGesture` and `performParamCall`, 493-588). A call of a parameter waits for a hop: for the
reply to the `SetGesture` of its direction that is on its way, or else to a `GetAll` that finds out
whether its interface is there. The connection is ordered: the daemon carries out the calls in the order
in which they are made, and its replies arrive in that order.
-/

namespace Logid.Gui.GestureModel

open Actions (Direction)

/-- `InputDevice::toAxisName`, which throws for a code without a name, and `qRound`. -/
structure Platform where
  axisName : UInt32 → Option String
  qRound : Rat → Int32

/-! ### The daemon -/

/-- The interface of a gesture at the node of the direction. -/
def interfaceAt (config : Config.GestureAction) (direction : String) : Option String := do
  let d ← nodeDirection direction
  let g ← Actions.GestureAction.entry config d
  return Actions.Gesture.interfaceName g

/-- A call on the configuration, and whether it succeeds. One of a parameter that fails changes
nothing. -/
def Call.carryOut (config : Config.GestureAction) (c : Call) : Config.GestureAction × Bool :=
  match c with
  | .setGesture direction type => Actions.GestureAction.setGesture config direction type
  | .param _ _ _ =>
    match c.run config with
    | some config' => (config', true)
    | none => (config, false)

/-- What a reply brings: of the getters that which the model reads. -/
inductive Reply where
  | error
  | done
  | number (n : Int32)
  | multiplier (x : Rat)
  deriving DecidableEq

def Reply.ofBool (succeeds : Bool) : Reply := if succeeds then .done else .error

/-- `GetConfig` or `GetThreshold` on the interface of the gesture. -/
def granularityReply (p : Platform) : Config.Gesture → Reply
  | .interval g | .fewPixels g => .number (g.interval.getD 0)
  | .release g => .number (g.threshold.getD 0)
  | .threshold g => .number (g.threshold.getD 0)
  | .axis g =>
    match g.axis with
    | some (.inr code) =>
      if (p.axisName code).isSome then .multiplier (g.axisMultiplier.getD 1) else .error
    | _ => .multiplier (g.axisMultiplier.getD 1)
  | .none _ => .error

/-! ### The model -/

/-- `kSeedTypes` -/
def seedTypes : List String := ["OnInterval", "OnRelease", "Axis", "None"]

inductive Request where
  | call (c : Call)
  /-- `GetAll` of the interface for the mode, the hop of a parameter's call -/
  | hop (direction type : String)
  /-- `GetAll` of a candidate, by `probeDirection` -/
  | probe (direction : String) (typeIdx : Nat)
  /-- The getter of `seedParam`. -/
  | getParam (direction type : String)
  deriving DecidableEq

/-- A pending call with the calls that are fired by its reply. -/
structure Watcher where
  serial : Nat
  request : Request
  fires : List Call := []
  deriving DecidableEq

/-- The model, the daemon and what is between them: the calls that the daemon has not carried out, and
the replies that have not arrived. A watcher is known by the number of those made before it. -/
structure Session where
  model : GestureModel
  daemon : Config.GestureAction
  /-- `_pendingSetGesture` -/
  pending : String → Option Nat := fun _ => none
  made : Nat := 0
  calls : List Watcher := []
  replies : List (Watcher × Reply) := []

def send (s : Session) (request : Request) (fires : List Call) : Session :=
  { s with
    made := s.made + 1
    calls := s.calls ++ [{ serial := s.made, request := request, fires := fires }] }

def Watcher.connect (serial : Nat) (c : Call) (w : Watcher) : Watcher :=
  if w.serial = serial then { w with fires := w.fires ++ [c] } else w

/-- A call is fired by the reply to the watcher. -/
def connect (s : Session) (serial : Nat) (c : Call) : Session :=
  { s with
    calls := s.calls.map (Watcher.connect serial c)
    replies := s.replies.map fun r => (r.1.connect serial c, r.2) }

def performSetGesture (s : Session) (direction type : String) : Session :=
  { send s (.call (.setGesture direction type)) [] with
    pending := Function.update s.pending direction (some s.made) }

def performParamCall (s : Session) (direction type : String) (method : Param) : Session :=
  match s.pending direction with
  | some serial => connect s serial (.param direction type method)
  | none => send s (.hop direction type) [.param direction type method]

def perform (s : Session) : Call → Session
  | .setGesture direction type => performSetGesture s direction type
  | .param direction type method => performParamCall s direction type method

/-- An edit that the model accepts. -/
def editLive (s : Session) (e : Edit) : Option Session :=
  (s.model.edit e).map fun (model, calls) => calls.foldl perform { s with model := model }

def fire (s : Session) (c : Call) : Session := send s (.call c) []

/-- `SetKeys` is fired whether the hop finds the interface or not. -/
def Call.unconditional : Call → Bool
  | .param _ _ (.setKeys _) => true
  | _ => false

def probeDirection (s : Session) (direction : String) (typeIdx : Nat) : Session :=
  if typeIdx < seedTypes.length then send s (.probe direction typeIdx) [] else s

/-- `seedParam`; "None" has no parameter to read. -/
def seedParam (s : Session) (direction type : String) : Session :=
  if type = "OnInterval" ∨ type = "Axis" ∨ type = "OnRelease" then
    send s (.getParam direction type) []
  else s

def setSeeded (s : Session) (direction type : String) : Session :=
  { s with
    model := s.model.setState direction
      { s.model.dirs direction with mode := type, plainMode := plainModeForType type } }

def setGranularitySeeded (p : Platform) (s : Session) (direction : String) : Reply → Session
  | .number n =>
    { s with model := s.model.setState direction { s.model.dirs direction with granularity := n } }
  | .multiplier x =>
    { s with
      model := s.model.setState direction
        { s.model.dirs direction with granularity := p.qRound x } }
  | _ => s

/-- What the slots of a reply do. -/
def onReply (p : Platform) (s : Session) (w : Watcher) (r : Reply) : Session :=
  match w.request with
  | .call (.setGesture direction _) =>
    let s :=
      if s.pending direction = some w.serial then
        { s with pending := Function.update s.pending direction none }
      else s
    if r = .error then s else w.fires.foldl fire s
  | .call (.param _ _ _) => s
  | .hop _ _ => (w.fires.filter fun c => r ≠ .error ∨ c.unconditional).foldl fire s
  | .probe direction typeIdx =>
    if r = .error then probeDirection s direction (typeIdx + 1)
    else
      let type := seedTypes.getD typeIdx ""
      seedParam (setSeeded s direction type) direction type
  | .getParam direction _ => setGranularitySeeded p s direction r

/-- The daemon's reply to a request, with what the request does to the configuration. -/
def carryOut (p : Platform) (config : Config.GestureAction) : Request → Config.GestureAction × Reply
  | .call c => ((c.carryOut config).1, .ofBool (c.carryOut config).2)
  | .hop direction type => (config, .ofBool (interfaceAt config direction = some type))
  | .probe direction typeIdx =>
    (config, .ofBool (interfaceAt config direction = some (seedTypes.getD typeIdx "")))
  | .getParam direction type =>
    (config,
      match (nodeDirection direction).bind (Actions.GestureAction.entry config) with
      | some g => if Actions.Gesture.interfaceName g = type then granularityReply p g else .error
      | none => .error)

inductive Event where
  | edit (e : Edit)
  /-- The daemon carries out the next call. -/
  | carryOut
  | reply
  deriving DecidableEq

def sessionStep (p : Platform) (s : Session) : Event → Option Session
  | .edit e => editLive s e
  | .carryOut =>
    match s.calls with
    | [] => none
    | w :: calls =>
      let done := carryOut p s.daemon w.request
      some { s with daemon := done.1, calls := calls, replies := s.replies ++ [(w, done.2)] }
  | .reply =>
    match s.replies with
    | [] => none
    | (w, r) :: replies => some (onReply p { s with replies := replies } w r)

def cardinals : List String := ["up", "down", "left", "right"]

/-- The model after its constructor. -/
def seedFromDaemon (config : Config.GestureAction) : Session :=
  cardinals.foldl (fun s direction => probeDirection s direction 0)
    { model := { dirs := fun _ => {} }, daemon := config }

def session (p : Platform) (config : Config.GestureAction) : Machine Session Event where
  init := seedFromDaemon config
  step := sessionStep p

/-- Every call is answered and every reply has arrived. -/
def Session.Idle (s : Session) : Prop := s.calls = [] ∧ s.replies = []

/-- The watchers whose replies have not arrived, in the order in which they were made. -/
def Session.queue (s : Session) : List Watcher := s.replies.map Prod.fst ++ s.calls

/-! ### What the model settles at -/

/-- The mode of what is configured for a direction, which is empty if nothing is. -/
def configuredMode (config : Config.GestureAction) (direction : String) : String :=
  (interfaceAt config direction).getD ""

def Session.ModesAgree (s : Session) : Prop :=
  ∀ d : Direction, d ≠ .none →
    (s.model.dirs d.name).mode = configuredMode s.daemon d.name ∧
      (s.model.dirs d.name).plainMode = plainModeForType (s.model.dirs d.name).mode

def Event.IsEdit : Event → Prop
  | .edit _ => True
  | .carryOut | .reply => False

/-- Without further edits, the modes agree when every reply has arrived. -/
def Settles (p : Platform) (config : Config.GestureAction) (s : Session) : Prop :=
  ∀ es t, (∀ e ∈ es, ¬e.IsEdit) → (session p config).run s es = some t → t.Idle → t.ModesAgree

/-- The mode of a direction when the daemon has carried out the requests. -/
def modeStep (direction mode : String) : Request → String
  | .call (.setGesture direction' type) => if direction' = direction then type else mode
  | _ => mode

def Session.requests (s : Session) : List Request := s.calls.map Watcher.request

def Session.answers (s : Session) : List (Request × Reply) :=
  s.replies.map fun r => (r.1.request, r.2)

/-- A probe of the direction that is on its way has found this type, or it will when the daemon gets to
it. -/
def Session.Finds (s : Session) (direction type : String) : Prop :=
  ∃ typeIdx, type = seedTypes.getD typeIdx "" ∧
    ((∃ r, r ≠ .error ∧ (.probe direction typeIdx, r) ∈ s.answers) ∨
      ∃ before after, s.requests = before ++ .probe direction typeIdx :: after ∧
        before.foldl (modeStep direction) (configuredMode s.daemon direction) = type)

/-- A new mode is not set for a direction while a probe of it finds another. -/
def Timely (s : Session) : Event → Prop
  | .edit (.mode direction plainMode) =>
    ∀ type, s.Finds direction type → mapMode plainMode = some type
  | _ => True

/-! ### What the daemon ends with -/

/-- The calls of an edit. -/
def madeBy (s : Session) : Event → List Call
  | .edit e => ((s.model.edit e).map Prod.snd).getD []
  | .carryOut | .reply => []

/-- The calls of the edits of a run, in the order in which they are made. -/
def madeCalls (p : Platform) : Session → List Event → List Call
  | _, [] => []
  | s, e :: es =>
    madeBy s e ++ ((sessionStep p s e).map fun t => madeCalls p t es).getD []

/-- The configuration if every call were carried out when it is made. -/
def inOrder (config : Config.GestureAction) (calls : List Call) : Config.GestureAction :=
  calls.foldl (fun config c => (c.carryOut config).1) config

/-- A new mode is not set for a direction while a call for the interface of the mode waits for its
hop. -/
def NothingWaits (s : Session) : Event → Prop
  | .edit (.mode direction plainMode) =>
    ∀ w ∈ s.queue, ∀ type method, .param direction type method ∈ w.fires →
      mapMode plainMode ≠ some type
  | _ => True

/-- A new mode is not set too soon. -/
def Unhurried (s : Session) (e : Event) : Prop := Timely s e ∧ NothingWaits s e

end Logid.Gui.GestureModel
