import Mathlib.Logic.Function.Basic
import Logid.Features.RemapButton
import Logid.Misc.Machine

/-!
# The buttons model of the user interface

Rendering of `ButtonsModel.cpp:40-480`: the setters with the chains of calls that they start, and the
probe by which a row is reconciled with the daemon. A row is named by its path. The daemon carries out
the calls of one client in the order in which they are made, and its replies arrive in that order; what
becomes of a call is a choice of the environment. The summaries of the rows are left out.
-/

namespace Logid.Gui

open Features (ControlInfo)

namespace ButtonsModel

/-! ### The daemon -/

/-- What of a button of the daemon decides its replies: its flags, and the alternative of which
`_action` was made. -/
structure DaemonButton where
  control : ControlInfo
  action : Option Config.Action
  deriving DecidableEq

/-- What goes wrong with a call apart from what the daemon answers: it is lost on the way, or it is
carried out and answered with an error all the same, as when `configure` throws. -/
inductive Fault where
  | none
  | lost
  | threw
  deriving DecidableEq, Repr

namespace DaemonButton

/-- The interface at the node of the button. -/
def interface (b : DaemonButton) : Option String := b.action.map Actions.Action.interfaceName

/-- The action is absent or null. -/
def Inert (b : DaemonButton) : Prop := b.interface = none ∨ b.interface = some "None"

instance (b : DaemonButton) : Decidable b.Inert :=
  inferInstanceAs (Decidable (b.interface = none ∨ b.interface = some "None"))

/-- `Button::IPC::setAction`, and whether it returns. -/
def setAction (b : DaemonButton) (type : String) : DaemonButton × Bool :=
  if b.control.accepts type then
    match Actions.Action.ofName type with
    | none => ({ b with action := none }, false)
    | some action => ({ b with action := action }, true)
  else (b, false)

/-- The call as the client sees it. -/
def callSetAction (b : DaemonButton) (type : String) : Fault → DaemonButton × Bool
  | .none => b.setAction type
  | .lost => (b, false)
  | .threw => ((b.setAction type).1, false)

/-- A method of an interface, which the other buttons' nodes do not have. The methods called here
change no type. -/
def callInterface (b : DaemonButton) (interface : String) (fault : Fault) : Bool :=
  decide (fault = .none ∧ b.interface = some interface)

end DaemonButton

/-! ### The model -/

/-- `kActionTypes` without "None", which the probe skips. -/
def probedTypes : List String :=
  ["Keypress", "ChangeDPI", "CycleDPI", "ChangeHost", "ChangeProfile", "ToggleSmartShift",
    "ToggleHiresScroll", "Gesture"]

/-- The call of a parameter's setter. -/
inductive Param where
  | keys (names : List String)
  | change (change : Int32)
  | dpis (dpis : List Int32)
  | host (host : String)
  | profile (name : String)
  deriving DecidableEq, Repr

/-- The type of the action that has the parameter. -/
def Param.type : Param → String
  | .keys _ => "Keypress"
  | .change _ => "ChangeDPI"
  | .dpis _ => "CycleDPI"
  | .host _ => "ChangeHost"
  | .profile _ => "ChangeProfile"

def Param.method : Param → String
  | .keys _ => "SetKeys"
  | .change _ => "SetChange"
  | .dpis _ => "SetDPIs"
  | .host _ => "SetHost"
  | .profile _ => "SetProfile"

/-- A call that is not answered yet, with what its reply starts. -/
inductive Call where
  /-- Followed by the setter of a parameter, or else by a probe. -/
  | setAction (path type : String) (param : Option Param)
  | setParam (path : String) (param : Param)
  /-- The call of a probe for the type with this index. -/
  | getAll (path : String) (index : Nat)
  deriving DecidableEq, Repr

def Call.path : Call → String
  | .setAction path _ _ => path
  | .setParam path _ => path
  | .getAll path _ => path

/-- The part of a `ButtonInfo` that is read. -/
structure Row where
  remappable : Bool
  currentActionType : String
  deriving DecidableEq, Repr

/-- The model, the daemon and what is between them: the calls that the daemon has not carried out, and
the replies that have not arrived. -/
structure Session where
  rows : String → Option Row
  hostCount : Int32 := 3
  daemon : String → DaemonButton
  calls : List Call := []
  replies : List (Call × Bool) := []

def send (s : Session) (call : Call) : Session := { s with calls := s.calls ++ [call] }

def applyCurrentAction (s : Session) (path type : String) : Session :=
  { s with
    rows := Function.update s.rows path
      ((s.rows path).map fun row => { row with currentActionType := type }) }

/-- The end of a probe that has found no interface. -/
def applyAbsence (s : Session) (path : String) : Session :=
  match s.rows path with
  | some row =>
    if row.currentActionType ≠ "None" ∧ row.currentActionType ≠ "Default" then
      applyCurrentAction s path "None"
    else s
  | none => s

/-- The probe from the type with this index on; `doReconcile` starts at the first. -/
def probe (s : Session) (path : String) (index : Nat) : Session :=
  if index < probedTypes.length then send s (.getAll path index) else applyAbsence s path

/-- A setter whose checks have passed: `performSetAction` and what is chained to its reply, and the
optimistic update of the row. -/
def edit (s : Session) (path type : String) (param : Option Param) : Session :=
  match s.rows path with
  | some row =>
    if row.remappable then
      applyCurrentAction (send s (.setAction path type param)) path type
    else s
  | none => s

def setAction (s : Session) (path type : String) : Session := edit s path type none

/-- A setter that first sets the type and then the parameter. -/
def setWithParam (s : Session) (path : String) (param : Param) : Session :=
  edit s path param.type (some param)

def setKeypress (s : Session) (path : String) (names : List String) : Session :=
  if names = [] then s else setWithParam s path (.keys names)

def setMouseButton (s : Session) (path name : String) : Session :=
  if name = "" then s else setWithParam s path (.keys [name])

def setChangeDpi (s : Session) (path : String) (change : Int32) : Session :=
  setWithParam s path (.change change)

def setCycleDpi (s : Session) (path : String) (dpis : List Int32) : Session :=
  setWithParam s path (.dpis dpis)

/-- Whether `setChangeHost` accepts the host, and `toInt` of it where that is a number. -/
def allowedHost (hostCount : Int32) (host : String) (number : Option Int32) : Bool :=
  host = "next" || host = "prev" || host = "previous" ||
    number.any fun n => decide (1 ≤ n ∧ n ≤ hostCount)

/-- The host is given trimmed, in lower case, and as the number that it may be. -/
def setChangeHost (s : Session) (path host : String) (number : Option Int32) : Session :=
  if allowedHost s.hostCount host number then setWithParam s path (.host host) else s

def setChangeProfile (s : Session) (path name : String) : Session :=
  if name = "" then s else setWithParam s path (.profile name)

def setToggleSmartShift (s : Session) (path : String) : Session :=
  setAction s path "ToggleSmartShift"

def setToggleHiresScroll (s : Session) (path : String) : Session :=
  setAction s path "ToggleHiresScroll"

def restoreDefault (s : Session) (path : String) : Session := edit s path "Default" none

def clearAction (s : Session) (path : String) : Session := edit s path "None" none

/-- What the slots of a reply do. -/
def onReply (s : Session) : Call × Bool → Session
  | (.setAction path _ none, _) => probe s path 0
  | (.setAction path _ (some param), true) => send s (.setParam path param)
  -- the row is not looked at again
  | (.setAction _ _ (some _), false) => s
  | (.setParam path _, _) => probe s path 0
  -- that the type differs is tested only to spare a signal
  | (.getAll path index, true) =>
    match probedTypes[index]? with
    | some type => applyCurrentAction s path type
    | none => s
  | (.getAll path index, false) => probe s path (index + 1)

/-- The daemon carries out a call. -/
def carryOut (s : Session) (fault : Fault) : Call → Session × Bool
  | .setAction path type _ =>
    let called := (s.daemon path).callSetAction type fault
    ({ s with daemon := Function.update s.daemon path called.1 }, called.2)
  | .setParam path param => (s, (s.daemon path).callInterface param.type fault)
  | .getAll path index =>
    (s, probedTypes[index]?.any fun type => (s.daemon path).callInterface type fault)

inductive Label where
  | setAction (path type : String)
  | setKeypress (path : String) (names : List String)
  | setMouseButton (path name : String)
  | setChangeDpi (path : String) (change : Int32)
  | setCycleDpi (path : String) (dpis : List Int32)
  | setChangeHost (path host : String) (number : Option Int32)
  | setChangeProfile (path name : String)
  | setToggleSmartShift (path : String)
  | setToggleHiresScroll (path : String)
  | restoreDefault (path : String)
  | clearAction (path : String)
  | setHostCount (count : Int32)
  | carryOut (fault : Fault)
  | reply
  deriving DecidableEq, Repr

def step (s : Session) : Label → Option Session
  | .setAction path type => some (setAction s path type)
  | .setKeypress path names => some (setKeypress s path names)
  | .setMouseButton path name => some (setMouseButton s path name)
  | .setChangeDpi path change => some (setChangeDpi s path change)
  | .setCycleDpi path dpis => some (setCycleDpi s path dpis)
  | .setChangeHost path host number => some (setChangeHost s path host number)
  | .setChangeProfile path name => some (setChangeProfile s path name)
  | .setToggleSmartShift path => some (setToggleSmartShift s path)
  | .setToggleHiresScroll path => some (setToggleHiresScroll s path)
  | .restoreDefault path => some (restoreDefault s path)
  | .clearAction path => some (clearAction s path)
  | .setHostCount count => some { s with hostCount := count }
  | .carryOut fault =>
    match s.calls with
    | [] => none
    | call :: calls =>
      let done := carryOut { s with calls := calls } fault call
      some { done.1 with replies := done.1.replies ++ [(call, done.2)] }
  | .reply =>
    match s.replies with
    | [] => none
    | reply :: replies => some (onReply { s with replies := replies } reply)

/-- The row of a button as `enumerate` reads it. -/
def enumerated (b : DaemonButton) : Row where
  remappable := b.control.temporaryDivertable
  currentActionType := (probedTypes.find? fun type => b.interface = some type).getD "None"

/-- The model after its constructor, over the buttons of the daemon. -/
def enumerate (paths : List String) (daemon : String → DaemonButton) : Session where
  rows path := if path ∈ paths then some (enumerated (daemon path)) else none
  daemon := daemon

def machine (paths : List String) (daemon : String → DaemonButton) : Machine Session Label where
  init := enumerate paths daemon
  step := step

/-! ### Agreement -/

/-- A call of the button is not answered. -/
def Session.Busy (s : Session) (path : String) : Prop :=
  path ∈ s.calls.map Call.path ∨ path ∈ s.replies.map fun reply => reply.1.path

instance (s : Session) (path : String) : Decidable (s.Busy path) :=
  inferInstanceAs (Decidable (path ∈ s.calls.map Call.path ∨
    path ∈ s.replies.map fun reply => reply.1.path))

/-- The type shows the action: an absent or a null one as either "None" or "Default". -/
def Shows (type : String) (b : DaemonButton) : Prop :=
  if b.Inert then type = "None" ∨ type = "Default" else b.interface = some type

instance (type : String) (b : DaemonButton) : Decidable (Shows type b) :=
  inferInstanceAs (Decidable (if b.Inert then _ else _))

def Session.Agrees (s : Session) (path : String) : Prop :=
  ∀ row ∈ s.rows path, Shows row.currentActionType (s.daemon path)

instance (s : Session) (path : String) : Decidable (s.Agrees path) :=
  inferInstanceAs (Decidable (∀ row ∈ s.rows path, Shows row.currentActionType (s.daemon path)))

/-- Every row agrees with the daemon once its calls are answered. -/
def Session.RowsAgree (s : Session) : Prop := ∀ path, ¬s.Busy path → s.Agrees path

/-- A reply after which the model looks no further at a button comes when another call of the button
is not answered, or finds the daemon as the row will show it. A setter with a parameter whose type was
refused, or lost, leaves the row as it is: it has to name the interface that the daemon has, or nothing
where the daemon has nothing. After the last reply of a probe that found no interface the row shows
nothing, so the daemon has to have nothing. -/
def LeavesRight (s : Session) : Label → Prop
  | .reply =>
    match s.replies with
    | (.setAction path _ (some _), false) :: replies =>
      { s with replies := replies }.Busy path ∨ ∀ row, s.rows path = some row →
        (s.daemon path).interface = some row.currentActionType ∨
          (row.currentActionType = "None" ∨ row.currentActionType = "Default") ∧
            (s.daemon path).Inert
    | (.getAll path index, false) :: replies =>
      index + 1 < probedTypes.length ∨ { s with replies := replies }.Busy path ∨
        s.rows path = none ∨ (s.daemon path).Inert
    | _ => True
  | _ => True

end ButtonsModel

end Logid.Gui
