import Logid.Gui.DeviceModel
import Logid.Misc.AssocMap
import Logid.Misc.Machine

/-!
# The connection of the user interface to the daemon

Rendering of `DaemonConnection.cpp:114-307`. Every call is asynchronous, so the replies are steps of
their own, in any order; a reply is delivered also when the proxy it was asked for is gone.
-/

namespace Logid.Gui

inductive ScreenState where
  | loading
  | populated
  | empty
  | daemonDown
  | accessDenied
  deriving DecidableEq, Repr

/-- What `GetAll` answers, as far as it is read. -/
structure Properties where
  name : Option String := none
  productId : Option UInt16 := none
  active : Option Bool := none
  battery : Option UInt8 := none
  charging : Option Bool := none
  batteryKnown : Option Bool := none
  deriving DecidableEq, Repr

/-- A device proxy with its number. The second field is not in the program: what its own `GetAll` has
answered, when that was a success. -/
structure Proxy where
  number : Nat
  answer : Option Properties
  deriving DecidableEq, Repr

namespace DaemonConnection

/-- The object with its calls. The last two fields are not in the program: whether the last `Enumerate`
was answered with success, and whether the daemon's name was lost since that call. -/
structure Session where
  screenState : ScreenState
  deviceProxies : AssocMap String Proxy
  model : DeviceModel
  /-- The numbers of the pending calls of `Enumerate`, and of the last call. -/
  enumerates : List Nat
  lastEnumerate : Nat
  /-- The pending calls of `GetAll`, with the number of the proxy. -/
  getAlls : List (String × Nat)
  nextProxy : Nat
  succeeded : Bool
  nameLost : Bool

namespace Session

/-- `_deviceProxies.isEmpty()` -/
def NoProxies (s : Session) : Prop := s.deviceProxies.entries = []

instance (s : Session) : Decidable s.NoProxies :=
  inferInstanceAs (Decidable (s.deviceProxies.entries = []))

def setScreenState (s : Session) (state : ScreenState) : Session := { s with screenState := state }

def teardownProxies (s : Session) : Session := { s with deviceProxies := .empty, model := .clear }

/-- Empty or Populated, by the proxies that are held. -/
def population (s : Session) : ScreenState := if s.NoProxies then .empty else .populated

def recomputePopulation (s : Session) : Session :=
  if s.screenState = .daemonDown ∨ s.screenState = .accessDenied then s
  else s.setScreenState s.population

/-- `enumerate` up to its reply. -/
def enumerate (s : Session) : Session :=
  { s with
    enumerates := s.enumerates ++ [s.lastEnumerate + 1]
    lastEnumerate := s.lastEnumerate + 1
    succeeded := false
    nameLost := false }

/-- `addDevice` up to the reply to `GetAll`. -/
def addDevice (s : Session) (path : String) : Session :=
  if path = "" ∨ s.deviceProxies.Has path then s
  else
    { s with
      deviceProxies := s.deviceProxies.emplace path ⟨s.nextProxy, none⟩
      getAlls := s.getAlls ++ [(path, s.nextProxy)]
      nextProxy := s.nextProxy + 1 }

def removeDevice (s : Session) (path : String) : Session :=
  recomputePopulation { s with
    deviceProxies := s.deviceProxies.erase path
    model := s.model.onDeviceRemoved path }

def onDaemonDown (s : Session) : Session :=
  { s.teardownProxies with screenState := .daemonDown, nameLost := true }

/-- `onDaemonUp` and `retry`, which do the same. -/
def onDaemonUp (s : Session) : Session := (s.teardownProxies.setScreenState .loading).enumerate

end Session

inductive EnumerateReply where
  | paths (paths : List String)
  /-- The name of the error. -/
  | error (name : String)
  deriving DecidableEq, Repr

def EnumerateReply.isSuccess : EnumerateReply → Bool
  | .paths _ => true
  | .error _ => false

inductive GetAllReply where
  | properties (props : Properties)
  | error
  deriving DecidableEq, Repr

namespace Session

/-- The call of `Enumerate` with this number is answered. -/
def takeEnumerate (s : Session) (number : Nat) (reply : EnumerateReply) : Session :=
  { s with
    enumerates := s.enumerates.erase number
    succeeded := s.succeeded || reply.isSuccess && number == s.lastEnumerate }

/-- The call of `GetAll` of this proxy is answered. -/
def takeGetAll (s : Session) (path : String) (number : Nat) : Session :=
  { s with getAlls := s.getAlls.erase (path, number) }

/-- The reply to `Enumerate`. -/
def onEnumerated (s : Session) : EnumerateReply → Session
  | .error name =>
    if name = "org.freedesktop.DBus.Error.AccessDenied" then s.setScreenState .accessDenied
    else s.setScreenState .daemonDown
  | .paths [] => s.setScreenState .empty
  | .paths paths => (paths.foldl addDevice s).recomputePopulation

/-- The initial value of the battery. -/
def readBattery (m : DeviceModel) (path : String) (props : Properties) : DeviceModel :=
  match props.battery, props.batteryKnown with
  | some percent, some known =>
    m.onBatteryChanged path percent.toNat (props.charging.getD false) known
  | _, _ => m.onBatteryChanged path 0 false false

/-- What the reply to a `GetAll` does to the rows. -/
def readProperties (m : DeviceModel) (path : String) : GetAllReply → DeviceModel
  | .error =>
    ((m.onDeviceAdded path "" 0 false).onConnectionStateChanged path .offline).onBatteryChanged path
      0 false false
  | .properties props =>
    readBattery (m.onDeviceAdded path (props.name.getD "") (props.productId.getD 0)
      (props.active.getD true)) path props

/-- The reply to a `GetAll` of the path: only the path is looked up. -/
def onProperties (s : Session) (path : String) (reply : GetAllReply) : Session :=
  if s.deviceProxies.Has path then
    recomputePopulation { s with model := readProperties s.model path reply }
  else
    match reply with
    | .error => s.recomputePopulation
    -- removed before the reply
    | .properties _ => s

/-- Notes what the proxy's own call has answered. -/
def noteAnswer (s : Session) (path : String) (number : Nat) : GetAllReply → Session
  | .error => s
  | .properties props =>
    match s.deviceProxies.find? path with
    | some proxy =>
      if proxy.number = number then
        { s with deviceProxies := s.deviceProxies.set path ⟨number, some props⟩ }
      else s
    | none => s

end Session

inductive Label where
  | enumerated (number : Nat) (reply : EnumerateReply)
  | daemonUp
  | daemonDown
  | retry
  | deviceAdded (path : String)
  | deviceRemoved (path : String)
  | properties (path : String) (number : Nat) (reply : GetAllReply)
  | statusChanged (path : String) (active : Bool)
  | batteryChanged (path : String) (percent : UInt8) (charging known : Bool)
  deriving DecidableEq, Repr

def step (s : Session) : Label → Option Session
  | .enumerated number reply =>
    if number ∈ s.enumerates then some ((s.takeEnumerate number reply).onEnumerated reply) else none
  | .daemonUp => some s.onDaemonUp
  | .daemonDown => some s.onDaemonDown
  | .retry => some s.onDaemonUp
  | .deviceAdded path => some (s.addDevice path)
  | .deviceRemoved path => some (s.removeDevice path)
  | .properties path number reply =>
    if (path, number) ∈ s.getAlls then
      some (((s.takeGetAll path number).onProperties path reply).noteAnswer path number reply)
    else none
  | .statusChanged path active => some { s with model := s.model.onStatusChanged path active }
  | .batteryChanged path percent charging known =>
    some { s with model := s.model.onBatteryChanged path percent.toNat charging known }

/-- The object after its constructor, which calls `Enumerate`. -/
def constructed : Session :=
  Session.enumerate
    { screenState := .loading, deviceProxies := .empty, model := .clear, enumerates := [],
      lastEnumerate := 0, getAlls := [], nextProxy := 0, succeeded := false, nameLost := false }

def machine : Machine Session Label where
  init := constructed
  step := step

/-- The last `Enumerate` was answered with success, and the daemon's name was not lost since it. -/
def Session.Settled (s : Session) : Prop := s.succeeded = true ∧ s.nameLost = false

/-- Once settled, the screen tells whether a proxy is held. -/
def Session.ScreenRight (s : Session) : Prop := s.Settled → s.screenState = s.population

/-- What a step must meet for the screen to stay right. -/
def KeepsScreen (s : Session) : Label → Prop
  | .enumerated number (.paths paths) =>
    if number = s.lastEnumerate then
      -- the last reply repairs neither an earlier failure nor, when it is empty, an earlier addition
      s.nameLost = false →
        if paths = [] then s.NoProxies
        else s.screenState ≠ .daemonDown ∧ s.screenState ≠ .accessDenied
    else s.Settled → paths = [] → s.NoProxies
  | .enumerated _ (.error _) => ¬ s.Settled
  -- the first device is not announced by a recomputation
  | .deviceAdded path => s.Settled → path = "" ∨ ¬ s.NoProxies
  | _ => True

/-- The row shows the name and the kind that the properties give, and not as offline. -/
def Shows (row : Row) (props : Properties) : Prop :=
  row.name = props.name.getD "" ∧
    row.deviceKind = DeviceModel.kindFromPid (props.productId.getD 0) ∧
    row.connectionState ≠ .offline

/-- Each proxy has one row and nothing else has one. -/
def Session.RowsMatch (s : Session) : Prop :=
  s.getAlls = [] →
    (∀ row ∈ s.model.rows, s.deviceProxies.Has row.path) ∧
      ∀ path, s.deviceProxies.Has path → (s.model.rows.map Row.path).count path = 1

/-- Each proxy whose own call succeeded has a row that shows the answer. -/
def Session.RowsShow (s : Session) : Prop :=
  s.getAlls = [] → ∀ path number props,
    s.deviceProxies.find? path = some ⟨number, some props⟩ →
      ∃ row ∈ s.model.rows, row.path = path ∧ Shows row props

/-- No reply to a call of an earlier proxy reaches a path that has a proxy again, unless it is a
success and the path has its row already. -/
def OfPresentProxy (s : Session) : Label → Prop
  | .properties path number reply =>
    ∀ proxy, s.deviceProxies.find? path = some proxy →
      proxy.number = number ∨ reply ≠ .error ∧ s.model.HasRow path
  | _ => True

instance (s : Session) : ∀ a : Label, Decidable (OfPresentProxy s a)
  | .properties path number reply =>
    decidable_of_iff (∀ proxy ∈ s.deviceProxies.find? path,
      proxy.number = number ∨ reply ≠ .error ∧ s.model.HasRow path) Iff.rfl
  | .enumerated _ _ | .daemonUp | .daemonDown | .retry | .deviceAdded _ | .deviceRemoved _
  | .statusChanged _ _ | .batteryChanged _ _ _ _ => .isTrue trivial

end DaemonConnection

end Logid.Gui
