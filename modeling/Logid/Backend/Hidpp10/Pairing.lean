import Logid.Backend.Hidpp10.ReceiverEvents
import Logid.Misc.Machine

/-!
# Pairing on a receiver

Rendering of the handlers of `ReceiverMonitor::_ready` for discovery and pairing and of
`_startPair` and `_stopPair` (`backend/hidpp10/ReceiverMonitor.cpp:73-154,197-222`). A step is what
runs under `_pair_mutex`, a command going out to the receiver, or the return of a method, which
the bus calls one at a time.
-/

namespace Logid.Backend.Hidpp10

open Logid.Backend.Hidpp (Report)

/-- `ReceiverMonitor::PairState`. -/
inductive PairState where
  | notPairing
  | discovering
  | findingPasskey
  | pairing
  deriving DecidableEq, Repr

namespace Pairing

/-- The methods of `Receiver` that are called for pairing. -/
inductive Command where
  | startDiscover (timeout : UInt8)
  | stopDiscover
  | startPairing (timeout : UInt8)
  | stopPairing
  | startBoltPairing (discovery : DeviceDiscoveryEvent)
  deriving DecidableEq, Repr

/-- The device that a command pairs. -/
def Command.discovery? : Command → Option DeviceDiscoveryEvent
  | .startBoltPairing discovery => some discovery
  | _ => none

/-- A call of `_startPair` or `_stopPair` that has left the mutex, with the command it still has to
send. -/
inductive Call where
  | startPair (command : Option Command)
  | stopPair (command : Option Command)
  deriving DecidableEq, Repr

def Call.command : Call → Option Command
  | .startPair command => command
  | .stopPair command => command

/-- The same call when its command has gone out. -/
def Call.sent : Call → Call
  | .startPair _ => .startPair none
  | .stopPair _ => .stopPair none

structure Session where
  bolt : Bool
  pairState : PairState := .notPairing
  discoveryEvent : DeviceDiscoveryEvent := {}
  /-- The queued tasks: the events with which they call `startBoltPairing`. -/
  tasks : List DeviceDiscoveryEvent := []
  call : Option Call := none
  /-- What was sent to the receiver so far. -/
  commands : List Command := []
  /-- The arguments of `pairReady` so far. -/
  signals : List (DeviceDiscoveryEvent × List UInt8) := []
  deriving DecidableEq, Repr

/-- The devices that the receiver was told to pair. -/
def Session.pairings (s : Session) : List DeviceDiscoveryEvent :=
  s.commands.filterMap Command.discovery?

def startPair (s : Session) (timeout : UInt8) : Session :=
  { s with
    pairState := if s.bolt then .discovering else .pairing
    discoveryEvent := {}
    call := some (.startPair (some
      (if s.bolt then .startDiscover timeout else .startPairing timeout))) }

/-- The command with which `_stopPair` ends what was going on. -/
def stopCommand : PairState → Option Command
  | .notPairing => none
  | .discovering => some .stopDiscover
  | .findingPasskey => some .stopPairing
  | .pairing => some .stopPairing

def stopPair (s : Session) : Session :=
  { s with pairState := .notPairing, call := some (.stopPair (stopCommand s.pairState)) }

/-- The handler `_discover_ev_handler`. -/
def onDiscovered (s : Session) (report : Report) : Session :=
  if s.pairState = .discovering then
    let filled := Receiver.fillDeviceDiscoveryEvent s.discoveryEvent report
    if filled.2 then
      { s with
        discoveryEvent := filled.1
        pairState := .findingPasskey
        tasks := s.tasks ++ [filled.1] }
    else { s with discoveryEvent := filled.1 }
  else s

/-- The handler `_passkey_ev_handler`. -/
def onPasskey (s : Session) (report : Report) : Session :=
  if s.pairState = .findingPasskey then
    { s with
      pairState := .pairing
      signals := s.signals ++ [(s.discoveryEvent, Receiver.passkeyEvent report)] }
  else s

def onDiscoveryStatus (s : Session) (discovering : Bool) : Session :=
  if s.pairState = .discovering ∧ discovering = false then { s with pairState := .notPairing }
  else s

/-- The branches for `PairStatus` and `BoltPairStatus` of `_pair_status_handler`. -/
def onPairStatus (s : Session) (pairing : Bool) : Session :=
  if (s.pairState = .findingPasskey ∨ s.pairState = .pairing) ∧ pairing = false then
    { s with pairState := .notPairing }
  else s

/-- The handlers, of which at most one takes the report. -/
def handleEvent (s : Session) (report : Report) : Session :=
  if report.subId = Receiver.deviceDiscovered ∧ report.type = .long then onDiscovered s report
  else if report.subId = Receiver.passkeyRequest ∧ report.type = .long then onPasskey s report
  else if report.subId = Receiver.discoveryStatus then
    onDiscoveryStatus s (Receiver.discoveryStatusDiscovering report)
  else if report.subId = Receiver.pairStatus then
    onPairStatus s (Receiver.pairStatusPairing report)
  else if report.subId = Receiver.boltPairStatus then
    onPairStatus s (Receiver.boltPairStatusPairing report)
  else s

inductive Label where
  | startPair (timeout : UInt8)
  | stopPair
  /-- The command of the call goes out. -/
  | send
  | startReturned
  | stopReturned
  /-- The command failed, sent or not, and the call ends with an exception. -/
  | callThrew
  | report (report : Report)
  /-- The command of the `n`-th task goes out. -/
  | runTask (n : Nat)
  deriving DecidableEq

def step (s : Session) : Label → Option Session
  | .startPair timeout => if s.call = none then some (startPair s timeout) else none
  | .stopPair => if s.call = none then some (stopPair s) else none
  | .send => do
    let call ← s.call
    let command ← call.command
    return { s with commands := s.commands ++ [command], call := some call.sent }
  | .startReturned => if s.call = some (.startPair none) then some { s with call := none } else none
  | .stopReturned => if s.call = some (.stopPair none) then some { s with call := none } else none
  | .callThrew => do
    let _ ← s.call
    return { s with call := none }
  | .report report => some (handleEvent s report)
  | .runTask n => do
    let discovery ← s.tasks[n]?
    return { s with
      tasks := s.tasks.eraseIdx n
      commands := s.commands ++ [.startBoltPairing discovery] }

def machine (bolt : Bool) : Machine Session Label where
  init := { bolt := bolt }
  step := step

def Label.IsStart : Label → Prop
  | .startPair _ => True
  | _ => False

/-- From `s` on nothing is paired and no `PairReady` is emitted until the next `_startPair`. -/
def QuietFrom (bolt : Bool) (s : Session) : Prop :=
  ∀ (as : List Label) (t : Session), (∀ a ∈ as, ¬a.IsStart) → (machine bolt).run s as = some t →
    t.pairings = s.pairings ∧ t.signals = s.signals

end Pairing

end Logid.Backend.Hidpp10
