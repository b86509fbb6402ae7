import Mathlib.Logic.Function.Basic
import Logid.Misc.Machine
import Logid.Backend.Hidpp.Report
import Logid.Backend.Raw.RawDevice

/-!
# The base class of HID++ devices

Rendering of `Device::sendReport` and `Device::responseReport` (`backend/hidpp/Device.cpp:203-268`),
which initialisation uses before the protocol version is known. One request at a time: the sender
holds `_send_mutex` for the whole exchange. It writes `_sent_sub_id` and `_sent_address` before it
takes `_response_mutex`, so those are steps of their own; everything else between two waits is one
step.
-/

namespace Logid.Backend.Hidpp.Device

open Logid.Backend.Raw (Errno WriteEnv)

/-- `std::variant<Report, Report::Hidpp10Error, Report::Hidpp20Error>`. -/
inductive Response where
  | report (report : Report)
  | hidpp10Error (err : Hidpp10Error)
  | hidpp20Error (err : Hidpp20Error)
  deriving DecidableEq

/-- How a call of `sendReport` ends. -/
inductive Exit where
  | returned (report : Report)
  | hidpp10Error (err : Hidpp10Error)
  | hidpp20Error (err : Hidpp20Error)
  | timeout
  | writeFailed (err : Errno)
  deriving DecidableEq

/-- The `holds_alternative` chain at the end of `sendReport`. -/
def Exit.ofResponse : Response → Exit
  | .report report => .returned report
  | .hidpp10Error err => .hidpp10Error err
  | .hidpp20Error err => .hidpp20Error err

/-- The program points of `sendReport` under `_send_mutex`. -/
inductive Phase where
  | locked
  | subIdSet
  | addressSet
  /-- In `wait_for`, the request written. -/
  | waiting
  deriving DecidableEq

inductive Caller where
  | idle
  | inside (phase : Phase) (request : Report)
  | done (request : Report) (exit : Exit)
  deriving DecidableEq

structure State (ι : Type) where
  sendMutex : Option ι
  sentSubId : Option UInt8
  sentAddress : Option UInt8
  response : Option Response
  callers : ι → Caller

inductive Label (ι : Type) where
  | lock (c : ι) (request : Report)
  | setSubId (c : ι)
  | setAddress (c : ι)
  /-- Take `_response_mutex`, write and wait. -/
  | write (c : ι) (env : WriteEnv)
  | wake (c : ι)
  | timeout (c : ι)
  /-- The I/O thread runs `responseReport(report)`. -/
  | report (report : Report)

/-- What `responseReport` makes of a report: the sub id and the address it answers to, and the
response it would store. In the branch of a HID++ 2.0 error the response is still the report. -/
def decode (report : Report) : UInt8 × UInt8 × Response :=
  match report.isError10 with
  | some err => (err.subId, err.address, .hidpp10Error err)
  | none =>
    match report.isError20 with
    | some err =>
      (err.featureIndex, err.function <<< 4 ||| (err.softwareId &&& 0x0f), .report report)
    | none => (report.subId, report.address, .report report)

variable {ι : Type}

/-- The matching test of `responseReport`. -/
def Accepts (s : State ι) (report : Report) : Prop :=
  some (decode report).1 = s.sentSubId ∧ some (decode report).2.1 = s.sentAddress

instance (s : State ι) (report : Report) : Decidable (Accepts s report) :=
  inferInstanceAs (Decidable (_ ∧ _))

/-- `Device::responseReport` (`backend/hidpp/Device.cpp:240-268`). -/
def responseReport (s : State ι) (report : Report) : State ι :=
  if Accepts s report then { s with response := some (decode report).2.2 } else s

variable [DecidableEq ι]

def setCaller (s : State ι) (c : ι) (caller : Caller) : State ι :=
  { s with callers := Function.update s.callers c caller }

/-- `sendReport` leaves through the destructor of `send_lock`. -/
def leave (s : State ι) (c : ι) (request : Report) (exit : Exit) : State ι :=
  { setCaller s c (.done request exit) with sendMutex := none }

/-- The end of `sendReport` with a response: it resets all three members. -/
def take (s : State ι) (c : ι) (request : Report) (response : Response) : State ι :=
  { leave s c request (.ofResponse response) with
    response := none, sentSubId := none, sentAddress := none }

/-- The end of `sendReport` without one: it resets only `_sent_sub_id`. -/
def timeOut (s : State ι) (c : ι) (request : Report) : State ι :=
  { leave s c request .timeout with sentSubId := none }

def step (s : State ι) : Label ι → Option (State ι)
  | .lock c request =>
    match s.callers c with
    | .inside .. => none
    | .idle | .done .. =>
      if s.sendMutex = none then
        some { setCaller s c (.inside .locked request) with sendMutex := some c }
      else none
  | .setSubId c =>
    match s.callers c with
    | .inside .locked request =>
      some { setCaller s c (.inside .subIdSet request) with sentSubId := some request.subId }
    | _ => none
  | .setAddress c =>
    match s.callers c with
    | .inside .subIdSet request =>
      some { setCaller s c (.inside .addressSet request) with sentAddress := some request.address }
    | _ => none
  | .write c env =>
    match s.callers c with
    | .inside .addressSet request =>
      match Raw.sendReport env with
      | .ok () => some (setCaller s c (.inside .waiting request))
      | .error err => some (leave s c request (.writeFailed err))
    | _ => none
  | .wake c =>
    match s.callers c with
    | .inside .waiting request =>
      match s.response with
      | none => some s
      | some response => some (take s c request response)
    | _ => none
  | .timeout c =>
    match s.callers c with
    | .inside .waiting request =>
      match s.response with
      | none => some (timeOut s c request)
      | some response => some (take s c request response)
    | _ => none
  | .report report => some (responseReport s report)

def machine : Machine (State ι) (Label ι) where
  init := {
    sendMutex := none
    sentSubId := none
    sentAddress := none
    response := none
    callers := fun _ => .idle }
  step := step

/-- What a step can do. -/
inductive Transition (s : State ι) : Label ι → State ι → Prop where
  | lock {c request} (outside : ∀ p r, s.callers c ≠ .inside p r) (free : s.sendMutex = none) :
      Transition s (.lock c request)
        { setCaller s c (.inside .locked request) with sendMutex := some c }
  | setSubId {c request} (at_ : s.callers c = .inside .locked request) :
      Transition s (.setSubId c)
        { setCaller s c (.inside .subIdSet request) with sentSubId := some request.subId }
  | setAddress {c request} (at_ : s.callers c = .inside .subIdSet request) :
      Transition s (.setAddress c)
        { setCaller s c (.inside .addressSet request) with sentAddress := some request.address }
  | write {c request env} (at_ : s.callers c = .inside .addressSet request)
      (ok : Raw.sendReport env = .ok ()) :
      Transition s (.write c env) (setCaller s c (.inside .waiting request))
  | writeFailed {c request env err} (at_ : s.callers c = .inside .addressSet request)
      (failed : Raw.sendReport env = .error err) :
      Transition s (.write c env) (leave s c request (.writeFailed err))
  | take {a : Label ι} {c request response} (at_ : s.callers c = .inside .waiting request)
      (stored : s.response = some response) (label : a = .wake c ∨ a = .timeout c) :
      Transition s a (take s c request response)
  | timeOut {c request} (at_ : s.callers c = .inside .waiting request)
      (empty : s.response = none) : Transition s (.timeout c) (timeOut s c request)
  | wait {c request} (at_ : s.callers c = .inside .waiting request) (empty : s.response = none) :
      Transition s (.wake c) s
  | report {report : Report} : Transition s (.report report) (responseReport s report)

theorem step_transition {s t : State ι} {a : Label ι} (h : step s a = some t) :
    Transition s a t := by
  cases a with
  | lock c request =>
    simp only [step] at h
    split at h
    next => cases h
    all_goals
      next hc =>
        split at h
        next hfree =>
          cases h
          exact .lock (by simp [hc]) hfree
        next => cases h
  | setSubId c =>
    simp only [step] at h
    split at h
    next hc =>
      cases h
      exact .setSubId hc
    next => cases h
  | setAddress c =>
    simp only [step] at h
    split at h
    next hc =>
      cases h
      exact .setAddress hc
    next => cases h
  | write c env =>
    simp only [step] at h
    split at h
    next hc =>
      split at h
      next hok =>
        cases h
        exact .write hc hok
      next err herr =>
        cases h
        exact .writeFailed hc herr
    next => cases h
  | wake c =>
    simp only [step] at h
    split at h
    next hc =>
      split at h
      next hr =>
        cases h
        exact .wait hc hr
      next hr =>
        cases h
        exact .take hc hr (.inl rfl)
    next => cases h
  | timeout c =>
    simp only [step] at h
    split at h
    next hc =>
      split at h
      next hr =>
        cases h
        exact .timeOut hc hr
      next hr =>
        cases h
        exact .take hc hr (.inr rfl)
    next => cases h
  | report r =>
    cases h
    exact .report

end Logid.Backend.Hidpp.Device
