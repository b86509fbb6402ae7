import Mathlib.Logic.Function.Basic
import Logid.Misc.Machine
import Logid.Backend.Hidpp.Report
import Logid.Backend.Raw.RawDevice

/-!
# Requests multiplexed over response slots

`hidpp20::Device::sendReport` (`backend/hidpp20/Device.cpp:86-119`) and
`hidpp10::Device::sendReport` (`backend/hidpp10/Device.cpp:65-93`) are one algorithm: wait until the
slot of the request is free, mark it, write, wait for the response with a time-out, free the slot.
They differ in the byte that a request is matched by, in the number of slots and in
`responseReport`, which is what `ResponseMux` holds.

A step of the machine is one critical section under `_response_mutex`. Any number of threads (the
type `ι`) call `sendReport`; a label says which of them moves and what the kernel answers to its
write. A waiting thread may wake without being notified, as a condition variable allows.
-/

namespace Logid.Backend.Hidpp

open Logid.Backend.Raw (Errno WriteEnv)

/-- `ResponseSlot`; `key` is the member `feature` of the one class and `sub_id` of the other. -/
structure ResponseSlot (ε : Type) where
  response : Option (Report ⊕ ε) := none
  key : Option UInt8 := none
  deriving DecidableEq

/-- `ResponseSlot::reset`. -/
def ResponseSlot.reset {ε : Type} (_ : ResponseSlot ε) : ResponseSlot ε := {}

abbrev ResponseSlots (ε : Type) (n : Nat) := Fin n → ResponseSlot ε

/-- How a call of `sendReport` ends. -/
inductive Exit (ε : Type) where
  | returned (report : Report)
  /-- `throw Error(error.error_code, error.device_index)` -/
  | error (err : ε)
  /-- `throw TimeoutError()` -/
  | timeout
  /-- The `std::system_error` of the write, which nothing on the way catches. -/
  | writeFailed (err : Errno)
  deriving DecidableEq

/-- The variant stored in the slot, returned or thrown. -/
def Exit.ofResponse {ε : Type} : Report ⊕ ε → Exit ε
  | .inl report => .returned report
  | .inr err => .error err

/-- Where a thread stands in `sendReport`. -/
inductive Caller (ε : Type) where
  | idle
  /-- In the first `wait`, for the slot; `notified` is set by `notify_all`. -/
  | queued (request : Report) (notified : Bool)
  /-- In `wait_for`, the request written. -/
  | waiting (request : Report)
  | done (request : Report) (exit : Exit ε)
  deriving DecidableEq

def Caller.notify {ε : Type} : Caller ε → Caller ε
  | .queued request _ => .queued request true
  | caller => caller

/-- A class with response slots. -/
structure ResponseMux (ε : Type) (n : Nat) where
  /-- The byte of a request stored in its slot. -/
  key : Report → UInt8
  index : UInt8 → Fin n
  /-- The data reports that can be the reply to a request. -/
  IsReply : Report → Prop
  /-- `none` when the C++ returns `false`. -/
  responseReport : ResponseSlots ε n → Report → Option (ResponseSlots ε n)
  /-- An accepted report is stored in one slot that is marked, and a data report only in the slot
  of a request with its key. -/
  stores : ∀ {slots slots' : ResponseSlots ε n} {report : Report},
    responseReport slots report = some slots' →
      ∃ i k response, (slots i).key = some k ∧
        slots' = Function.update slots i { slots i with response := some response } ∧
        ∀ data, response = .inl data → data = report ∧ k = key report ∧ IsReply report

namespace ResponseMux

/-- The slots under `_response_mutex` and the threads that use them. -/
structure State (ε : Type) (n : Nat) (ι : Type) where
  slots : ResponseSlots ε n
  callers : ι → Caller ε

inductive Label (ι : Type) where
  /-- Thread `c` calls `sendReport(request)`; `env` answers its write, should it get to it. -/
  | call (c : ι) (request : Report) (env : WriteEnv)
  /-- Thread `c` returns from a `wait` and tests its predicate. -/
  | wake (c : ι) (env : WriteEnv)
  /-- The `io_timeout` of thread `c` has passed. -/
  | timeout (c : ι)
  /-- The I/O thread runs `responseReport(report)`. -/
  | report (report : Report)

variable {ε : Type} {n : Nat} {ι : Type} [DecidableEq ι] (m : ResponseMux ε n)

/-- The index of `response_slot` in `sendReport`. -/
def slotOf (request : Report) : Fin n := m.index (m.key request)

/-- Mark the slot and write: from the end of the first wait to the second. -/
def acquire (s : State ε n ι) (c : ι) (request : Report) (env : WriteEnv) : State ε n ι :=
  let i := m.slotOf request
  { slots := Function.update s.slots i { s.slots i with key := some (m.key request) }
    callers := Function.update s.callers c <|
      match Raw.sendReport env with
      | .ok () => .waiting request
      | .error err => .done request (.writeFailed err) }

/-- One test of the first wait's predicate. -/
def awaitSlot (s : State ε n ι) (c : ι) (request : Report) (env : WriteEnv) : State ε n ι :=
  if (s.slots (m.slotOf request)).key.isNone then m.acquire s c request env
  else { s with callers := Function.update s.callers c (.queued request false) }

/-- Free the slot and leave. -/
def leave (s : State ε n ι) (c : ι) (request : Report) (exit : Exit ε) : State ε n ι :=
  let i := m.slotOf request
  { slots := Function.update s.slots i (s.slots i).reset
    callers := Function.update s.callers c (.done request exit) }

/-- `notify_all` on the condition variable that every wait uses. -/
def notifyAll (callers : ι → Caller ε) : ι → Caller ε := fun c => (callers c).notify

def step (s : State ε n ι) : Label ι → Option (State ε n ι)
  | .call c request env =>
    match s.callers c with
    | .idle | .done .. => some (m.awaitSlot s c request env)
    | .queued .. | .waiting .. => none
  | .wake c env =>
    match s.callers c with
    | .queued request _ => some (m.awaitSlot s c request env)
    | .waiting request =>
      match (s.slots (m.slotOf request)).response with
      | none => some s
      | some response => some (m.leave s c request (.ofResponse response))
    | .idle | .done .. => none
  | .timeout c =>
    match s.callers c with
    | .waiting request =>
      -- `wait_for` tests its predicate once more when the time is over
      match (s.slots (m.slotOf request)).response with
      | none => some (m.leave s c request .timeout)
      | some response => some (m.leave s c request (.ofResponse response))
    | .idle | .done .. | .queued .. => none
  | .report report =>
    match m.responseReport s.slots report with
    | none => some s
    | some slots => some { slots := slots, callers := notifyAll s.callers }

/-- All slots free, nobody calling. -/
def machine : Machine (State ε n ι) (Label ι) where
  init := { slots := fun _ => {}, callers := fun _ => .idle }
  step := m.step

/-- Thread `c` is about to test the first predicate for `request`: it just called, or it wakes. -/
inductive Tries (s : State ε n ι) (c : ι) (request : Report) (env : WriteEnv) :
    Label ι → Prop where
  | call (h : ∀ r b, s.callers c ≠ .queued r b) (h' : ∀ r, s.callers c ≠ .waiting r) :
      Tries s c request env (.call c request env)
  | wake {notified : Bool} (h : s.callers c = .queued request notified) :
      Tries s c request env (.wake c env)

/-- What a step can do. -/
inductive Transition (s : State ε n ι) : Label ι → State ε n ι → Prop where
  | queue {a : Label ι} {c request env k} (try_ : Tries s c request env a)
      (busy : (s.slots (m.slotOf request)).key = some k) :
      Transition s a { s with callers := Function.update s.callers c (.queued request false) }
  | acquire {a : Label ι} {c request env} (try_ : Tries s c request env a)
      (free : (s.slots (m.slotOf request)).key = none) :
      Transition s a (m.acquire s c request env)
  | answered {a : Label ι} {c request response} (wait : s.callers c = .waiting request)
      (stored : (s.slots (m.slotOf request)).response = some response)
      (label : a = .timeout c ∨ ∃ env, a = .wake c env) :
      Transition s a (m.leave s c request (.ofResponse response))
  | timedOut {c request} (wait : s.callers c = .waiting request)
      (empty : (s.slots (m.slotOf request)).response = none) :
      Transition s (.timeout c) (m.leave s c request .timeout)
  | wait {c request env} (wait : s.callers c = .waiting request)
      (empty : (s.slots (m.slotOf request)).response = none) :
      Transition s (.wake c env) s
  | ignored {report : Report} (h : m.responseReport s.slots report = none) :
      Transition s (.report report) s
  | stored {report : Report} {slots : ResponseSlots ε n}
      (h : m.responseReport s.slots report = some slots) :
      Transition s (.report report) { slots := slots, callers := notifyAll s.callers }

theorem awaitSlot_transition {s : State ε n ι} {a : Label ι} {c : ι} {request : Report}
    {env : WriteEnv} (h : Tries s c request env a) :
    m.Transition s a (m.awaitSlot s c request env) := by
  unfold awaitSlot
  cases hk : (s.slots (m.slotOf request)).key with
  | none => exact .acquire h hk
  | some k => exact .queue h hk

theorem step_transition {s t : State ε n ι} {a : Label ι} (h : m.step s a = some t) :
    m.Transition s a t := by
  cases a with
  | call c request env =>
    simp only [step] at h
    split at h
    next hc =>
      cases h
      exact m.awaitSlot_transition (.call (by simp [hc]) (by simp [hc]))
    next hc =>
      cases h
      exact m.awaitSlot_transition (.call (by simp [hc]) (by simp [hc]))
    next => cases h
    next => cases h
  | wake c env =>
    simp only [step] at h
    split at h
    next hc =>
      cases h
      exact m.awaitSlot_transition (.wake hc)
    next hc =>
      split at h
      next hr =>
        cases h
        exact .wait hc hr
      next hr =>
        cases h
        exact .answered hc hr (.inr ⟨_, rfl⟩)
    next => cases h
    next => cases h
  | timeout c =>
    simp only [step] at h
    split at h
    next hc =>
      split at h
      next hr =>
        cases h
        exact .timedOut hc hr
      next hr =>
        cases h
        exact .answered hc hr (.inl rfl)
    next => cases h
    next => cases h
    next => cases h
  | report r =>
    simp only [step] at h
    split at h
    next hr =>
      cases h
      exact .ignored hr
    next hr =>
      cases h
      exact .stored hr

end ResponseMux

end Logid.Backend.Hidpp
