import Logid.Backend.Hidpp.Proofs.ReplyMatching
import Logid.Backend.Hidpp.Proofs.SlotLifecycle
import Logid.Backend.Hidpp10.Device
import Logid.Backend.Hidpp20.Device

/-!
# Requests to HID++ 1.0 and 2.0 devices

The results of the slot machine for its two instances, `hidpp10::Device` and `hidpp20::Device`:
which reply a call returns, on which exits it frees its slot, and whether a thread queued for the
slot is woken.
-/

namespace Logid.Backend

open Hidpp ResponseMux
open Hidpp10 (subIdCount)
open Hidpp20 (responseCount)
open Hidpp10.Device (accessRegisterRequest)
open Hidpp20.Device (callFunctionRequest)

theorem callFunctionRequest_header {index : DeviceIndex} {f fn : UInt8} {params : List UInt8}
    {request : Report} (h : callFunctionRequest index f fn params = .ok request) :
    request.feature = f ∧ request.function = fn &&& 0x0f := by
  unfold callFunctionRequest at h
  split at h
  next =>
    cases h
    simp
  next =>
    split at h
    next =>
      cases h
      simp
    next => cases h

theorem accessRegisterRequest_header (index : DeviceIndex) (subId address : UInt8)
    (params : List UInt8) :
    (accessRegisterRequest index subId address params).subId = subId ∧
      (accessRegisterRequest index subId address params).address = address := by
  simp [accessRegisterRequest, Hidpp10.setupRegReport]

/-- The two replies of a HID++ 2.0 device to be told apart: of the same function or not. -/
def SameFunction (reply request : Report) : Prop := reply.function = request.function

/-- The same for a HID++ 1.0 device: of the same register or not. -/
def SameRegister (reply request : Report) : Prop := reply.address = request.address

/-- In a run in which no reply for another function (register) arrives while a request on the same
feature (with the same sub id) is pending, a function call returns a report of its feature and
function, and a register access one of its sub id and register. -/
theorem returned_report_matches {ι : Type} [DecidableEq ι] :
    (∀ (as : List (Label ι)) (s : State Hidpp20Error responseCount ι),
      (machine Hidpp20.Device.mux).Meets (Hidpp20.Device.mux.Solicited SameFunction)
        (machine Hidpp20.Device.mux).init as →
      (machine Hidpp20.Device.mux).run (machine Hidpp20.Device.mux).init as = some s →
      ∀ c index f fn params request report, fn ≤ 0x0f →
        callFunctionRequest index f fn params = .ok request →
        s.callers c = .done request (.returned report) →
        report.feature = f ∧ report.function = fn) ∧
    (∀ (as : List (Label ι)) (s : State Hidpp10Error subIdCount ι),
      (machine Hidpp10.Device.mux).Meets (Hidpp10.Device.mux.Solicited SameRegister)
        (machine Hidpp10.Device.mux).init as →
      (machine Hidpp10.Device.mux).run (machine Hidpp10.Device.mux).init as = some s →
      ∀ c index subId address params report,
        s.callers c =
          .done (accessRegisterRequest index subId address params) (.returned report) →
        report.subId = subId ∧ report.address = address) := by
  refine ⟨?_, ?_⟩
  · intro as s hmeets hrun c index f fn params request report hfn hrequest hc
    have hall := always_matches hmeets
    rw [← List.append_nil as] at hall
    obtain ⟨hfeature, hfunction⟩ := hall.of_run hrun c request report hc
    obtain ⟨hf, hn⟩ := callFunctionRequest_header hrequest
    refine ⟨hfeature.trans hf, ?_⟩
    rw [show report.function = request.function from hfunction, hn, Report.and_nibble hfn]
  · intro as s hmeets hrun c index subId address params report hc
    have hall := always_matches hmeets
    rw [← List.append_nil as] at hall
    obtain ⟨hsub, haddress⟩ := hall.of_run hrun c _ report hc
    obtain ⟨hs, ha⟩ := accessRegisterRequest_header index subId address params
    exact ⟨Eq.trans hsub hs, Eq.trans haddress ha⟩

/-- A call of function 1 of feature 1 and its reply. -/
def answeredCall : List (Label Unit) :=
  [.call () ((Report.ofFeature .short wirelessDevice1 1 1 softwareID).copyParams []) {},
    .report (Report.ofFeature .long wirelessDevice1 1 1 softwareID), .wake () {}]

theorem answered_call_matches :
    ∃ s request report,
      (machine Hidpp20.Device.mux).run (machine Hidpp20.Device.mux).init answeredCall = some s ∧
      callFunctionRequest wirelessDevice1 1 1 [] = .ok request ∧
      s.callers () = .done request (.returned report) ∧
      report.feature = 1 ∧ report.function = 1 := by
  have hmeets : (machine Hidpp20.Device.mux).Meets (Hidpp20.Device.mux.Solicited SameFunction)
      (machine Hidpp20.Device.mux).init answeredCall := by
    intro _ heq
    cases heq
    refine ⟨(fun report h => nomatch h), ?_⟩
    intro _ heq
    cases heq
    refine ⟨?_, fun _ _ => ⟨(fun report h => nomatch h), trivial⟩⟩
    rintro report ⟨⟩ - c request hc -
    cases hc
    rfl
  have h := returned_report_matches.1 _ _ hmeets rfl () wirelessDevice1 1 1 [] _ _ (by decide)
    rfl rfl
  exact ⟨_, _, _, rfl, rfl, rfl, h⟩

/-- Function 0 of feature 1 times out, and its late reply is returned to a call of function 1;
likewise for the registers 0 and 2 read with one sub id. -/
theorem late_reply_returned :
    (∃ (s : State Hidpp20Error responseCount Bool) (request report : Report),
      (machine Hidpp20.Device.mux).Reachable s ∧
      callFunctionRequest wirelessDevice1 1 1 [] = .ok request ∧
      s.callers false = .done request (.returned report) ∧ report.function ≠ 1) ∧
    (∃ (s : State Hidpp10Error subIdCount Bool) (report : Report),
      (machine Hidpp10.Device.mux).Reachable s ∧
      s.callers false =
        .done (accessRegisterRequest defaultDevice 0x81 2 []) (.returned report) ∧
      report.address ≠ 2) := by
  refine ⟨⟨_, (Report.ofFeature .short wirelessDevice1 1 1 softwareID).copyParams [],
    Report.ofFeature .long wirelessDevice1 1 0 softwareID, ⟨[
      .call true (Report.ofFeature .short wirelessDevice1 1 0 softwareID) {}, .timeout true,
      .call false ((Report.ofFeature .short wirelessDevice1 1 1 softwareID).copyParams []) {},
      .report (Report.ofFeature .long wirelessDevice1 1 0 softwareID), .wake false {}], rfl⟩,
    rfl, rfl, by decide⟩, ⟨_, Report.ofSubId .short defaultDevice 0x81 0, ⟨[
      .call true (accessRegisterRequest defaultDevice 0x81 0 []) {}, .timeout true,
      .call false (accessRegisterRequest defaultDevice 0x81 2 []) {},
      .report (Report.ofSubId .short defaultDevice 0x81 0), .wake false {}], rfl⟩, rfl, by decide⟩⟩

/-- When a call of `sendReport` ends, its slot is in its initial state exactly if the write, where
the step made one, did not throw; and in that state every later request for it is written at
once. -/
theorem slot_free_after_call_iff {ι : Type} [DecidableEq ι] :
    (∀ (s t : State Hidpp20Error responseCount ι) (a : Label ι) (c : ι) (request : Report)
      (e : Exit Hidpp20Error),
      Hidpp20.Device.mux.step s a = some t → a.thread = some c → t.callers c = .done request e →
      (t.slots (Hidpp20.Device.mux.slotOf request) = {} ↔ Hidpp20.Device.mux.WriteOk s a) ∧
      (Hidpp20.Device.mux.WriteOk s a → ∀ d r env, Outside t d →
        Hidpp20.Device.mux.slotOf r = Hidpp20.Device.mux.slotOf request →
        Hidpp20.Device.mux.step t (.call d r env) =
          some (Hidpp20.Device.mux.acquire t d r env))) ∧
    (∀ (s t : State Hidpp10Error subIdCount ι) (a : Label ι) (c : ι) (request : Report)
      (e : Exit Hidpp10Error),
      Hidpp10.Device.mux.step s a = some t → a.thread = some c → t.callers c = .done request e →
      (t.slots (Hidpp10.Device.mux.slotOf request) = {} ↔ Hidpp10.Device.mux.WriteOk s a) ∧
      (Hidpp10.Device.mux.WriteOk s a → ∀ d r env, Outside t d →
        Hidpp10.Device.mux.slotOf r = Hidpp10.Device.mux.slotOf request →
        Hidpp10.Device.mux.step t (.call d r env) =
          some (Hidpp10.Device.mux.acquire t d r env))) :=
  ⟨fun _ _ _ _ _ _ h hc ht => released_of_exit h hc ht,
    fun _ _ _ _ _ _ h hc ht => released_of_exit h hc ht⟩

/-- A call of function 0 of feature 5 that nobody answers. -/
def unansweredCall : State Hidpp20Error responseCount Unit :=
  Hidpp20.Device.mux.acquire (machine Hidpp20.Device.mux).init ()
    (Report.ofFeature .short wirelessDevice1 5 0 softwareID) {}

theorem slot_free_after_timeout :
    ∃ t, Hidpp20.Device.mux.step unansweredCall (.timeout ()) = some t ∧
      t.slots (Hidpp20.Device.slotIndex 5) = {} := by
  have hstep : Hidpp20.Device.mux.step unansweredCall (.timeout ()) = some _ := rfl
  have hok : Hidpp20.Device.mux.WriteOk unansweredCall (.timeout ()) := fun env h => nomatch h
  exact ⟨_, hstep, (slot_free_after_call_iff.1 _ _ _ () _ _ hstep rfl rfl).1.mpr hok⟩

/-- The write fails with `EIO`: the call has thrown and its slot is still marked. -/
theorem slot_busy_after_write_error :
    (∃ (s : State Hidpp20Error responseCount Unit) (request : Report),
      (machine Hidpp20.Device.mux).Reachable s ∧
      s.callers () = .done request (.writeFailed 5) ∧
      s.slots (Hidpp20.Device.mux.slotOf request) ≠ {}) ∧
    (∃ (s : State Hidpp10Error subIdCount Unit) (request : Report),
      (machine Hidpp10.Device.mux).Reachable s ∧
      s.callers () = .done request (.writeFailed 5) ∧
      s.slots (Hidpp10.Device.mux.slotOf request) ≠ {}) :=
  ⟨⟨_, _, ⟨[.call () (Report.ofFeature .short wirelessDevice1 1 0 softwareID)
      { errno := fun _ => some 5 }], rfl⟩, rfl, by decide⟩,
    ⟨_, _, ⟨[.call () (accessRegisterRequest defaultDevice 0x81 0 [])
      { errno := fun _ => some 5 }], rfl⟩, rfl, by decide⟩⟩

/-- A write that throws costs its slot for good. In every run that follows nothing is in flight for
the slot, the threads that are queued for it stay queued, and each thread that calls for it queues
behind them. -/
theorem slot_lost_after_write_error {ε : Type} {n : Nat} {ι : Type} [DecidableEq ι]
    {m : ResponseMux ε n} {s t u : State ε n ι} {a : Label ι} {c : ι} {request : Report}
    {err : Raw.Errno} {as : List (Label ι)} (hs : (machine m).Reachable s)
    (h : m.step s a = some t) (hc : a.thread = some c)
    (ht : t.callers c = .done request (.writeFailed err)) (hrun : (machine m).run t as = some u) :
    (∀ d r, u.callers d = .waiting r → m.slotOf r ≠ m.slotOf request) ∧
      (∀ d r b, t.callers d = .queued r b → m.slotOf r = m.slotOf request →
        ∃ b', u.callers d = .queued r b') ∧
      ∀ d r env, Outside u d → m.slotOf r = m.slotOf request →
        ∃ v, m.step u (.call d r env) = some v ∧ v.callers d = .queued r false := by
  have hwedged := wedged_of_writeFailed (inv_reachable hs) (m.step_transition h) hc ht
  obtain ⟨hmark, hflight⟩ := wedged_run hwedged hrun
  refine ⟨?_, ?_, ?_⟩
  · intro d r hd hslot
    exact hflight ⟨d, r, hd, hslot⟩
  · intro d r b hd hslot
    let I : State ε n ι → Prop := fun v =>
      m.Wedged v (m.slotOf request) ∧ ∃ b', v.callers d = .queued r b'
    have hI : I u := by
      refine Machine.run_invariant (I := I) ?_ ⟨hwedged, b, hd⟩ hrun
      rintro v a w ⟨hv, b', hq⟩ hstep
      refine ⟨wedged_step hv hstep, ?_⟩
      exact queued_of_marked (m.step_transition hstep) (by rw [hslot]; exact hv.1) hq
    exact hI.2
  · intro d r env hd hslot
    obtain ⟨k, hk⟩ := Option.ne_none_iff_exists'.mp hmark
    have hbusy : (u.slots (m.slotOf r)).key = some k := by rw [hslot, hk]
    refine ⟨{ u with callers := Function.update u.callers d (.queued r false) }, ?_, ?_⟩
    · rcases hd with hd | ⟨r', e, hd⟩ <;> simp [step, hd, awaitSlot, hbusy]
    · exact Function.update_self ..

/-- After the failed call a second request for feature 1 never gets to its write. -/
theorem slot_lost_after_write_error_second :
    ∃ s : State Hidpp20Error responseCount Unit,
      Hidpp20.Device.mux.step (machine Hidpp20.Device.mux).init
        (.call () (Report.ofFeature .short wirelessDevice1 1 0 softwareID)
          { errno := fun _ => some 5 }) = some s ∧
      ∃ v, Hidpp20.Device.mux.step s
        (.call () (Report.ofFeature .short wirelessDevice1 1 3 softwareID) {}) = some v ∧
        v.callers () = .queued (Report.ofFeature .short wirelessDevice1 1 3 softwareID) false := by
  have hlost (u : State Hidpp20Error responseCount Unit)
      (hrun : (machine Hidpp20.Device.mux).run _ [] = some u) :=
    slot_lost_after_write_error (c := ()) (m := Hidpp20.Device.mux)
      (a := .call () (Report.ofFeature .short wirelessDevice1 1 0 softwareID)
        { errno := fun _ => some 5 }) ⟨[], rfl⟩ rfl rfl rfl hrun
  exact ⟨_, rfl, (hlost _ rfl).2.2 () _ {} (.inr ⟨_, _, rfl⟩) rfl⟩

/-- A run never leaves a thread asleep for a free slot exactly if no step of it frees a slot that
a thread sleeps for; and it never leaves all threads queued for a free slot asleep exactly if each
step that frees a slot with a sleeping thread leaves another one awake. -/
theorem no_lost_wakeup_iff {ι : Type} [DecidableEq ι] (as : List (Label ι)) :
    (((machine Hidpp20.Device.mux).Always (fun s => ¬ Hidpp20.Device.mux.LostWakeup s)
        (machine Hidpp20.Device.mux).init as ↔
      (machine Hidpp20.Device.mux).Meets Hidpp20.Device.mux.FreesUnwatched
        (machine Hidpp20.Device.mux).init as) ∧
    ((machine Hidpp20.Device.mux).Always (fun s => ¬ Hidpp20.Device.mux.Stalled s)
        (machine Hidpp20.Device.mux).init as ↔
      (machine Hidpp20.Device.mux).Meets Hidpp20.Device.mux.FreesWatched
        (machine Hidpp20.Device.mux).init as)) ∧
    (((machine Hidpp10.Device.mux).Always (fun s => ¬ Hidpp10.Device.mux.LostWakeup s)
        (machine Hidpp10.Device.mux).init as ↔
      (machine Hidpp10.Device.mux).Meets Hidpp10.Device.mux.FreesUnwatched
        (machine Hidpp10.Device.mux).init as) ∧
    ((machine Hidpp10.Device.mux).Always (fun s => ¬ Hidpp10.Device.mux.Stalled s)
        (machine Hidpp10.Device.mux).init as ↔
      (machine Hidpp10.Device.mux).Meets Hidpp10.Device.mux.FreesWatched
        (machine Hidpp10.Device.mux).init as)) :=
  ⟨⟨always_not_lostWakeup as, always_not_stalled as⟩,
    ⟨always_not_lostWakeup as, always_not_stalled as⟩⟩

private theorem stalled_of_sleeper {ε : Type} {n : Nat} {m : ResponseMux ε n} {s : State ε n Bool}
    (hs : (machine m).Reachable s) {request r : Report} {e : Exit ε}
    (hsleep : s.callers false = .queued request false) (hdone : s.callers true = .done r e)
    (hfree : (s.slots (m.slotOf request)).key = none) : m.LostWakeup s ∧ m.Stalled s := by
  have hflight := (inv_reachable hs).not_inFlight hfree
  have hq : ∃ c, m.Queued s (m.slotOf request) c false := ⟨false, request, hsleep, rfl⟩
  refine ⟨⟨_, hfree, hflight, hq⟩, ⟨_, hfree, hflight, hq, ?_⟩⟩
  intro c hex
  obtain ⟨r', hc, -⟩ := hex
  cases c with
  | false =>
    rw [hsleep] at hc
    cases hc
  | true =>
    rw [hdone] at hc
    cases hc

/-- Two threads call on one slot; the reply wakes both, the queued one first. It finds the slot
busy, sleeps again, and the other frees the slot without a notification. -/
theorem lost_wakeup_reachable :
    (∃ s : State Hidpp20Error responseCount Bool,
      (machine Hidpp20.Device.mux).Reachable s ∧ Hidpp20.Device.mux.LostWakeup s ∧
      Hidpp20.Device.mux.Stalled s) ∧
    (∃ s : State Hidpp10Error subIdCount Bool,
      (machine Hidpp10.Device.mux).Reachable s ∧ Hidpp10.Device.mux.LostWakeup s ∧
      Hidpp10.Device.mux.Stalled s) := by
  constructor
  · have hs : (machine Hidpp20.Device.mux (ι := Bool)).Reachable _ :=
      ⟨[.call true (Report.ofFeature .short wirelessDevice1 1 0 softwareID) {},
        .call false (Report.ofFeature .short wirelessDevice1 1 1 softwareID) {},
        .report (Report.ofFeature .long wirelessDevice1 1 0 softwareID),
        .wake false {}, .wake true {}], rfl⟩
    exact ⟨_, hs, stalled_of_sleeper hs rfl rfl rfl⟩
  · have hs : (machine Hidpp10.Device.mux (ι := Bool)).Reachable _ :=
      ⟨[.call true (accessRegisterRequest defaultDevice 0x81 0 []) {},
        .call false (accessRegisterRequest defaultDevice 0x81 2 []) {},
        .report (Report.ofSubId .short defaultDevice 0x81 0),
        .wake false {}, .wake true {}], rfl⟩
    exact ⟨_, hs, stalled_of_sleeper hs rfl rfl rfl⟩

end Logid.Backend
