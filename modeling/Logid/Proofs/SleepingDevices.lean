import Logid.Receiver

/-!
# Whether a sleeping device is forgotten

An attempt that times out registers a waiter for its index and returns, and the handler that ran it
then erases the waiter of the index. A sleeping device keeps its waiter exactly in the runs in
which no handler erases at an index whose device is asleep.
-/

namespace Logid.Receiver

open Logid.Backend
open Logid.Backend.Hidpp (DeviceIndex)
open Logid.Backend.Hidpp10.ReceiverMonitor

variable {ω : Type}

/-- An attempt for the index is queued or running. -/
def RetryPending (s : State ω) (i : DeviceIndex) : Prop :=
  (∃ event tries, .add event tries ∈ s.tasks ∧ event.index = i) ∨
    ∃ w event tries, s.workers w = .adding event tries ∧ event.index = i

/-- Every sleeping device has a waiter or an attempt to come. -/
def NeverForgotten (s : State ω) : Prop :=
  ∀ i, s.asleep i = true → s.waiters i = true ∨ RetryPending s i

/-- Every sleeping device has a waiter. -/
def WaiterKept (s : State ω) : Prop := ∀ i, s.asleep i = true → s.waiters i = true

/-- No handler erases the waiter of a sleeping device. -/
def ErasesAwake (s : State ω) (a : Label ω) : Prop :=
  ∀ w i, a = .erase w → s.workers w = .erasing i → s.asleep i = false

theorem WaiterKept.neverForgotten {s : State ω} (hs : WaiterKept s) : NeverForgotten s :=
  fun i hi => .inl (hs i hi)

theorem waiterKept_record {s : State ω} (hs : WaiterKept s) (i : DeviceIndex) (r : Attempt) :
    WaiterKept (record s i r) := by
  intro j hj
  cases r with
  | unchanged => exact hs j hj
  | added =>
    apply hs j
    by_cases hji : j = i
    · simp [record, hji] at hj
    · simpa [record, hji] using hj
  | timedOut =>
    simp only [record, waitForDevice_apply, Bool.or_eq_true, decide_eq_true_eq]
    by_cases hji : j = i
    · exact .inr hji
    · refine .inl (hs j ?_)
      by_cases hd : s.devices i
      · simpa [record, hd] using hj
      · simpa [record, hd, hji] using hj

variable [DecidableEq ω]

/-- The next report from an index with a waiter queues an attempt. -/
theorem report_queues {s t : State ω} {i : DeviceIndex} (hs : s.waiters i = true)
    (h : step s (.report i) = some t) : t.tasks = s.tasks ++ [.add (wakeEvent i) 0] := by
  simp only [step, hs, if_true, Option.some.injEq] at h
  rw [← h]

theorem waiterKept_step {s t : State ω} {a : Label ω} (hs : WaiterKept s)
    (h : step s a = some t) : WaiterKept t ↔ ErasesAwake s a := by
  cases step_transition h with
  | queue _ waiters asleep label =>
    refine ⟨fun _ w i ha => absurd ha (label w), fun _ i hi => ?_⟩
    rw [asleep] at hi
    rw [waiters]
    exact hs i hi
  | @attempt w env event tries r adding result =>
    refine ⟨fun _ v i ha => by simp at ha, fun _ => ?_⟩
    exact waiterKept_record hs event.index r
  | @erase w index erasing =>
    constructor
    · intro hkept v i heq hv
      cases heq
      rw [erasing, Worker.erasing.injEq] at hv
      by_contra hasleep
      have hwaiter := hkept i (by simpa [setWorker] using hasleep)
      simp [eraseWaiter_apply, hv] at hwaiter
    · intro hawake i hi
      have hne : i ≠ index := by
        intro heq
        subst heq
        have hfalse := hawake w i rfl erasing
        simp only [setWorker] at hi
        rw [hfalse] at hi
        cases hi
      simp only [eraseWaiter_apply, Bool.and_eq_true, decide_eq_true_eq]
      exact ⟨hs i hi, hne⟩
  | @remove w index removing =>
    refine ⟨fun _ v i ha => by simp at ha, fun _ i hi => ?_⟩
    apply hs i
    by_cases hii : i = index
    · simp [hii] at hi
    · simpa [setWorker, hii] using hi

/-- A device whose attempt timed out keeps its waiter all along a run, until it is added or
removed, exactly if no handler erases at the index of a sleeping device; then no such device is
ever forgotten, and its next report queues another attempt. -/
theorem sleeping_device_kept_iff (as : List (Label ω)) :
    (machine.Always WaiterKept machine.init as ↔ machine.Meets ErasesAwake machine.init as) ∧
    (machine.Meets ErasesAwake machine.init as →
      machine.Always (fun s => NeverForgotten s ∧ ∀ i t, s.asleep i = true →
        step s (.report i) = some t → .add (wakeEvent i) 0 ∈ t.tasks) machine.init as) := by
  have hiff : machine.Always WaiterKept machine.init as ↔
      machine.Meets ErasesAwake machine.init as :=
    Machine.always_iff_meets (J := fun _ => True) (fun _ _ _ _ _ _ _ => trivial)
      (fun _ _ _ _ hs h => waiterKept_step hs h) trivial (fun i h => nomatch h)
  refine ⟨hiff, fun hmeets => Machine.Always.imp ?_ (hiff.mpr hmeets)⟩
  intro s hs
  refine ⟨hs.neverForgotten, fun i t hi h => ?_⟩
  rw [report_queues (hs i hi) h]
  simp

/-- The attempt for index 1 times out and registers a waiter, which its handler erases: no waiter,
no attempt to come, and the next report from the device changes nothing. -/
theorem sleeping_device_forgotten :
    ∃ s : State Unit, machine.Reachable s ∧ s.asleep 1 = true ∧ ¬ NeverForgotten s ∧
      step s (.report 1) = some s := by
  have hs : machine.Reachable _ :=
    ⟨[.connected { index := 1, linkEstablished := true }, .start () 0,
      .attempt () { probe := .error .timeout }, .erase ()], rfl⟩
  refine ⟨_, hs, rfl, ?_, rfl⟩
  intro h
  rcases h 1 rfl with hwaiter | ⟨event, tries, hmem, -⟩ | ⟨w, event, tries, hw, -⟩
  · cases hwaiter
  · cases hmem
  · cases hw

end Logid.Receiver
