import Logid.DeviceEvents

/-!
# The status follows the last event where the tasks are in order

The link state and the battery are each a value that the tasks update. The last event received is the
latest update, and it stays the one that counts as long as no task puts an older one in its place.
-/

namespace Logid.DeviceEvents

open Backend
open Backend.Hidpp10 (DeviceConnectionEvent)
open Backend.Hidpp10.ReceiverMonitor (Attempt addHandler wakeEvent)

/-! ## What a task does to the device -/

/-- The parts of the status that handling a connection event leaves alone. -/
structure Unchanged (s x : Shared) : Prop where
  battery : x.battery = s.battery
  received : x.received = s.received
  connection : x.connection = s.connection
  broadcast : x.broadcast = s.broadcast ∨ x.broadcast = none

theorem sleep_unchanged (s : Shared) : Unchanged s (sleep s) := by
  unfold sleep
  split
  · exact ⟨rfl, rfl, rfl, .inl rfl⟩
  · exact ⟨rfl, rfl, rfl, .inl rfl⟩

theorem wakeup_unchanged (s : Shared) (reconfigured : Reconfigured) :
    Unchanged s (wakeup s reconfigured) := by
  cases reconfigured with
  | done =>
    simp only [wakeup]
    split
    · exact ⟨rfl, rfl, rfl, .inr rfl⟩
    · exact ⟨rfl, rfl, rfl, .inr rfl⟩
  | relocks => exact ⟨rfl, rfl, rfl, .inl rfl⟩
  | throws e => exact ⟨rfl, rfl, rfl, .inl rfl⟩

theorem changeLink_unchanged (device : Added) (s : Shared) (event : DeviceConnectionEvent)
    (reconfigured : Reconfigured) : Unchanged s (changeLink device s event reconfigured) := by
  unfold changeLink
  split
  · exact ⟨rfl, rfl, rfl, .inl rfl⟩
  · split
    · exact wakeup_unchanged s reconfigured
    · exact sleep_unchanged s

@[simp] theorem sleep_awake (s : Shared) : (sleep s).awake = false := by
  unfold sleep
  split
  next => rfl
  next h => simpa using h

@[simp] theorem wakeup_done_awake (s : Shared) : (wakeup s .done).awake = true := by
  simp only [wakeup]
  split
  next h => exact h
  next => rfl

theorem wakeup_awake {s : Shared} {reconfigured : Reconfigured} (h : reconfigured ≠ .done) :
    (wakeup s reconfigured).awake = s.awake := by
  cases reconfigured with
  | done => exact absurd rfl h
  | relocks => rfl
  | throws e => rfl

/-- An event sets the link state to its own or leaves it. -/
theorem changeLink_awake (device : Added) (s : Shared) (event : DeviceConnectionEvent)
    (reconfigured : Reconfigured) :
    (changeLink device s event reconfigured).awake = event.linkEstablished ∨
      (changeLink device s event reconfigured).awake = s.awake := by
  unfold changeLink
  split
  · exact .inr rfl
  · split
    next hlink =>
      rw [hlink]
      by_cases hdone : reconfigured = .done
      · subst hdone
        exact .inl (wakeup_done_awake s)
      · exact .inr (wakeup_awake hdone)
    next hlink =>
      rw [Bool.not_eq_true] at hlink
      rw [hlink]
      exact .inl (sleep_awake s)

/-- An ignored event, or a link established where the reconfiguration does not end, leaves it. -/
theorem changeLink_awake_kept {device : Added} {s : Shared} {event : DeviceConnectionEvent}
    {reconfigured : Reconfigured}
    (h : event.pid ∈ device.ignore ∨ event.linkEstablished = true ∧ reconfigured ≠ .done) :
    (changeLink device s event reconfigured).awake = s.awake := by
  unfold changeLink
  split
  · rfl
  next hnot =>
    rcases h with hignored | ⟨hlink, hdone⟩
    · exact absurd hignored hnot
    · rw [if_pos hlink]
      exact wakeup_awake hdone

theorem changeLink_lost {device : Added} {s : Shared} {event : DeviceConnectionEvent}
    {reconfigured : Reconfigured} (hpid : event.pid ∉ device.ignore)
    (hlink : event.linkEstablished = false) :
    (changeLink device s event reconfigured).awake = false := by
  unfold changeLink
  rw [if_neg hpid, hlink]
  exact sleep_awake s

theorem changeLink_established {device : Added} {s : Shared} {event : DeviceConnectionEvent}
    (hpid : event.pid ∉ device.ignore) (hlink : event.linkEstablished = true) :
    (changeLink device s event .done).awake = true := by
  unfold changeLink
  rw [if_neg hpid, if_pos hlink]
  exact wakeup_done_awake s

/-- What is left of `_addHandler`. -/
theorem handleConnection_spec {device : Added} {s x : Shared} {event : DeviceConnectionEvent}
    {tries : Nat} {task retry : Task} {reconfigured : Reconfigured} {new : List Task}
    {rest : Option Task}
    (h : handleConnection device s event tries task retry reconfigured = some (x, new, rest)) :
    x.awake = (changeLink device s event reconfigured).awake ∧ Unchanged s x ∧
      ∀ task' ∈ new ++ rest.toList, task' = task ∨ task' = retry ∨ task' = .erase := by
  have hkept := changeLink_unchanged device s event reconfigured
  simp only [handleConnection] at h
  split at h
  · cases h
    exact ⟨rfl, hkept, by simp⟩
  · split at h
    · cases h
    · cases h
      exact ⟨rfl, ⟨hkept.battery, hkept.received, hkept.connection, hkept.broadcast⟩, by simp⟩
    · cases h
      exact ⟨rfl, hkept, by simp⟩
    · cases h
      exact ⟨rfl, hkept, by simp⟩
    · cases h
      exact ⟨rfl, hkept, by simp⟩

/-- A task that waits for ever is left. -/
theorem handleConnection_relocks {device : Added} {s x : Shared} {event : DeviceConnectionEvent}
    {tries : Nat} {task retry : Task} {new : List Task} {rest : Option Task}
    (hpid : event.pid ∉ device.ignore) (hlink : event.linkEstablished = true)
    (h : handleConnection device s event tries task retry .relocks = some (x, new, rest)) :
    rest = some task := by
  have hstuck : (changeLink device s event .relocks).stuck = true := by
    unfold changeLink
    rw [if_neg hpid, if_pos hlink]
    rfl
  simp only [handleConnection, hstuck, if_true] at h
  cases h
  rfl

/-- A device that is not ready gets another try. -/
theorem handleConnection_notReady {device : Added} {s x : Shared} {event : DeviceConnectionEvent}
    {tries : Nat} {task retry : Task} {new : List Task} {rest : Option Task}
    (hstuck : s.stuck = false) (hpid : event.pid ∉ device.ignore)
    (hlink : event.linkEstablished = true) (htries : tries ≠ maxTries)
    (h : handleConnection device s event tries task retry (.throws .deviceNotReady) =
      some (x, new, rest)) :
    new = [retry] := by
  have hsame : changeLink device s event (.throws .deviceNotReady) = s := by
    unfold changeLink
    rw [if_neg hpid, if_pos hlink]
    rfl
  have hadd : Receiver.addDevice
      { ignore := device.ignore, wakeup := Reconfigured.result (.throws .deviceNotReady) } true
      event = .error .deviceNotReady := by
    unfold Receiver.addDevice Receiver.tryAddDevice
    rw [if_neg hpid, if_pos rfl, if_pos hlink]
    rfl
  simp only [handleConnection, hsame, hstuck, hadd, addHandler, handleAttempt, if_neg htries] at h
  cases h
  rfl

/-- The tasks that are not for a connection event. -/
theorem act_unchanged {device : Added} {s x : Shared} {task : Task} {reconfigured : Reconfigured}
    {new : List Task} {rest : Option Task} (h : act device s task reconfigured = some (x, new, rest)) :
    x.received = s.received ∧ x.connection = s.connection ∧
      (x.broadcast = s.broadcast ∨ x.broadcast = none) := by
  cases task with
  | connection number linkEstablished tries =>
    simp only [act] at h
    split at h
    · cases h
    · have hkept := (handleConnection_spec h).2.1
      exact ⟨hkept.received, hkept.connection, hkept.broadcast⟩
  | wake tries =>
    simp only [act] at h
    split at h
    · cases h
    · have hkept := (handleConnection_spec h).2.1
      exact ⟨hkept.received, hkept.connection, hkept.broadcast⟩
  | erase =>
    cases h
    exact ⟨rfl, rfl, .inl rfl⟩
  | setBattery number battery =>
    simp only [act] at h
    split at h
    · cases h
    · cases h
      exact ⟨rfl, rfl, .inl rfl⟩

/-- What is left of a task carries the updates that the task carries. -/
theorem act_left {device : Added} {s x : Shared} {task : Task} {reconfigured : Reconfigured}
    {new : List Task} {rest : Option Task} (h : act device s task reconfigured = some (x, new, rest)) :
    ∀ task' ∈ new ++ rest.toList,
      (task'.connectionUpdate = none ∨ task'.connectionUpdate = task.connectionUpdate) ∧
        task'.batteryUpdate = none := by
  intro task' htask'
  cases task with
  | connection number linkEstablished tries =>
    simp only [act] at h
    split at h
    · cases h
    · rcases (handleConnection_spec h).2.2 task' htask' with rfl | rfl | rfl
      · exact ⟨.inr rfl, rfl⟩
      · exact ⟨.inr rfl, rfl⟩
      · exact ⟨.inl rfl, rfl⟩
  | wake tries =>
    simp only [act] at h
    split at h
    · cases h
    · rcases (handleConnection_spec h).2.2 task' htask' with rfl | rfl | rfl
      · exact ⟨.inl rfl, rfl⟩
      · exact ⟨.inl rfl, rfl⟩
      · exact ⟨.inl rfl, rfl⟩
  | erase =>
    cases h
    cases htask'
  | setBattery number battery =>
    simp only [act] at h
    split at h
    · cases h
    · cases h
      cases htask'

/-! ## The two values that the tasks update -/

/-- No task that a waiter queues carries an update. -/
theorem wake_update {s : Shared} {task : Task} (h : task ∈ if s.waiting then [Task.wake 0] else []) :
    task.connectionUpdate = none ∧ task.batteryUpdate = none := by
  split at h
  · rw [List.mem_singleton] at h
    subst h
    exact ⟨rfl, rfl⟩
  · cases h

theorem connection_updates (device : Added) :
    (system device).Updates Task.connectionUpdate Shared.received Shared.connection
      Shared.awake where
  outside := by
    intro s event x new h
    cases event with
    | connection linkEstablished =>
      cases h
      exact ⟨rfl, .inr ⟨linkEstablished, Nat.lt_succ_self _, rfl, by simp [Task.connectionUpdate]⟩⟩
    | battery battery =>
      cases h
      refine ⟨rfl, .inl ⟨Nat.le_succ _, rfl, ?_⟩⟩
      intro task htask
      rcases List.mem_cons.mp htask with rfl | htask
      · rfl
      · exact (wake_update htask).1
    | report =>
      cases h
      exact ⟨rfl, .inl ⟨Nat.le_refl _, rfl, fun task htask => (wake_update htask).1⟩⟩
  act := by
    intro s task e x new rest h
    obtain ⟨hreceived, hconnection, -⟩ := act_unchanged h
    exact ⟨hreceived, .inl hconnection, fun task' htask' => (act_left h task' htask').1⟩

theorem battery_updates (device : Added) :
    (system device).Updates Task.batteryUpdate Shared.received Shared.broadcast
      Shared.battery where
  outside := by
    intro s event x new h
    cases event with
    | connection linkEstablished =>
      cases h
      refine ⟨rfl, .inl ⟨Nat.le_succ _, rfl, ?_⟩⟩
      intro task htask
      rw [List.mem_singleton] at htask
      subst htask
      rfl
    | battery battery =>
      cases h
      refine ⟨rfl, .inr ⟨battery, Nat.lt_succ_self _, rfl, ⟨_, List.mem_cons_self, rfl⟩, ?_⟩⟩
      intro task htask
      rcases List.mem_cons.mp htask with rfl | htask
      · exact .inr rfl
      · exact .inl (wake_update htask).2
    | report =>
      cases h
      exact ⟨rfl, .inl ⟨Nat.le_refl _, rfl, fun task htask => (wake_update htask).2⟩⟩
  act := by
    intro s task e x new rest h
    obtain ⟨hreceived, -, hbroadcast⟩ := act_unchanged h
    exact ⟨hreceived, hbroadcast, fun task' htask' => .inl (act_left h task' htask').2⟩

/-- The task of the last connection event sets the link state to that of the event, or is left. -/
theorem last_keeps {device : Added} {s : State} {x : Shared} {number tries : Nat} {last : Bool}
    {reconfigured : Reconfigured} {new : List Task} {rest : Option Task}
    (hstuck : s.shared.stuck = false)
    (horder : last = true → LastSucceeds s tries reconfigured)
    (h : handleConnection device s.shared (device.connectionEvent last) tries
      (.connection number last tries) (.connection number last (tries + 1)) reconfigured =
        some (x, new, rest)) :
    x.awake = last ∨
      ∃ task ∈ new ++ rest.toList, task.connectionUpdate = some (number, last) := by
  have hpid : (device.connectionEvent last).pid ∉ device.ignore := device.notIgnored
  have hawake := (handleConnection_spec h).1
  cases last with
  | false =>
    rw [hawake, changeLink_lost hpid rfl]
    exact .inl rfl
  | true =>
    cases reconfigured with
    | done =>
      rw [hawake, changeLink_established hpid rfl]
      exact .inl rfl
    | relocks =>
      rw [handleConnection_relocks hpid rfl h]
      exact .inr ⟨_, List.mem_append_right _ (List.mem_singleton_self _), rfl⟩
    | throws e =>
      rcases horder rfl e rfl with ⟨rfl, htries⟩ | hactive
      · rw [handleConnection_notReady hstuck hpid rfl htries h]
        exact .inr ⟨_, List.mem_append_left _ (List.mem_singleton_self _), rfl⟩
      · rw [hawake, changeLink_awake_kept (.inr ⟨rfl, by simp⟩)]
        exact .inl hactive

/-- Another event leaves the link state as it is, sets it to the last one, or comes before it. -/
theorem earlier_keeps {device : Added} {s : State} {x : Shared} {event : DeviceConnectionEvent}
    {tries number : Nat} {last : Bool} {task retry : Task} {reconfigured : Reconfigured}
    {new : List Task} {rest : Option Task} (hother : task.connectionUpdate ≠ some (number, last))
    (horder : MayReplace Task.connectionUpdate s number last event.linkEstablished ∨
      event.pid ∈ device.ignore ∨ event.linkEstablished = true ∧ reconfigured ≠ .done)
    (h : handleConnection device s.shared event tries task retry reconfigured =
      some (x, new, rest)) :
    JobSystem.Keeps Task.connectionUpdate Shared.awake s task x (new ++ rest.toList) number last := by
  have hawake := (handleConnection_spec h).1
  rcases horder with (hwaiting | hsame) | hkept
  · exact .inr (.inr ⟨hother, .inl hwaiting⟩)
  · rcases changeLink_awake device s.shared event reconfigured with hset | hkept
    · exact .inl (by rw [hawake, hset, hsame])
    · exact .inr (.inr ⟨hother, .inr (by rw [hawake, hkept])⟩)
  · exact .inr (.inr ⟨hother, .inr (by rw [hawake, changeLink_awake_kept hkept])⟩)

/-- The link state after a task that is in order. -/
theorem link_keeps {device : Added} {s : State} {x : Shared} {task : Task}
    {reconfigured : Reconfigured} {new : List Task} {rest : Option Task} {number : Nat}
    {last : Bool} (hnumbered : ∀ n v, task.connectionUpdate = some (n, v) →
      ∀ w, s.shared.connection = some (n, w) → w = v)
    (hlast : s.shared.connection = some (number, last))
    (horder : LinkInOrder device s number last task reconfigured)
    (h : act device s.shared task reconfigured = some (x, new, rest)) :
    JobSystem.Keeps Task.connectionUpdate Shared.awake s task x (new ++ rest.toList) number last := by
  cases task with
  | connection n linkEstablished tries =>
    simp only [act] at h
    split at h
    · cases h
    next hstuck =>
    rw [Bool.not_eq_true] at hstuck
    simp only [LinkInOrder] at horder
    split at horder
    next hn =>
      subst hn
      have hsame : last = linkEstablished := hnumbered n linkEstablished rfl last hlast
      subst hsame
      rcases last_keeps hstuck horder h with hset | hleft
      · exact .inl hset
      · exact .inr (.inl hleft)
    next hn =>
      apply earlier_keeps _ _ h
      · intro heq
        cases heq
        exact hn rfl
      · rcases horder with hreplace | hkept
        · exact .inl hreplace
        · exact .inr (.inr hkept)
  | wake tries =>
    simp only [act] at h
    split at h
    · cases h
    apply earlier_keeps _ _ h
    · intro heq
      cases heq
    · rcases horder with hreplace | hdone | hignored
      · exact .inl hreplace
      · exact .inr (.inr ⟨rfl, hdone⟩)
      · exact .inr (.inl hignored)
  | erase =>
    cases h
    exact .inr (.inr ⟨by simp [Task.connectionUpdate], .inr rfl⟩)
  | setBattery n battery =>
    simp only [act] at h
    split at h
    · cases h
    · cases h
      exact .inr (.inr ⟨by simp [Task.connectionUpdate], .inr rfl⟩)

/-- The battery after a task that is in order. -/
theorem battery_keeps {device : Added} {s : State} {x : Shared} {task : Task}
    {reconfigured : Reconfigured} {new : List Task} {rest : Option Task} {number : Nat}
    {last : Battery} (hnumbered : ∀ n v, task.batteryUpdate = some (n, v) →
      ∀ w, s.shared.broadcast = some (n, w) → w = v)
    (hlast : s.shared.broadcast = some (number, last))
    (horder : BatteryInOrder s number last task)
    (h : act device s.shared task reconfigured = some (x, new, rest)) :
    JobSystem.Keeps Task.batteryUpdate Shared.battery s task x (new ++ rest.toList) number last := by
  have hnone : task.batteryUpdate = none → x.battery = s.shared.battery →
      JobSystem.Keeps Task.batteryUpdate Shared.battery s task x (new ++ rest.toList) number last := by
    intro hnone hbattery
    exact .inr (.inr ⟨by simp [hnone], .inr hbattery⟩)
  cases task with
  | connection n linkEstablished tries =>
    simp only [act] at h
    split at h
    · cases h
    · exact hnone rfl (handleConnection_spec h).2.1.battery
  | wake tries =>
    simp only [act] at h
    split at h
    · cases h
    · exact hnone rfl (handleConnection_spec h).2.1.battery
  | erase =>
    cases h
    exact hnone rfl rfl
  | setBattery n battery =>
    simp only [act] at h
    split at h
    · cases h
    cases h
    by_cases hn : n = number
    · subst hn
      exact .inl (hnumbered n battery rfl last hlast).symm
    · rcases horder with heq | hwaiting | hsame
      · exact absurd heq hn
      · refine .inr (.inr ⟨?_, .inl hwaiting⟩)
        intro heq
        cases heq
        exact hn rfl
      · exact .inl hsame

/-! ## Runs -/

structure Invariant (s : State) : Prop where
  connection : JobSystem.Latest Task.connectionUpdate Shared.received Shared.connection
    Shared.awake s
  broadcast : JobSystem.Latest Task.batteryUpdate Shared.received Shared.broadcast
    Shared.battery s

theorem invariant_step {device : Added} {workers : Nat} {s t : State} {a : Label}
    (h : Invariant s) (horder : InOrder device s a)
    (hstep : (system device).step workers s a = some t) : Invariant t where
  connection := by
    apply h.connection.step (connection_updates device) hstep
    intro i e task x new rest heq hruns hresult number last hlast
    subst heq
    rw [(act_unchanged hresult).2.1] at hlast
    refine link_keeps ?_ hlast ((horder task hruns).1 number last hlast) hresult
    intro n v hv
    exact (h.connection.numbered task (JobSystem.State.mem_jobs_of_running hruns) n v hv).2
  broadcast := by
    apply h.broadcast.step (battery_updates device) hstep
    intro i e task x new rest heq hruns hresult number last hlast
    subst heq
    rcases (act_unchanged hresult).2.2 with hsame | hnone
    · rw [hsame] at hlast
      refine battery_keeps ?_ hlast ((horder task hruns).2 number last hlast) hresult
      intro n v hv
      exact (h.broadcast.numbered task (JobSystem.State.mem_jobs_of_running hruns) n v hv).2
    · rw [hnone] at hlast
      cases hlast

theorem followsLastEvent_of_invariant {s : State} (h : Invariant s) : FollowsLastEvent s :=
  fun hquiet =>
    ⟨fun _ _ hlast => h.connection.quiet hquiet hlast,
      fun _ _ hlast => h.broadcast.quiet hquiet hlast⟩

/-- The status follows the last event in a run in which no task of an earlier event changes it after
the task of the last one. -/
theorem followsLastEvent_of_inOrder (device : Added) (workers : Nat) (battery : Battery)
    (as : List Label)
    (h : (machine device workers battery).Meets (InOrder device)
      (machine device workers battery).init as) :
    (machine device workers battery).Always FollowsLastEvent
      (machine device workers battery).init as :=
  Machine.always_of_meets (fun _ => followsLastEvent_of_invariant)
    (fun _ _ _ hi hc hstep => invariant_step hi hc hstep)
    ⟨JobSystem.latest_init workers rfl, JobSystem.latest_init workers rfl⟩ h

def mouse : Added := { index := 1, pid := 0x4069, ignore := [], notIgnored := by decide }

/-- The link is lost while the battery reports, and both tasks are run in turn. -/
def oneByOne (battery : Battery) : List Label := [
  .outside (.connection false), .outside (.battery battery), .start 0, .start 0,
  .act 1 .done, .act 0 .done, .act 0 .done]

theorem followsLastEvent_oneByOne :
    (machine mouse 2 ⟨0, false, false⟩).Always FollowsLastEvent
      (machine mouse 2 ⟨0, false, false⟩).init (oneByOne ⟨80, false, true⟩) := by
  apply followsLastEvent_of_inOrder
  refine .cons rfl trivial (.cons rfl trivial (.cons rfl trivial (.cons rfl trivial ?_)))
  refine .cons rfl ?_ (.cons rfl ?_ (.cons rfl ?_ trivial))
  · intro task htask
    cases htask
    refine ⟨fun _ _ _ => trivial, fun number last hlast => ?_⟩
    cases hlast
    exact .inl rfl
  · intro task htask
    cases htask
    refine ⟨fun number last hlast => ?_, fun _ _ _ => trivial⟩
    cases hlast
    intro hlink
    cases hlink
  · intro task htask
    cases htask
    exact ⟨fun _ _ _ => trivial, fun _ _ _ => trivial⟩

/-- The link is lost and established again; the worker with the first task is the slower one. -/
def overtaken : List Label := [
  .outside (.connection false), .outside (.connection true), .start 0, .start 0,
  .act 1 .done, .act 0 .done, .act 0 .done, .act 0 .done]

theorem overtaken_stays_asleep :
    ¬ (machine mouse 2 ⟨0, false, false⟩).Always FollowsLastEvent
      (machine mouse 2 ⟨0, false, false⟩).init overtaken := by
  intro h
  rw [← List.append_nil overtaken] at h
  have hend := h.of_run rfl
  have hawake := (hend ⟨rfl, rfl⟩).1 1 true rfl
  cases hawake

end Logid.DeviceEvents
