import Logid.Misc.Jobs

/-!
# Making a device

Rendering of `Device::make` (`Device.cpp:62-95`) with the loop of `_init` over the features
(`Device.cpp:174-177`), of the reports that the features listen to, and of the methods that notify
through `_ipc_interface`: `sleep`, `wakeup` and `setBattery` (`Device.cpp:188-218`). The thread that
makes the device, the thread that reads its reports and the workers run at the same time.
-/

namespace Logid.DeviceMake

/-- The features, in the order of their names in `_features`. -/
inductive Feature where
  | deviceBattery
  | deviceStatus
  | dpi
  | hiresScroll
  | remapButton
  | smartShift
  | thumbWheel
  deriving DecidableEq, Repr

/-- Where `Device::make` is. -/
inductive Phase where
  /-- In the loop of `_init`; the first of the features is configured next. -/
  | configure (todo : List Feature)
  /-- The feature is configured and listens next. -/
  | listen (feature : Feature) (todo : List Feature)
  /-- The constructor has returned, `_ipc_interface` is null. -/
  | constructed
  | published
  /-- A feature threw; the object is gone. -/
  | failed
  deriving DecidableEq, Repr

structure Shared where
  phase : Phase
  /-- The features with an event handler. -/
  listening : List Feature
  awake : Bool
  /-- `_state_lock` is held for ever: `wakeup` has locked it again in `setBattery`. -/
  stuck : Bool
  /-- A method was called on the null pointer `_ipc_interface`. -/
  nullCall : Bool
  deriving DecidableEq, Repr

def Shared.published (s : Shared) : Bool := s.phase == .published

/-- `_ipc_interface->notifyStatus()` and `notifyBattery()` -/
def Shared.notify (s : Shared) : Shared :=
  if s.published then s else { s with nullCall := true }

/-- The tasks that the handlers of reports queue. -/
inductive Task where
  | setBattery
  | wakeup
  deriving DecidableEq, Repr

/-- How `reconfigure` ends. -/
inductive Reconfigured where
  | done
  /-- `DeviceBattery::configure` has read the status and locks `_state_lock` again. -/
  | relocks
  | throws
  deriving DecidableEq, Repr

/-- `Device::sleep`; `none` while it waits for `_state_lock`. -/
def sleep (s : Shared) : Option Shared :=
  if s.stuck then none
  else if s.awake then some (Shared.notify { s with awake := false })
  else some s

/-- `Device::wakeup` -/
def wakeup (s : Shared) (reconfigured : Reconfigured) : Option Shared :=
  if s.stuck then none
  else
    match reconfigured with
    | .relocks => some { s with stuck := true }
    | .throws => some s
    | .done => if s.awake then some s else some (Shared.notify { s with awake := true })

/-- `Device::setBattery` with `notify` -/
def setBattery (s : Shared) : Option Shared := if s.stuck then none else some s.notify

inductive Event where
  /-- `configure` of the next feature, which may throw. -/
  | configure (throws : Bool)
  /-- `listen` of that feature. -/
  | listen
  /-- `make_interface` -/
  | publish
  | batteryBroadcast
  | statusBroadcast (reconfNeeded : Bool)
  /-- A receiver that has the device calls it. -/
  | sleep
  | wakeup (reconfigured : Reconfigured)
  deriving DecidableEq, Repr

def outside (s : Shared) : Event → Option (Shared × List Task)
  | .configure throws =>
    match s.phase with
    | .configure [] => some ({ s with phase := .constructed }, [])
    | .configure (feature :: todo) =>
      -- `DeviceBattery::configure` sets the battery without a notification and catches all exceptions
      if feature = .deviceBattery then
        if s.stuck then none else some ({ s with phase := .listen feature todo }, [])
      else if throws then some ({ s with phase := .failed, listening := [] }, [])
      else some ({ s with phase := .listen feature todo }, [])
    | _ => none
  | .listen =>
    match s.phase with
    | .listen feature todo =>
      some ({ s with phase := .configure todo, listening := feature :: s.listening }, [])
    | _ => none
  | .publish =>
    match s.phase with
    | .constructed => some ({ s with phase := .published }, [])
    | _ => none
  | .batteryBroadcast =>
    if .deviceBattery ∈ s.listening then some (s, [.setBattery]) else some (s, [])
  | .statusBroadcast reconfNeeded =>
    if .deviceStatus ∈ s.listening ∧ reconfNeeded then some (s, [.wakeup]) else some (s, [])
  | .sleep => if s.published then (sleep s).map fun s' => (s', []) else none
  | .wakeup reconfigured =>
    if s.published then (wakeup s reconfigured).map fun s' => (s', []) else none

def act (s : Shared) (task : Task) (reconfigured : Reconfigured) :
    Option (Shared × List Task × Option Task) :=
  -- `self_weak.lock()` gives null
  if s.phase = .failed then some (s, [], none)
  else
    match task with
    | .setBattery => (setBattery s).map fun s' => (s', [], none)
    | .wakeup => (wakeup s reconfigured).map fun s' => (s', [], if s'.stuck then some task else none)

def system : JobSystem Shared Task Event Reconfigured where
  outside := outside
  act := act

abbrev State := JobSystem.State Shared Task

abbrev Label := JobSystem.Label Event Reconfigured

/-- A device with these features, at the beginning of the loop. -/
def machine (features : List Feature) (workers : Nat) : Machine State Label :=
  system.machine workers {
    phase := .configure features, listening := [], awake := true, stuck := false, nullCall := false }

/-- No method was called on a null `_ipc_interface`. -/
def NoNullCall (s : State) : Prop := s.shared.nullCall = false

/-- No task of a battery broadcast runs between the `listen` of `DeviceBattery` and the creation of
the interface. -/
def BatteryAfterPublication (s : State) : Label → Prop
  | .act i _ => s.running[i]? = some .setBattery →
      s.shared.phase = .published ∨ s.shared.phase = .failed
  | _ => True

/-! ## The device is awake until it is published -/

theorem notify_nullCall {s : Shared} (h : s.nullCall = false) :
    s.notify.nullCall = false ↔ s.phase = .published := by
  unfold Shared.notify Shared.published
  split
  next hp => simpa [h] using hp
  next hp => simpa using hp

@[simp] theorem notify_phase (s : Shared) : s.notify.phase = s.phase := by
  unfold Shared.notify
  split <;> rfl

@[simp] theorem notify_awake (s : Shared) : s.notify.awake = s.awake := by
  unfold Shared.notify
  split <;> rfl

/-- A device sleeps only once it is published. -/
def AwakeBefore (s : Shared) : Prop := s.phase ≠ .published → s.awake = true

theorem wakeup_spec {s t : Shared} {reconfigured : Reconfigured} (hawake : AwakeBefore s)
    (hnull : s.nullCall = false) (h : wakeup s reconfigured = some t) :
    t.nullCall = false ∧ AwakeBefore t := by
  unfold wakeup at h
  split at h
  · cases h
  · cases reconfigured with
    | relocks =>
      cases h
      exact ⟨hnull, hawake⟩
    | throws =>
      cases h
      exact ⟨hnull, hawake⟩
    | done =>
      dsimp only at h
      split at h
      next =>
        cases h
        exact ⟨hnull, hawake⟩
      next hasleep =>
        cases h
        have hpublished : s.phase = .published := by
          by_contra hne
          exact hasleep (hawake hne)
        refine ⟨(notify_nullCall (s := { s with awake := true }) hnull).mpr hpublished, ?_⟩
        intro _
        rw [notify_awake]

theorem sleep_spec {s t : Shared} (hpublished : s.phase = .published)
    (hnull : s.nullCall = false) (h : sleep s = some t) :
    t.nullCall = false ∧ AwakeBefore t := by
  have hnever : ∀ u : Shared, u.phase = .published → AwakeBefore u :=
    fun u hu hne => absurd hu hne
  unfold sleep at h
  split at h
  · cases h
  · split at h
    · cases h
      refine ⟨(notify_nullCall (s := { s with awake := false }) hnull).mpr hpublished, hnever _ ?_⟩
      rw [notify_phase]
      exact hpublished
    · cases h
      exact ⟨hnull, hnever _ hpublished⟩

/-- The steps of `make` and the reports call nothing on the interface, and the others come after the
publication. -/
theorem outside_spec {s x : Shared} {event : Event} {new : List Task} (hawake : AwakeBefore s)
    (hnull : s.nullCall = false) (h : outside s event = some (x, new)) :
    x.nullCall = false ∧ AwakeBefore x := by
  have hkeep : ∀ phase listening, s.phase ≠ .published →
      AwakeBefore { s with phase := phase, listening := listening } := by
    intro phase listening hne _
    exact hawake hne
  cases event with
  | configure throws =>
    simp only [outside] at h
    split at h
    next hphase =>
      cases h
      exact ⟨hnull, hkeep _ _ (by simp [hphase])⟩
    next hphase =>
      split at h
      · split at h
        · cases h
        · cases h
          exact ⟨hnull, hkeep _ _ (by simp [hphase])⟩
      · split at h <;>
        · cases h
          exact ⟨hnull, hkeep _ _ (by simp [hphase])⟩
    next => cases h
  | listen =>
    simp only [outside] at h
    split at h
    next hphase =>
      cases h
      exact ⟨hnull, hkeep _ _ (by simp [hphase])⟩
    next => cases h
  | publish =>
    simp only [outside] at h
    split at h
    next =>
      cases h
      exact ⟨hnull, fun hne => absurd rfl hne⟩
    next => cases h
  | batteryBroadcast =>
    simp only [outside] at h
    split at h <;>
    · cases h
      exact ⟨hnull, hawake⟩
  | statusBroadcast reconfNeeded =>
    simp only [outside] at h
    split at h <;>
    · cases h
      exact ⟨hnull, hawake⟩
  | sleep =>
    simp only [outside] at h
    split at h
    next hpublished =>
      obtain ⟨t, ht, heq⟩ := Option.map_eq_some_iff.mp h
      cases heq
      exact sleep_spec (by simpa [Shared.published] using hpublished) hnull ht
    next => cases h
  | wakeup reconfigured =>
    simp only [outside] at h
    split at h
    next =>
      obtain ⟨t, ht, heq⟩ := Option.map_eq_some_iff.mp h
      cases heq
      exact wakeup_spec hawake hnull ht
    next => cases h

/-- A task calls a null interface exactly if it is that of a battery broadcast and the interface is
not made yet. -/
theorem act_spec {s x : Shared} {task : Task} {reconfigured : Reconfigured} {new : List Task}
    {rest : Option Task} (hawake : AwakeBefore s) (hnull : s.nullCall = false)
    (h : act s task reconfigured = some (x, new, rest)) :
    (x.nullCall = false ↔ (task = .setBattery → s.phase = .published ∨ s.phase = .failed)) ∧
      AwakeBefore x := by
  unfold act at h
  split at h
  next hfailed =>
    cases h
    exact ⟨iff_of_true hnull fun _ => .inr hfailed, hawake⟩
  next hfailed =>
    cases task with
    | setBattery =>
      obtain ⟨t, ht, heq⟩ := Option.map_eq_some_iff.mp h
      cases heq
      unfold setBattery at ht
      split at ht
      · cases ht
      · cases ht
        refine ⟨(notify_nullCall hnull).trans ?_, ?_⟩
        · simp [hfailed]
        · intro hne
          rw [notify_phase] at hne
          rw [notify_awake]
          exact hawake hne
    | wakeup =>
      obtain ⟨t, ht, heq⟩ := Option.map_eq_some_iff.mp h
      cases heq
      obtain ⟨hcall, hbefore⟩ := wakeup_spec hawake hnull ht
      exact ⟨iff_of_true hcall (by simp), hbefore⟩

theorem step_spec {workers : Nat} {s t : State} {a : Label} (hawake : AwakeBefore s.shared)
    (hnull : NoNullCall s) (h : system.step workers s a = some t) :
    (NoNullCall t ↔ BatteryAfterPublication s a) ∧ AwakeBefore t.shared := by
  cases JobSystem.step_transition h with
  | outside hresult hshared _ =>
    subst hshared
    obtain ⟨hcall, hbefore⟩ := outside_spec hawake hnull hresult
    exact ⟨iff_of_true hcall trivial, hbefore⟩
  | start hshared _ =>
    rw [NoNullCall, hshared]
    exact ⟨iff_of_true hnull trivial, hawake⟩
  | act hruns hresult hshared _ _ =>
    subst hshared
    obtain ⟨hcall, hbefore⟩ := act_spec hawake hnull hresult
    refine ⟨hcall.trans ?_, hbefore⟩
    rw [BatteryAfterPublication, hruns, Option.some_inj]

/-- Whatever features the device has, the interface is set whenever a method is called on it exactly
in the runs in which no battery broadcast is handled before `Device::make` has made it. -/
theorem noNullCall_iff (features : List Feature) (workers : Nat) (as : List Label) :
    (machine features workers).Always NoNullCall (machine features workers).init as ↔
      (machine features workers).Meets BatteryAfterPublication (machine features workers).init as := by
  have hkeep : ∀ s a t, AwakeBefore s.shared → NoNullCall s →
      (machine features workers).step s a = some t → NoNullCall t → AwakeBefore t.shared :=
    fun s a t hawake hnull hstep _ => (step_spec hawake hnull hstep).2
  have hiff : ∀ s a t, AwakeBefore s.shared → NoNullCall s →
      (machine features workers).step s a = some t →
        (NoNullCall t ↔ BatteryAfterPublication s a) :=
    fun s a t hawake hnull hstep => (step_spec hawake hnull hstep).1
  exact Machine.always_iff_meets hkeep hiff (fun _ => rfl) rfl

/-- The battery reports its state while the next feature is still to be configured. -/
def earlyBroadcast : List Label := [
  .outside (.configure false), .outside .listen, .outside .batteryBroadcast, .start 0,
  .act 0 .done]

theorem earlyBroadcast_calls_null :
    ¬ (machine [.deviceBattery, .smartShift] 2).Always NoNullCall
      (machine [.deviceBattery, .smartShift] 2).init earlyBroadcast := by
  intro h
  rw [← List.append_nil earlyBroadcast] at h
  have hend := h.of_run rfl
  cases hend

end Logid.DeviceMake
