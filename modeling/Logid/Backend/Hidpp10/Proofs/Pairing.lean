import Logid.Backend.Hidpp10.Pairing

/-!
# What still happens after a stop

`_stopPair` leaves nothing for the handlers to do, but it does not recall the task that a completed
discovery has queued. So after its return all is quiet exactly if no such task is left.
-/

namespace Logid.Backend.Hidpp10.Pairing

open Logid.Backend.Hidpp (Report)

/-- While `_stopPair` is on its way nothing is being paired, and after it until the next start. -/
def Stopping (s : Session) : Prop :=
  ∀ command, s.call = some (.stopPair command) → s.pairState = .notPairing

/-- A report changes nothing while nothing is being paired. -/
theorem handleEvent_idle {s : Session} (h : s.pairState = .notPairing) (report : Report) :
    handleEvent s report = s := by
  simp [handleEvent, onDiscovered, onPasskey, onDiscoveryStatus, onPairStatus, h]

@[simp] theorem call_onDiscovered (s : Session) (report : Report) :
    (onDiscovered s report).call = s.call := by
  simp only [onDiscovered]
  split
  · split <;> rfl
  · rfl

@[simp] theorem call_onPasskey (s : Session) (report : Report) :
    (onPasskey s report).call = s.call := by
  unfold onPasskey
  split <;> rfl

@[simp] theorem call_onDiscoveryStatus (s : Session) (discovering : Bool) :
    (onDiscoveryStatus s discovering).call = s.call := by
  unfold onDiscoveryStatus
  split <;> rfl

@[simp] theorem call_onPairStatus (s : Session) (pairing : Bool) :
    (onPairStatus s pairing).call = s.call := by
  unfold onPairStatus
  split <;> rfl

/-- The handlers leave the methods' calls alone. -/
@[simp] theorem call_handleEvent (s : Session) (report : Report) :
    (handleEvent s report).call = s.call := by
  simp only [handleEvent, apply_ite Session.call, call_onDiscovered, call_onPasskey,
    call_onDiscoveryStatus, call_onPairStatus, ite_self]

/-- What a step does; a call that returns and one that throws both end. -/
inductive StepKind (s : Session) : Label → Session → Prop
  | started {t : Session} (timeout : UInt8) (ht : t = startPair s timeout) :
      StepKind s (.startPair timeout) t
  | stopped {t : Session} (ht : t = stopPair s) : StepKind s .stopPair t
  | sent {t : Session} (call : Call) (command : Command) (hcall : s.call = some call)
      (hcommand : call.command = some command)
      (ht : t = { s with commands := s.commands ++ [command], call := some call.sent }) :
      StepKind s .send t
  | ended {t : Session} {a : Label} (ht : t = { s with call := none }) : StepKind s a t
  | handled {t : Session} (report : Report) (ht : t = handleEvent s report) :
      StepKind s (.report report) t
  | ranTask {t : Session} (n : Nat) (discovery : DeviceDiscoveryEvent)
      (htask : s.tasks[n]? = some discovery)
      (ht : t = { s with
        tasks := s.tasks.eraseIdx n
        commands := s.commands ++ [.startBoltPairing discovery] }) :
      StepKind s (.runTask n) t

theorem stepKind {s t : Session} {a : Label} (hstep : step s a = some t) : StepKind s a t := by
  cases a with
  | startPair timeout =>
    simp only [step, Option.ite_none_right_eq_some, Option.some_inj] at hstep
    exact .started timeout hstep.2.symm
  | stopPair =>
    simp only [step, Option.ite_none_right_eq_some, Option.some_inj] at hstep
    exact .stopped hstep.2.symm
  | send =>
    simp only [step, Option.bind_eq_bind, Option.bind_eq_some_iff, Option.pure_def,
      Option.some_inj] at hstep
    obtain ⟨call, hcall, command, hcommand, ht⟩ := hstep
    exact .sent call command hcall hcommand ht.symm
  | startReturned | stopReturned =>
    simp only [step, Option.ite_none_right_eq_some, Option.some_inj] at hstep
    exact .ended hstep.2.symm
  | callThrew =>
    simp only [step, Option.bind_eq_bind, Option.bind_eq_some_iff, Option.pure_def,
      Option.some_inj] at hstep
    obtain ⟨call, -, ht⟩ := hstep
    exact .ended ht.symm
  | report report =>
    cases hstep
    exact .handled report rfl
  | runTask n =>
    simp only [step, Option.bind_eq_bind, Option.bind_eq_some_iff, Option.pure_def,
      Option.some_inj] at hstep
    obtain ⟨discovery, htask, ht⟩ := hstep
    exact .ranTask n discovery htask ht.symm

theorem stopping_step {s t : Session} {a : Label} (h : Stopping s) (hstep : step s a = some t) :
    Stopping t := by
  intro command hcall
  cases stepKind hstep with
  | started timeout ht =>
    subst ht
    cases hcall
  | stopped ht =>
    subst ht
    rfl
  | sent call sent hbefore hcommand ht =>
    subst ht
    cases call with
    | startPair => cases hcall
    | stopPair before => exact h before hbefore
  | ended ht =>
    subst ht
    cases hcall
  | handled report ht =>
    rw [ht, call_handleEvent] at hcall
    have hidle := h command hcall
    rw [ht, handleEvent_idle hidle]
    exact hidle
  | ranTask n discovery htask ht =>
    subst ht
    exact h command hcall

theorem stopping_init (bolt : Bool) : Stopping (machine bolt).init := by
  intro command hcall
  cases hcall

theorem stopping {bolt : Bool} {s : Session} (hs : (machine bolt).Reachable s) : Stopping s :=
  Machine.invariant (stopping_init bolt) (fun _ a _ h hstep => stopping_step (a := a) h hstep) hs

/-- Nothing is being paired, no task is queued and no call has a command to send. -/
structure Idle (s : Session) : Prop where
  pairState : s.pairState = .notPairing
  tasks : s.tasks = []
  call : ∀ call, s.call = some call → call.command = none

/-- Only a start ends the idleness, and until then nothing is sent or emitted. -/
theorem Idle.step {s t : Session} {a : Label} (h : Idle s) (ha : ¬a.IsStart)
    (hstep : step s a = some t) :
    Idle t ∧ t.commands = s.commands ∧ t.signals = s.signals := by
  cases stepKind hstep with
  | started timeout ht => exact absurd trivial ha
  | stopped ht =>
    subst ht
    refine ⟨⟨rfl, h.tasks, ?_⟩, rfl, rfl⟩
    rintro call ⟨rfl⟩
    exact congrArg stopCommand h.pairState
  | sent call command hcall hcommand ht =>
    rw [h.call call hcall] at hcommand
    cases hcommand
  | ended ht =>
    subst ht
    exact ⟨⟨h.pairState, h.tasks, nofun⟩, rfl, rfl⟩
  | handled report ht =>
    rw [handleEvent_idle h.pairState] at ht
    subst ht
    exact ⟨h, rfl, rfl⟩
  | ranTask n discovery htask ht =>
    rw [h.tasks] at htask
    cases htask

theorem Idle.quietFrom {bolt : Bool} {s : Session} (h : Idle s) : QuietFrom bolt s := by
  intro as t has hrun
  have hkept : Idle t ∧ t.commands = s.commands ∧ t.signals = s.signals := by
    refine Machine.run_invariant_of (F := fun a => ¬Label.IsStart a)
      (I := fun u => Idle u ∧ u.commands = s.commands ∧ u.signals = s.signals) ?_ has
      ⟨h, rfl, rfl⟩ hrun
    rintro u a v ha ⟨hidle, hcommands, hsignals⟩ hstep
    obtain ⟨hnext, hsame, hquiet⟩ := hidle.step ha hstep
    exact ⟨hnext, hsame.trans hcommands, hquiet.trans hsignals⟩
  obtain ⟨-, hcommands, hsignals⟩ := hkept
  exact ⟨congrArg (List.filterMap Command.discovery?) hcommands, hsignals⟩

/-- A queued task runs whether or not it was stopped. -/
theorem not_quietFrom_of_tasks {bolt : Bool} {s : Session} (h : s.tasks ≠ []) :
    ¬QuietFrom bolt s := by
  obtain ⟨discovery, tasks, htasks⟩ := List.exists_cons_of_ne_nil h
  have hrun : (machine bolt).run s [.runTask 0] = some { s with
      tasks := tasks
      commands := s.commands ++ [.startBoltPairing discovery] } := by
    simp [machine, step, htasks]
  intro hquiet
  have hpairings := (hquiet [.runTask 0] _ (by simp [Label.IsStart]) hrun).1
  simp [Session.pairings, Command.discovery?] at hpairings

/-- Once `_stopPair` has returned, nothing is paired and no `PairReady` is emitted until the next
start, whatever happens, exactly if no task was queued when it returned. -/
theorem stopPair_quietFrom_iff (bolt : Bool) {s t : Session} (hs : (machine bolt).Reachable s)
    (hreturned : (machine bolt).step s .stopReturned = some t) :
    QuietFrom bolt t ↔ s.tasks = [] := by
  simp only [machine, step, Option.ite_none_right_eq_some, Option.some_inj] at hreturned
  obtain ⟨hcall, hreturned⟩ := hreturned
  have hpairState : s.pairState = .notPairing := stopping hs none hcall
  have htasks : t.tasks = s.tasks := by rw [← hreturned]
  rw [← htasks]
  constructor
  · intro hquiet
    by_contra hne
    exact not_quietFrom_of_tasks hne hquiet
  · intro hnil
    have hidle : Idle t := by
      refine ⟨?_, hnil, ?_⟩
      · rw [← hreturned]
        exact hpairState
      · rw [← hreturned]
        exact nofun
    exact hidle.quietFrom

/-- A discovery that was stopped before any device was found. -/
theorem earlyStop_quietFrom :
    QuietFrom true { bolt := true, commands := [.startDiscover 30, .stopDiscover] } :=
  (stopPair_quietFrom_iff true
    (s := { bolt := true, call := some (.stopPair none),
            commands := [.startDiscover 30, .stopDiscover] })
    ⟨[.startPair 30, .send, .startReturned, .stopPair, .send], by decide⟩ (by decide)).mpr rfl

/-- A receiver of the other kind only ever pairs what it finds itself. -/
structure Unifying (s : Session) : Prop where
  bolt : s.bolt = false
  not_discovering : s.pairState ≠ .discovering
  not_findingPasskey : s.pairState ≠ .findingPasskey
  tasks : s.tasks = []

theorem Unifying.handleEvent {s : Session} (h : Unifying s) (report : Report) :
    handleEvent s report = s ∨ handleEvent s report = { s with pairState := .notPairing } := by
  simp only [Pairing.handleEvent, onDiscovered, if_neg h.not_discovering, onPasskey,
    if_neg h.not_findingPasskey, onDiscoveryStatus, onPairStatus]
  split_ifs <;> simp

theorem Unifying.step {s t : Session} {a : Label} (h : Unifying s) (hstep : step s a = some t) :
    Unifying t := by
  cases stepKind hstep with
  | started timeout ht =>
    subst ht
    exact ⟨h.bolt, by simp [startPair, h.bolt], by simp [startPair, h.bolt], h.tasks⟩
  | stopped ht =>
    subst ht
    exact ⟨h.bolt, nofun, nofun, h.tasks⟩
  | sent call command hcall hcommand ht =>
    subst ht
    exact ⟨h.bolt, h.not_discovering, h.not_findingPasskey, h.tasks⟩
  | ended ht =>
    subst ht
    exact ⟨h.bolt, h.not_discovering, h.not_findingPasskey, h.tasks⟩
  | handled report ht =>
    rcases h.handleEvent report with heq | heq
    · rw [ht, heq]
      exact h
    · rw [ht, heq]
      exact ⟨h.bolt, nofun, nofun, h.tasks⟩
  | ranTask n discovery htask ht =>
    rw [h.tasks] at htask
    cases htask

/-- No task is ever queued for a receiver that is not a Bolt one. -/
theorem unifying_tasks {s : Session} (hs : (machine false).Reachable s) : s.tasks = [] := by
  have hinit : Unifying (machine false).init := ⟨rfl, nofun, nofun, rfl⟩
  exact (Machine.invariant hinit (fun _ a _ h hstep => h.step (a := a) hstep) hs).tasks

/-- A report of the receiver with the sequence number 1. -/
def discovered (params : List UInt8) : Report :=
  (Report.ofSubId .long 0xff Receiver.deviceDiscovered 1).copyParams params

/-- A device is found, and the user stops before the queued task has run. -/
def stopAfterDiscovery : List Label :=
  [.startPair 30, .send, .startReturned,
    .report (discovered [0, 0, 0, 2, 0x34, 0xb0, 1, 2, 3, 4, 5, 6, 0, 0, 1]),
    .report (discovered [0, 1, 2, 0x4d, 0x58]), .stopPair, .send, .stopReturned]

theorem stopAfterDiscovery_pairs :
    ∃ t, (machine true).run (machine true).init stopAfterDiscovery = some t ∧
      ¬QuietFrom true t := by
  have hrun : ((machine true).run (machine true).init stopAfterDiscovery).map
      (fun s => s.tasks.length) = some 1 := by decide
  obtain ⟨t, ht, hlength⟩ := Option.map_eq_some_iff.mp hrun
  refine ⟨t, ht, not_quietFrom_of_tasks ?_⟩
  intro hnil
  rw [hnil] at hlength
  cases hlength

end Logid.Backend.Hidpp10.Pairing
