import Logid.Misc.Tokens
import Logid.Util.Task

/-!
# When tasks are run, and how often

Every task is run exactly once in every run of the pool. It is run no earlier than its time exactly
in the runs in which a worker whose `wait_for` times out finds the queue empty or its top due: the
worker slept for the task that was on top when it went to sleep, and that task may be gone.
-/

namespace Logid.Util.Pool

variable {ι : Type}

/-- No worker has taken or called a task before its time. -/
def NotEarly (s : State ι) : Prop :=
  (∀ w task, s.workers w = .taken task → task.time ≤ s.clock) ∧ ∀ e ∈ s.log, e.1.time ≤ e.2

/-- A worker that times out while the pool runs finds the queue empty or a task that is due. -/
def TimesOutDue (s : State ι) (a : Label ι) : Prop :=
  ∀ w top, a = .timeout w top → s.run = true → s.tasks = [] ∨ ∃ task ∈ s.tasks, task.time ≤ s.clock

def Queued (s : State ι) (id : Nat) : Prop := ∃ task ∈ s.tasks, task.id = id

/-- Worker `w` has popped the task and calls it next. -/
def Held (s : State ι) (w : ι) (id : Nat) : Prop := ∃ task, s.workers w = .taken task ∧ task.id = id

def Called (s : State ι) (id : Nat) : Prop := ∃ e ∈ s.log, e.1.id = id

/-- No task was called twice, and every task that has left the queue was called, or is in the
hands of exactly one worker that is about to call it. -/
def ExactlyOnce (s : State ι) : Prop :=
  (s.log.map fun e => e.1.id).Nodup ∧ ∀ id < s.nextId, ¬ Queued s id →
    (Called s id ∧ ∀ w, ¬ Held s w id) ∨ (¬ Called s id ∧ ∃! w, Held s w id)

/-- The number of the task that a worker has popped and not yet called. -/
def taskInHand : Worker → Option Nat
  | .taken task => some task.id
  | _ => none

/-- Where the tasks scheduled so far are. -/
def ledger (s : State ι) : Ledger ι where
  queue := s.tasks.map Task.id
  hand w := taskInHand (s.workers w)
  done := s.log.map fun e => e.1.id
  next := s.nextId

theorem taskInHand_eq_none {worker : Worker} (h : ∀ task, worker ≠ .taken task) :
    taskInHand worker = none := by
  cases worker with
  | taken task => exact absurd rfl (h task)
  | _ => rfl

theorem queued_iff {s : State ι} {id : Nat} : Queued s id ↔ id ∈ (ledger s).queue := by
  simp [Queued, ledger]

theorem called_iff {s : State ι} {id : Nat} : Called s id ↔ id ∈ (ledger s).done := by
  simp [Called, ledger]

theorem held_iff {s : State ι} {w : ι} {id : Nat} :
    Held s w id ↔ (ledger s).hand w = some id := by
  simp only [Held, ledger]
  cases s.workers w <;> simp [taskInHand]

theorem exactlyOnce_of_conserved {s : State ι} (hs : (ledger s).Conserved) : ExactlyOnce s := by
  refine ⟨hs.done_nodup, fun id hid hq => ?_⟩
  rw [queued_iff] at hq
  simp only [called_iff, held_iff]
  exact hs.out_of_queue hid hq

variable [DecidableEq ι]

theorem hand_setWorker (s : State ι) (w : ι) (worker : Worker) :
    (ledger (setWorker s w worker)).hand =
      Function.update (ledger s).hand w (taskInHand worker) :=
  Function.comp_update taskInHand s.workers w worker

theorem conserved_move {s : State ι} (hs : (ledger s).Conserved) {w : ι} {worker : Worker}
    (hfrom : ∀ task, s.workers w ≠ .taken task) (hinto : ∀ task, worker ≠ .taken task) :
    (ledger (setWorker s w worker)).Conserved := by
  have hnone : taskInHand worker = (ledger s).hand w := by
    rw [taskInHand_eq_none hinto]
    exact (taskInHand_eq_none hfrom).symm
  change Ledger.Conserved { ledger s with hand := (ledger (setWorker s w worker)).hand }
  rw [hand_setWorker, hnone, Function.update_eq_self]
  exact hs

theorem conserved_take {s : State ι} (hs : (ledger s).Conserved) {w : ι} {top : Task}
    (hfrom : ∀ task, s.workers w ≠ .taken task) (htop : top ∈ s.tasks) :
    (ledger (take s w top)).Conserved := by
  have hperm := (List.perm_cons_erase htop).map Task.id
  have htake := hs.take (taskInHand_eq_none hfrom) hperm
  rw [← show taskInHand (.taken top) = some top.id from rfl, ← hand_setWorker] at htake
  exact htake

theorem conserved_call {s : State ι} (hs : (ledger s).Conserved) {w : ι} {task : Task}
    (hw : s.workers w = .taken task) :
    (ledger { setWorker s w (.running task) with
      log := s.log ++ [(task, s.clock)] }).Conserved := by
  have hhand : (ledger s).hand w = some task.id := by simp only [ledger, hw, taskInHand]
  have hcall := hs.finish hhand
  rw [← show taskInHand (.running task) = none from rfl, ← hand_setWorker] at hcall
  simp only [ledger, List.map_append, List.map_cons, List.map_nil]
  exact hcall

theorem conserved_step {s t : State ι} {a : Label ι} (hs : (ledger s).Conserved)
    (h : step s a = some t) : (ledger t).Conserved := by
  cases step_transition h with
  | tick => exact hs
  | schedule =>
    have hissue := hs.issue
    simp only [ledger, List.map_append, List.map_cons, List.map_nil] at hissue ⊢
    exact hissue
  | stopWorkers => exact hs
  | move from_ into _ _ => exact conserved_move hs from_ into
  | stay => exact hs
  | takeDue from_ top_ _ _ => exact conserved_take hs from_ top_.1
  | takeTimedOut sleeping _ _ top_ => exact conserved_take hs (by simp [sleeping]) top_.1
  | call taken => exact conserved_call hs taken

theorem notEarly_move {s : State ι} (hs : NotEarly s) {w : ι} {worker : Worker}
    (hinto : ∀ task, worker = .taken task → task.time ≤ s.clock) :
    NotEarly (setWorker s w worker) := by
  refine ⟨fun v task hv => ?_, hs.2⟩
  by_cases hvw : v = w
  · subst hvw
    exact hinto task (by simpa [setWorker] using hv)
  · exact hs.1 v task (by simpa [setWorker, hvw] using hv)

theorem notEarly_step {s t : State ι} {a : Label ι} (hs : NotEarly s) (h : step s a = some t) :
    NotEarly t ↔ TimesOutDue s a := by
  have hother : (∀ w top, a ≠ .timeout w top) → NotEarly t → (NotEarly t ↔ TimesOutDue s a) :=
    fun ha ht => ⟨fun _ w top e => absurd e (ha w top), fun _ => ht⟩
  cases step_transition h with
  | @tick d =>
    refine hother (by simp) ⟨fun w task hw => ?_, hs.2⟩
    exact Nat.le_trans (hs.1 w task hw) (Nat.le_add_right _ _)
  | schedule => exact hother (by simp) hs
  | stopWorkers => exact hother (by simp) hs
  | move from_ into timeout _ =>
    refine ⟨fun _ w top e hrun => ?_, fun _ => notEarly_move hs fun u e => absurd e (into u)⟩
    rcases timeout w top e with hstop | hempty
    · rw [hrun] at hstop
      cases hstop
    · exact .inl hempty
  | stay => exact hother (by simp) hs
  | takeDue from_ top_ due timeout =>
    refine hother timeout (notEarly_move hs ?_)
    intro u heq
    cases heq
    exact Nat.le_of_lt due
  | @takeTimedOut w top d sleeping passed run top_ =>
    constructor
    · rintro ⟨htaken, -⟩ v u - -
      refine .inr ⟨top, top_.1, htaken w top ?_⟩
      simp [take, setWorker]
    · intro hdue
      refine notEarly_move hs ?_
      intro u heq
      cases heq
      rcases hdue w top rfl run with hempty | ⟨task, htask, hle⟩
      · rw [hempty] at top_
        cases top_.1
      · exact Nat.le_trans (top_.2 task htask) hle
  | @call w task taken =>
    refine hother (by simp) ⟨(notEarly_move hs (by simp)).1, fun e he => ?_⟩
    rcases List.mem_append.mp he with he | he
    · exact hs.2 e he
    · rw [List.mem_singleton] at he
      rw [he]
      exact hs.1 w task taken

theorem always_notEarly_iff (as : List (Label ι)) :
    machine.Always NotEarly machine.init as ↔ machine.Meets TimesOutDue machine.init as :=
  Machine.always_iff_meets (J := fun _ => True) (fun _ _ _ _ _ _ _ => trivial)
    (fun _ _ _ _ hs h => notEarly_step hs h) trivial
    ⟨(fun _ _ h => nomatch h), (fun _ h => nomatch h)⟩

/-- A run takes and calls no task before its time exactly if each time-out of a worker finds the
queue empty or a task due; and in every run every task that leaves the queue is called once, the
worker that took it having no other step. -/
theorem tasks_run_on_time_iff (as : List (Label ι)) :
    (machine.Always NotEarly machine.init as ↔ machine.Meets TimesOutDue machine.init as) ∧
    ∀ s, machine.run machine.init as = some s → ExactlyOnce s ∧
      ∀ w task, s.workers w = .taken task →
        ∃ t, step s (.call w) = some t ∧ (task, s.clock) ∈ t.log := by
  refine ⟨always_notEarly_iff as, fun s hrun => ⟨?_, fun w task hw => ?_⟩⟩
  · have hconserved : (ledger s).Conserved :=
      Machine.run_invariant (I := fun s => (ledger s).Conserved)
        (fun _ _ _ hs h => conserved_step hs h) .empty hrun
    exact exactlyOnce_of_conserved hconserved
  · exact ⟨{ setWorker s w (.running task) with log := s.log ++ [(task, s.clock)] },
      by simp only [step, hw], by simp⟩

/-- Two workers sleep for the same task. One takes it; the other times out and takes the next
task, which is due 89 time units later. -/
theorem task_run_early :
    ∃ s : State Bool, machine.Reachable s ∧ ∃ e ∈ s.log, e.2 < e.1.time :=
  ⟨_, ⟨[.schedule 10, .schedule 100, .enter false ⟨0, 10⟩, .enter true ⟨0, 10⟩, .tick 11,
    .wake false ⟨0, 10⟩, .timeout true ⟨1, 100⟩, .call true], rfl⟩,
    (⟨1, 100⟩, 11), by decide, by decide⟩

/-- A worker that sleeps has a task to sleep for. -/
def SleepsForTask (s : State ι) : Prop :=
  ∀ w d, s.workers w = .sleeping d → ∃ task ∈ s.tasks, task.time ≤ d

/-- A single worker has nobody to take the task it sleeps for. -/
theorem sleepsForTask_step [Subsingleton ι] {s t : State ι} {a : Label ι} (hs : SleepsForTask s)
    (h : step s a = some t) : TimesOutDue s a ∧ SleepsForTask t := by
  constructor
  · rintro w top rfl -
    simp only [step] at h
    split at h
    next d hw =>
      split at h
      next hpassed =>
        obtain ⟨task, htask, hle⟩ := hs w d hw
        exact .inr ⟨task, htask, Nat.le_trans hle hpassed⟩
      next => cases h
    next => cases h
  · have htake : ∀ w top, SleepsForTask (take s w top) := by
      intro w top v d hv
      rw [Subsingleton.elim v w] at hv
      simp [take, setWorker] at hv
    cases step_transition h with
    | tick => exact hs
    | @schedule time =>
      intro w d hw
      obtain ⟨task, htask, hle⟩ := hs w d hw
      exact ⟨task, List.mem_append_left _ htask, hle⟩
    | stopWorkers => exact hs
    | @move _ w worker _ _ _ sleep =>
      intro v d hv
      rw [Subsingleton.elim v w] at hv
      exact sleep d (by simpa [setWorker] using hv)
    | stay => exact hs
    | takeDue _ _ _ _ => exact htake _ _
    | takeTimedOut _ _ _ _ => exact htake _ _
    | @call w task _ =>
      intro v d hv
      rw [Subsingleton.elim v w] at hv
      simp [setWorker] at hv

/-- With one worker no task is ever taken early. -/
theorem single_worker_on_time [Subsingleton ι] (as : List (Label ι)) :
    machine.Always NotEarly machine.init as := by
  rw [always_notEarly_iff]
  exact Machine.meets_of_invariant (I := SleepsForTask)
    (fun _ _ _ hs h => sleepsForTask_step hs h) (fun w d h => nomatch h)

end Logid.Util.Pool
