import Mathlib.Logic.Function.Basic
import Logid.Misc.Machine

/-!
# The task queue and its workers

Rendering of `util/task.cpp`: one priority queue ordered by time, and workers that sleep on one
condition variable. Time is a natural number that only grows. A step is what a worker does between
two points at which it gives up `task_mutex`; the labels say which thread moves and, since
`std::priority_queue` leaves the order of equal times open, which task is on top.
-/

namespace Logid.Util

/-- `struct task`; the number stands for the function and tells one scheduling from another. -/
structure Task where
  id : Nat
  time : Nat
  deriving DecidableEq, Repr

/-- Where a worker stands in `worker` (`util/task.cpp:54-88`). -/
inductive Worker where
  /-- At the head of the loop. -/
  | idle
  /-- In `task_cv.wait`. -/
  | waiting
  /-- In `task_cv.wait_for`, until the deadline. -/
  | sleeping (deadline : Nat)
  /-- The task is popped and the mutex released; the call `f()` comes next. -/
  | taken (task : Task)
  | running (task : Task)
  | exited
  deriving DecidableEq, Repr

namespace Pool

structure State (ι : Type) where
  clock : Nat
  /-- `workers_run` -/
  run : Bool
  tasks : List Task
  /-- The number of tasks scheduled so far, and the id of the next. -/
  nextId : Nat
  workers : ι → Worker
  /-- The tasks called so far, each with the time of the call. -/
  log : List (Task × Nat)

inductive Label (ι : Type) where
  | tick (d : Nat)
  /-- `run_task` of a task of the given time: `now` for `run_task(function)`, `now + delay` for
  `run_task_after`. -/
  | schedule (time : Nat)
  | stopWorkers
  | enter (w : ι) (top : Task)
  /-- The worker wakes, notified or not. -/
  | wake (w : ι) (top : Task)
  /-- The deadline of `wait_for` has passed. -/
  | timeout (w : ι) (top : Task)
  | call (w : ι)
  | finish (w : ι)

/-- `task` may be `tasks.top()`. -/
def IsTop (tasks : List Task) (task : Task) : Prop :=
  task ∈ tasks ∧ ∀ t ∈ tasks, task.time ≤ t.time

instance (tasks : List Task) (task : Task) : Decidable (IsTop tasks task) :=
  inferInstanceAs (Decidable (_ ∧ _))

variable {ι : Type} [DecidableEq ι]

def setWorker (s : State ι) (w : ι) (worker : Worker) : State ι :=
  { s with workers := Function.update s.workers w worker }

/-- `tasks.pop()` and `lock.unlock()`. -/
def take (s : State ι) (w : ι) (top : Task) : State ι :=
  { setWorker s w (.taken top) with tasks := s.tasks.erase top }

/-- From the test of the first wait's predicate to the second wait or the pop. -/
def examine (s : State ι) (w : ι) (top : Task) : Option (State ι) :=
  if !s.run then some (setWorker s w .exited)
  else if s.tasks = [] then some (setWorker s w .waiting)
  else if IsTop s.tasks top then
    if s.clock ≤ top.time then some (setWorker s w (.sleeping top.time))
    else some (take s w top)
  else none

/-- A test of the second wait's predicate, woken before the deadline. -/
def retest (s : State ι) (w : ι) (top : Task) : Option (State ι) :=
  if !s.run then some (setWorker s w .exited)
  else if s.tasks = [] then some s
  else if IsTop s.tasks top then
    if top.time < s.clock then some (take s w top) else some s
  else none

/-- After the second wait, whatever its predicate says. -/
def popTop (s : State ι) (w : ι) (top : Task) : Option (State ι) :=
  if !s.run then some (setWorker s w .exited)
  else if s.tasks = [] then some (setWorker s w .waiting)
  else if IsTop s.tasks top then some (take s w top)
  else none

def step (s : State ι) : Label ι → Option (State ι)
  | .tick d => some { s with clock := s.clock + d }
  | .schedule time =>
    some { s with tasks := s.tasks ++ [⟨s.nextId, time⟩], nextId := s.nextId + 1 }
  | .stopWorkers => some { s with run := false }
  | .enter w top =>
    match s.workers w with
    | .idle => examine s w top
    | _ => none
  | .wake w top =>
    match s.workers w with
    | .waiting => examine s w top
    | .sleeping _ => retest s w top
    | _ => none
  | .timeout w top =>
    match s.workers w with
    | .sleeping deadline => if deadline ≤ s.clock then popTop s w top else none
    | _ => none
  | .call w =>
    match s.workers w with
    | .taken task =>
      some { setWorker s w (.running task) with log := s.log ++ [(task, s.clock)] }
    | _ => none
  | .finish w =>
    match s.workers w with
    | .running _ => some (setWorker s w .idle)
    | _ => none

/-- After `init_workers`. -/
def machine : Machine (State ι) (Label ι) where
  init := { clock := 0, run := true, tasks := [], nextId := 0, workers := fun _ => .idle, log := [] }
  step := step

/-- What a step can do; the steps that only move a worker between its waits are one case. -/
inductive Transition (s : State ι) : Label ι → State ι → Prop where
  | tick {d} : Transition s (.tick d) { s with clock := s.clock + d }
  | schedule {time} : Transition s (.schedule time)
      { s with tasks := s.tasks ++ [⟨s.nextId, time⟩], nextId := s.nextId + 1 }
  | stopWorkers : Transition s .stopWorkers { s with run := false }
  | move {a : Label ι} {w worker} (from_ : ∀ task, s.workers w ≠ .taken task)
      (into : ∀ task, worker ≠ .taken task)
      (timeout : ∀ v top, a = .timeout v top → s.run = false ∨ s.tasks = [])
      (sleep : ∀ d, worker = .sleeping d → ∃ task ∈ s.tasks, task.time ≤ d) :
      Transition s a (setWorker s w worker)
  | stay {w top} : Transition s (.wake w top) s
  | takeDue {a : Label ι} {w top} (from_ : ∀ task, s.workers w ≠ .taken task)
      (top_ : IsTop s.tasks top) (due : top.time < s.clock)
      (timeout : ∀ v u, a ≠ .timeout v u) : Transition s a (take s w top)
  | takeTimedOut {w top deadline} (sleeping : s.workers w = .sleeping deadline)
      (passed : deadline ≤ s.clock) (run : s.run = true) (top_ : IsTop s.tasks top) :
      Transition s (.timeout w top) (take s w top)
  | call {w task} (taken : s.workers w = .taken task) :
      Transition s (.call w)
        { setWorker s w (.running task) with log := s.log ++ [(task, s.clock)] }

theorem transition_of_examine {s t : State ι} {a : Label ι} {w : ι} {top : Task}
    (h : examine s w top = some t) (hw : ∀ task, s.workers w ≠ .taken task)
    (ha : ∀ v u, a ≠ .timeout v u) : Transition s a t := by
  have hmove : ∀ v u, a = .timeout v u → s.run = false ∨ s.tasks = [] :=
    fun v u e => absurd e (ha v u)
  unfold examine at h
  split at h
  next =>
    cases h
    exact .move hw (by simp) hmove (by simp)
  next =>
    split at h
    next =>
      cases h
      exact .move hw (by simp) hmove (by simp)
    next =>
      split at h
      next htop =>
        split at h
        next =>
          cases h
          refine .move hw (by simp) hmove ?_
          intro d heq
          cases heq
          exact ⟨top, htop.1, Nat.le_refl _⟩
        next hdue =>
          cases h
          exact .takeDue hw htop (by omega) ha
      next => cases h

theorem step_transition {s t : State ι} {a : Label ι} (h : step s a = some t) :
    Transition s a t := by
  cases a with
  | tick d =>
    cases h
    exact .tick
  | schedule time =>
    cases h
    exact .schedule
  | stopWorkers =>
    cases h
    exact .stopWorkers
  | enter w top =>
    simp only [step] at h
    split at h
    next hw => exact transition_of_examine h (by simp [hw]) (by simp)
    next => cases h
  | wake w top =>
    simp only [step] at h
    split at h
    next hw => exact transition_of_examine h (by simp [hw]) (by simp)
    next d hw =>
      unfold retest at h
      split at h
      next =>
        cases h
        exact .move (by simp [hw]) (by simp) (by simp) (by simp)
      next =>
        split at h
        next =>
          cases h
          exact .stay
        next =>
          split at h
          next htop =>
            split at h
            next hdue =>
              cases h
              exact .takeDue (by simp [hw]) htop hdue (by simp)
            next =>
              cases h
              exact .stay
          next => cases h
    next => cases h
  | timeout w top =>
    simp only [step] at h
    split at h
    next d hw =>
      split at h
      next hpassed =>
        unfold popTop at h
        split at h
        next hrun =>
          cases h
          exact .move (by simp [hw]) (by simp) (by simp_all) (by simp)
        next hrun =>
          split at h
          next hempty =>
            cases h
            exact .move (by simp [hw]) (by simp) (fun _ _ _ => .inr hempty) (by simp)
          next =>
            split at h
            next htop =>
              cases h
              exact .takeTimedOut hw hpassed (by simpa using hrun) htop
            next => cases h
      next => cases h
    next => cases h
  | call w =>
    simp only [step] at h
    split at h
    next hw =>
      cases h
      exact .call hw
    next => cases h
  | finish w =>
    simp only [step] at h
    split at h
    next hw =>
      cases h
      exact .move (by simp [hw]) (by simp) (by simp) (by simp)
    next => cases h

end Pool

end Logid.Util
