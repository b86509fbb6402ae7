import Logid.Backend.Raw.IOMonitor
import Logid.Misc.Mutex
import Mathlib.Algebra.BigOperators.Group.Finset.Basic
import Mathlib.Data.Fintype.Option

/-!
# The monitor never forgets a caller

A thread that wants the table writes the event descriptor before it waits for the mutex of the table,
and the listener reads it with the other mutex held; so the event descriptor stays written until the
thread has the table. From this and from the order of the two mutexes, every call returns. The listener
looks handlers up with the table locked, so what is removed is not called again.
-/

namespace Logid.Backend.Raw.IOMonitor

variable {ι : Type} {eventFd : Int} {s s' : State ι}

/-! ## The table -/

/-- The epoll set is the table, with the event descriptor. -/
structure Table (eventFd : Int) (s : State ι) : Prop where
  own : s.fds.find? eventFd = some none
  epoll : ∀ fd, fd ∈ s.epoll ↔ fd ∈ s.fds.keys

theorem fdLess_linear : fdLess.Linear := KeyLess.on_linear Function.injective_id

theorem find?_emplace_iff {fds : SortedMap Int (Option Nat) fdLess} {fd fd' : Int}
    {value value' : Option Nat} (hnew : fd ∉ fds.keys) :
    (fds.emplace fd value).find? fd' = some value' ↔
      fd' = fd ∧ value' = value ∨ fds.find? fd' = some value' := by
  have hnone := (SortedMap.find?_eq_none_iff fdLess_linear).mpr hnew
  by_cases heq : fd' = fd
  · subst heq
    rw [SortedMap.find?_emplace_self fdLess_linear hnone, hnone]
    simp [eq_comm]
  · rw [SortedMap.find?_emplace fdLess_linear.weak,
      SortedMap.equiv_of_ne fdLess_linear (Ne.symm heq)]
    simp [heq]

theorem Table.add (h : Table eventFd s) {fd : Int} (hnew : fd ∉ s.fds.keys) :
    Table eventFd { s with
      epoll := insert fd s.epoll
      fds := s.fds.emplace fd (some s.nextHandler)
      nextHandler := s.nextHandler + 1 } := by
  constructor
  · exact (find?_emplace_iff hnew).mpr (.inr h.own)
  · intro fd'
    rw [Finset.mem_insert, h.epoll]
    exact (SortedMap.mem_keys_emplace fdLess_linear).symm

theorem find?_of_erase {fds : SortedMap Int (Option Nat) fdLess} {fd fd' : Int} {value : Option Nat}
    (h : (fds.erase fd).find? fd' = some value) : fds.find? fd' = some value := by
  by_cases heq : fd' = fd
  · rw [heq, SortedMap.find?_erase_self fdLess_linear] at h
    cases h
  · rwa [SortedMap.find?_erase_of_ne fdLess_linear heq] at h

theorem Table.remove (h : Table eventFd s) {fd : Int} (hfd : fd ≠ eventFd) :
    Table eventFd { s with epoll := s.epoll.erase fd, fds := s.fds.erase fd } := by
  constructor
  · show (s.fds.erase fd).find? eventFd = some none
    rw [SortedMap.find?_erase_of_ne fdLess_linear hfd.symm]
    exact h.own
  · intro fd'
    rw [Finset.mem_erase, h.epoll]
    exact SortedMap.mem_keys_erase fdLess_linear |>.symm

theorem Table.perform (h : Table eventFd s) (done : Bool) {call : Call}
    (hcall : call ≠ .remove eventFd) : Table eventFd (IOMonitor.perform s done call) := by
  cases call with
  | add fd =>
    rw [IOMonitor.perform]
    split
    next => exact h
    next hnew =>
      split
      next => exact h.add hnew
      next => exact h
  | remove fd => exact h.remove fun heq => hcall (congrArg Call.remove heq)
  | stop => exact h

/-! ## The mutexes -/

/-- The listener has `_run_mutex` from the test of `_is_running` to the call of a handler. -/
def Listener.holdsRun : Listener → Bool
  | .checking | .waiting _ | .dispatching _ => true
  | _ => false

def Listener.holdsYield : Listener → Bool
  | .drained _ => true
  | _ => false

def Caller.holdsRun : Caller → Bool
  | .yielded _ => true
  | _ => false

def Caller.holdsYield : Caller → Bool
  | .trying _ | .blocked _ => true
  | _ => false

theorem Call.holdsRun_after (call : Call) : call.after.holdsRun = false := by
  cases call <;> rfl

theorem Call.holdsYield_after (call : Call) : call.after.holdsYield = false := by
  cases call <;> rfl

/-- Which threads stand where a mutex is held. -/
def State.holders (s : State ι) (listener : Listener → Bool) (caller : Caller → Bool) :
    Owner ι → Bool
  | .listener => listener s.listener
  | .caller t => caller (s.callers t)

structure Locks (s : State ι) : Prop where
  run : Mutex.Agrees s.run (s.holders Listener.holdsRun Caller.holdsRun)
  yield : Mutex.Agrees s.yield (s.holders Listener.holdsYield Caller.holdsYield)

theorem holders_listener_of {l : Listener} (h : s.listener = l) {f : Listener → Bool}
    {g : Caller → Bool} : s.holders f g .listener = f l :=
  congrArg f h

theorem holders_caller_of {t : Option ι} {c : Caller} (h : s.callers t = c) {f : Listener → Bool}
    {g : Caller → Bool} : s.holders f g (.caller t) = g c :=
  congrArg g h

theorem Locks.yielded_not_waiting (h : Locks s) {t : Option ι} {call : Call} {n : Nat}
    (ht : s.callers t = .yielded call) : s.listener ≠ .waiting n := by
  intro hn
  have howner : Owner.caller t = .listener :=
    h.run.unique (holders_caller_of ht) (holders_listener_of hn)
  cases howner

theorem Locks.yield_of_blocked (h : Locks s) {t : Option ι} {call : Call}
    (ht : s.callers t = .blocked call) : s.yield = some (.caller t) :=
  (h.yield (.caller t)).mpr (holders_caller_of ht)

/-- A call only changes the table and the epoll set. -/
theorem perform_eq (s : State ι) (done : Bool) (call : Call) : ∃ fds nextHandler epoll,
    perform s done call =
      { s with fds := fds, nextHandler := nextHandler, epoll := epoll } := by
  cases call with
  | add fd =>
    rw [perform]
    split
    next => exact ⟨_, _, _, rfl⟩
    next =>
      split
      next => exact ⟨_, _, _, rfl⟩
      next => exact ⟨_, _, _, rfl⟩
  | remove fd => exact ⟨_, _, _, rfl⟩
  | stop => exact ⟨_, _, _, rfl⟩

variable [DecidableEq ι] {a : Label ι}

/-! ## What a step does -/

inductive Transition (eventFd : Int) (s : State ι) : Label ι → State ι → Prop where
  | call {t call} (may : MayCall eventFd s t call) :
      Transition eventFd s (.call t call) { s with
        callers := Function.update s.callers t (.yielding call)
        running := if call = .stop then false else s.running }
  | lockYield {t call} (caller : s.callers t = .yielding call) (free : s.yield = none) :
      Transition eventFd s (.lockYield t)
        { s with
          callers := Function.update s.callers t (.trying call)
          yield := some (.caller t) }
  | tryLock {t call} (caller : s.callers t = .trying call) (free : s.run = none) :
      Transition eventFd s (.tryLock t)
        { s with
          callers := Function.update s.callers t (.yielded call)
          run := some (.caller t)
          yield := none }
  | signal {t call} (caller : s.callers t = .trying call) :
      Transition eventFd s (.signal t)
        { s with
          callers := Function.update s.callers t (.blocked call)
          count := s.count + 1 }
  | lockRun {t call} (caller : s.callers t = .blocked call) (free : s.run = none) :
      Transition eventFd s (.lockRun t)
        { s with
          callers := Function.update s.callers t (.yielded call)
          run := some (.caller t)
          yield := none }
  | finish {t call done fds nextHandler epoll} (caller : s.callers t = .yielded call)
      (performed : perform s done call =
        { s with fds := fds, nextHandler := nextHandler, epoll := epoll }) :
      Transition eventFd s (.finish t done) { s with
        fds := fds
        nextHandler := nextHandler
        epoll := epoll
        callers := Function.update s.callers t call.after
        run := none }
  | join {t} (caller : s.callers t = .joining) (exited : s.listener = .exited) :
      Transition eventFd s (.join t) { s with callers := Function.update s.callers t .idle }
  | start (starting : s.listener = .starting) (free : s.run = none) :
      Transition eventFd s .start
        { s with run := some .listener, running := true, listener := .checking }
  | wait (checking : s.listener = .checking) (running : s.running = true) :
      Transition eventFd s .check { s with listener := .waiting s.fds.keys.length }
  | exit (checking : s.listener = .checking) (stopped : s.running = false) :
      Transition eventFd s .check { s with run := none, listener := .exited }
  | wake {size events} (waiting : s.listener = .waiting size)
      (wakes : Wakes eventFd s size events) :
      Transition eventFd s (.wake events) { s with listener := .dispatching events }
  | nextRound (dispatching : s.listener = .dispatching []) :
      Transition eventFd s .dispatch { s with listener := .checking }
  | skip {event rest} (dispatching : s.listener = .dispatching (event :: rest))
      (other : ¬ (event.fd = eventFd ∧ event.readable = true)) :
      Transition eventFd s .dispatch { s with listener := .dispatching rest }
  | yield {event rest} (dispatching : s.listener = .dispatching (event :: rest))
      (asked : event.fd = eventFd) (readable : event.readable = true) :
      Transition eventFd s .dispatch { s with run := none, listener := .draining rest }
  | handle {event rest handler} (dispatching : s.listener = .dispatching (event :: rest))
      (registered : s.fds.find? event.fd = some (some handler)) :
      Transition eventFd s .dispatch
        { s with run := none, listener := .handling handler event rest }
  | drain {rest} (draining : s.listener = .draining rest) (free : s.yield = none) :
      Transition eventFd s .drain
        { s with yield := some .listener, count := 0, listener := .drained rest }
  | handled {handler event rest} (handling : s.listener = .handling handler event rest)
      (idle : s.callers none = .idle) :
      Transition eventFd s .handled { s with listener := .handled rest }
  | relockDrained {rest} (drained : s.listener = .drained rest) (free : s.run = none) :
      Transition eventFd s .relock
        { s with run := some .listener, yield := none, listener := .dispatching rest }
  | relockHandled {rest} (handled : s.listener = .handled rest) (free : s.run = none) :
      Transition eventFd s .relock
        { s with run := some .listener, listener := .dispatching rest }

theorem transition_dispatch {events : List Event} (h : s.listener = .dispatching events) :
    Transition eventFd s .dispatch (dispatch eventFd s events) := by
  cases events with
  | nil => exact .nextRound h
  | cons event rest =>
    rw [dispatch]
    split
    next hfd =>
      split
      next hread => exact .yield h hfd hread
      next hread => exact .skip h fun hand => hread hand.2
    next hfd =>
      split
      next handler hfind => exact .handle h hfind
      next => exact .skip h fun hand => hfd hand.1

theorem transition_of_step (h : step eventFd s a = some s') : Transition eventFd s a s' := by
  cases a with
  | call t call =>
    rw [step] at h
    split at h
    next hmay =>
      cases h
      exact .call hmay
    next => cases h
  | dispatch =>
    rw [step] at h
    split at h
    next events hevents =>
      cases h
      exact transition_dispatch hevents
    next => cases h
  | lockYield t =>
    rw [step] at h
    split at h
    next call hat =>
      split at h
      next hfree =>
        cases h
        exact .lockYield hat hfree
      next => cases h
    next => cases h
  | tryLock t =>
    rw [step] at h
    split at h
    next call hat =>
      split at h
      next hfree =>
        cases h
        exact .tryLock hat hfree
      next => cases h
    next => cases h
  | signal t =>
    rw [step] at h
    split at h
    next call hat =>
      cases h
      exact .signal hat
    next => cases h
  | lockRun t =>
    rw [step] at h
    split at h
    next call hat =>
      split at h
      next hfree =>
        cases h
        exact .lockRun hat hfree
      next => cases h
    next => cases h
  | finish t done =>
    rw [step] at h
    split at h
    next call hat =>
      cases h
      obtain ⟨fds, nextHandler, epoll, heq⟩ := perform_eq s done call
      rw [heq]
      exact .finish hat heq
    next => cases h
  | join t =>
    rw [step] at h
    split at h
    next hat =>
      split at h
      next hfree =>
        cases h
        exact .join hat hfree
      next => cases h
    next => cases h
  | start =>
    rw [step] at h
    split at h
    next hat =>
      split at h
      next hfree =>
        cases h
        exact .start hat hfree
      next => cases h
    next => cases h
  | check =>
    rw [step] at h
    split at h
    next hat =>
      split at h
      next hrunning =>
        cases h
        exact .wait hat hrunning
      next hstopped =>
        cases h
        exact .exit hat (Bool.not_eq_true _ ▸ hstopped)
    next => cases h
  | wake events =>
    rw [step] at h
    split at h
    next size hat =>
      split at h
      next hfree =>
        cases h
        exact .wake hat hfree
      next => cases h
    next => cases h
  | drain =>
    rw [step] at h
    split at h
    next rest hat =>
      split at h
      next hfree =>
        cases h
        exact .drain hat hfree
      next => cases h
    next => cases h
  | handled =>
    rw [step] at h
    split at h
    next handler event rest hat =>
      split at h
      next hfree =>
        cases h
        exact .handled hat hfree
      next => cases h
    next => cases h
  | relock =>
    rw [step] at h
    split at h
    next rest hat =>
      split at h
      next hfree =>
        cases h
        exact .relockDrained hat hfree
      next => cases h
    next rest hat =>
      split at h
      next hfree =>
        cases h
        exact .relockHandled hat hfree
      next => cases h
    next => cases h

/-! ## Steps and the mutexes -/

section

variable {atListener : Listener → Bool} {atCaller : Caller → Bool}

/-- A listener that moves. -/
theorem holders_listener (hcallers : s'.callers = s.callers) :
    s'.holders atListener atCaller =
      Function.update (s.holders atListener atCaller) .listener (atListener s'.listener) := by
  funext k
  cases k with
  | listener => simp [State.holders]
  | caller t => simp [State.holders, hcallers]

/-- A call that moves. -/
theorem holders_caller {t : Option ι} {c : Caller} (hlistener : s'.listener = s.listener)
    (hcallers : s'.callers = Function.update s.callers t c) :
    s'.holders atListener atCaller =
      Function.update (s.holders atListener atCaller) (.caller t) (atCaller c) := by
  funext k
  cases k with
  | listener => simp [State.holders, hlistener]
  | caller u =>
    by_cases hu : u = t
    · subst hu
      simp [State.holders, hcallers]
    · rw [Function.update_of_ne (by simpa using hu)]
      simp [State.holders, hcallers, Function.update_of_ne hu]

end

theorem locks_listener (s : State ι) (hcallers : s'.callers = s.callers)
    (hrun : Mutex.Agrees s'.run (Function.update (s.holders Listener.holdsRun Caller.holdsRun)
      .listener s'.listener.holdsRun))
    (hyield : Mutex.Agrees s'.yield (Function.update
      (s.holders Listener.holdsYield Caller.holdsYield) .listener s'.listener.holdsYield)) :
    Locks s' :=
  ⟨by rwa [holders_listener hcallers], by rwa [holders_listener hcallers]⟩

theorem locks_caller (s : State ι) (t : Option ι) (c : Caller) (hlistener : s'.listener = s.listener)
    (hcallers : s'.callers = Function.update s.callers t c)
    (hrun : Mutex.Agrees s'.run (Function.update (s.holders Listener.holdsRun Caller.holdsRun)
      (.caller t) c.holdsRun))
    (hyield : Mutex.Agrees s'.yield (Function.update
      (s.holders Listener.holdsYield Caller.holdsYield) (.caller t) c.holdsYield)) :
    Locks s' :=
  ⟨by rwa [holders_caller hlistener hcallers], by rwa [holders_caller hlistener hcallers]⟩

theorem Locks.step (h : Locks s) (hstep : Transition eventFd s a s') : Locks s' := by
  obtain ⟨hrun, hyield⟩ := h
  cases hstep with
  | call may =>
    exact locks_caller s _ _ rfl rfl (hrun.stay (holders_caller_of may.1))
      (hyield.stay (holders_caller_of may.1))
  | lockYield caller free =>
    exact locks_caller s _ _ rfl rfl (hrun.stay (holders_caller_of caller)) (hyield.take free _)
  | tryLock caller free =>
    exact locks_caller s _ _ rfl rfl (hrun.take free _)
      (hyield.release (holders_caller_of caller))
  | signal caller =>
    exact locks_caller s _ _ rfl rfl (hrun.stay (holders_caller_of caller))
      (hyield.stay (holders_caller_of caller))
  | lockRun caller free =>
    exact locks_caller s _ _ rfl rfl (hrun.take free _)
      (hyield.release (holders_caller_of caller))
  | @finish t call done fds nextHandler epoll caller performed =>
    refine locks_caller s t call.after rfl rfl ?_ ?_
    · rw [Call.holdsRun_after]
      exact hrun.release (holders_caller_of caller)
    · rw [Call.holdsYield_after]
      exact hyield.stay (holders_caller_of caller)
  | join caller exited =>
    exact locks_caller s _ _ rfl rfl (hrun.stay (holders_caller_of caller))
      (hyield.stay (holders_caller_of caller))
  | start starting free =>
    exact locks_listener s rfl (hrun.take free _) (hyield.stay (holders_listener_of starting))
  | wait checking running =>
    exact locks_listener s rfl (hrun.stay (holders_listener_of checking))
      (hyield.stay (holders_listener_of checking))
  | exit checking stopped =>
    exact locks_listener s rfl (hrun.release (holders_listener_of checking))
      (hyield.stay (holders_listener_of checking))
  | wake waiting wakes =>
    exact locks_listener s rfl (hrun.stay (holders_listener_of waiting))
      (hyield.stay (holders_listener_of waiting))
  | nextRound dispatching =>
    exact locks_listener s rfl (hrun.stay (holders_listener_of dispatching))
      (hyield.stay (holders_listener_of dispatching))
  | skip dispatching other =>
    exact locks_listener s rfl (hrun.stay (holders_listener_of dispatching))
      (hyield.stay (holders_listener_of dispatching))
  | yield dispatching asked readable =>
    exact locks_listener s rfl (hrun.release (holders_listener_of dispatching))
      (hyield.stay (holders_listener_of dispatching))
  | handle dispatching registered =>
    exact locks_listener s rfl (hrun.release (holders_listener_of dispatching))
      (hyield.stay (holders_listener_of dispatching))
  | drain draining free =>
    exact locks_listener s rfl (hrun.stay (holders_listener_of draining)) (hyield.take free _)
  | handled handling idle =>
    exact locks_listener s rfl (hrun.stay (holders_listener_of handling))
      (hyield.stay (holders_listener_of handling))
  | relockDrained drained free =>
    exact locks_listener s rfl (hrun.take free _)
      (hyield.release (holders_listener_of drained))
  | relockHandled handled free =>
    exact locks_listener s rfl (hrun.take free _)
      (hyield.stay (holders_listener_of handled))

/-! ## What callers wait for -/

def Caller.call : Caller → Option Call
  | .idle => none
  | .yielding call | .trying call | .blocked call | .yielded call => some call
  | .joining => some .stop

structure Waits (eventFd : Int) (s : State ι) : Prop where
  /-- The event descriptor stays written until the caller has what it waits for. -/
  blocked : ∀ t call, s.callers t = .blocked call → 0 < s.count
  size : ∀ n, s.listener = .waiting n → n = s.fds.keys.length
  calls : ∀ t, (s.callers t).call ≠ some (.remove eventFd)
  nested : s.callers none ≠ .idle → (s.callers none).call ≠ some .stop ∧
    ∃ handler event rest, s.listener = .handling handler event rest

theorem Waits.step (h : Waits eventFd s) (hlocks : Locks s) (hstep : Transition eventFd s a s') :
    Waits eventFd s' := by
  have hyielded : ∀ t call n, s.callers t = .yielded call → s.listener ≠ .waiting n :=
    fun _ _ _ => hlocks.yielded_not_waiting
  have hblocked : ∀ t call, s.callers t = .blocked call → s.yield = some (.caller t) :=
    fun _ _ => hlocks.yield_of_blocked
  have hafter : ∀ call, (call ≠ Call.stop ∧ call.after = .idle) ∨
      (call = .stop ∧ call.after = .joining) := by
    intro call
    cases call <;> simp [Call.after]
  obtain ⟨h1, h2, h3, h4⟩ := h
  cases hstep <;> constructor <;>
    grind [Function.update_apply, Caller.call, MayCall]

theorem Table.step (h : Table eventFd s) (hwaits : Waits eventFd s)
    (hstep : Transition eventFd s a s') : Table eventFd s' := by
  cases hstep with
  | @finish t call done fds nextHandler epoll caller performed =>
    have hcall : call ≠ .remove eventFd := by
      rintro rfl
      exact hwaits.calls t (congrArg Caller.call caller)
    have htable := h.perform done hcall
    rw [performed] at htable
    exact ⟨htable.own, htable.epoll⟩
  | _ => exact ⟨h.own, h.epoll⟩

/-! ## The destructor -/

/-- The destructor is called after the listener has started, which sets `_is_running`. -/
def StopsStarted (s : State ι) (a : Label ι) : Prop :=
  ∀ t, a = .call t .stop → s.listener ≠ .starting

structure Stops (s : State ι) : Prop where
  asked : ∀ t, (s.callers t).call = some .stop → s.running = false ∧ s.listener ≠ .starting
  passed : ∀ t, s.callers t = .yielded .stop ∨ s.callers t = .joining → ∀ n, s.listener ≠ .waiting n
  stopped : s.running = false →
    s.listener = .starting ∨ s.listener = .exited ∨ ∃ t, (s.callers t).call = some .stop

/-- A caller that moves on in its call leaves the destructor called. -/
theorem Stops.stopped_caller (h : Stops s) (hrunning : s.running = false) {t : Option ι} {c : Caller}
    (hc : (s.callers t).call = some .stop → c.call = some .stop) :
    s.listener = .starting ∨ s.listener = .exited ∨
      ∃ u, (Function.update s.callers t c u).call = some .stop := by
  refine (h.stopped hrunning).imp_right (Or.imp_right ?_)
  rintro ⟨u, hu⟩
  refine ⟨u, ?_⟩
  by_cases hut : u = t
  · subst hut
    rw [Function.update_self]
    exact hc hu
  · rwa [Function.update_of_ne hut]

theorem Stops.stopped_step (h : Stops s) (hstep : Transition eventFd s a s')
    (hstopped : s'.running = false) : s'.listener = .starting ∨ s'.listener = .exited ∨
      ∃ t, (s'.callers t).call = some .stop := by
  cases hstep with
  | @call t call may =>
    by_cases hstop : call = .stop
    · subst hstop
      exact .inr (.inr ⟨t, by simp [Caller.call]⟩)
    · rw [if_neg hstop] at hstopped
      exact h.stopped_caller hstopped fun hidle => by simp [may.1, Caller.call] at hidle
  | lockYield caller free => exact h.stopped_caller hstopped fun hc => by rwa [caller] at hc
  | tryLock caller free => exact h.stopped_caller hstopped fun hc => by rwa [caller] at hc
  | signal caller => exact h.stopped_caller hstopped fun hc => by rwa [caller] at hc
  | lockRun caller free => exact h.stopped_caller hstopped fun hc => by rwa [caller] at hc
  | finish caller performed =>
    refine h.stopped_caller hstopped fun hc => ?_
    rw [caller, Caller.call, Option.some_inj] at hc
    subst hc
    rfl
  | join caller exited => exact .inr (.inl exited)
  | start => cases hstopped
  | exit => exact .inr (.inl rfl)
  | wait checking running =>
    rw [running] at hstopped
    cases hstopped
  | _ =>
    rcases h.stopped hstopped with hl | hl | hcalled
    · simp_all
    · simp_all
    · exact .inr (.inr hcalled)

theorem Stops.step (h : Stops s) (hlocks : Locks s) (hstarted : StopsStarted s a)
    (hstep : Transition eventFd s a s') : Stops s' := by
  have hwaiting : ∀ n, s.listener = .waiting n → s.run = some .listener :=
    fun n hn => (hlocks.run .listener).mpr (holders_listener_of hn)
  have hafter : ∀ call, (call ≠ Call.stop ∧ call.after = .idle) ∨
      (call = .stop ∧ call.after = .joining) := by
    intro call
    cases call <;> simp [Call.after]
  obtain ⟨hasked, hpassed, -⟩ := id h
  refine ⟨?_, ?_, h.stopped_step hstep⟩
  · cases hstep <;> grind [Function.update_apply, Caller.call, StopsStarted]
  · cases hstep <;> grind [Function.update_apply, Caller.call]

/-- What holds all along a run. -/
structure Ok (eventFd : Int) (s : State ι) : Prop where
  table : Table eventFd s
  locks : Locks s
  waits : Waits eventFd s

theorem Ok.step (h : Ok eventFd s) (hstep : IOMonitor.step eventFd s a = some s') :
    Ok eventFd s' :=
  have htransition := transition_of_step hstep
  ⟨h.table.step h.waits htransition, h.locks.step htransition, h.waits.step h.locks htransition⟩

theorem ok_init : Ok eventFd (machine ι eventFd).init where
  table := {
    own := (SortedMap.find?_single_iff fdLess_linear).mpr ⟨rfl, rfl⟩
    epoll := fun fd => by
      show fd ∈ ({eventFd} : Finset Int) ↔ fd ∈ [eventFd]
      simp }
  locks := by
    refine ⟨fun k => ?_, fun k => ?_⟩
    · cases k <;> simp [machine, State.holders, Listener.holdsRun, Caller.holdsRun]
    · cases k <;> simp [machine, State.holders, Listener.holdsYield, Caller.holdsYield]
  waits := {
    blocked := fun _ _ h => by cases h
    size := fun _ h => by cases h
    calls := fun _ h => by cases h
    nested := fun h => absurd rfl h }

theorem stops_init : Stops (machine ι eventFd).init where
  asked := fun _ h => by cases h
  passed := fun _ h => by rcases h with h | h <;> cases h
  stopped := fun _ => .inl rfl

/-! ## What is left to do -/

/-- A step that the threads take by themselves: none calls, and no descriptor but the event descriptor
gets ready. -/
def Internal (eventFd : Int) : Label ι → Prop
  | .call _ _ => False
  | .wake events => events = [{ fd := eventFd, readable := true }]
  | _ => True

def Listener.steps : Listener → Nat
  | .exited => 0
  | .waiting _ => 1
  | .checking => 2
  | .starting => 3
  | .dispatching events => 3 + 5 * events.length
  | .handled rest | .drained rest => 6 + 5 * rest.length
  | .draining rest | .handling _ _ rest => 7 + 5 * rest.length

/-- The listener is about to read the event descriptor. -/
def Listener.reads (eventFd : Int) : Listener → Bool
  | .draining _ => true
  | .dispatching rest | .drained rest | .handling _ _ rest | .handled rest =>
    rest.any fun event => event.fd = eventFd && event.readable
  | _ => false

/-- A written event descriptor makes the listener go round once more. -/
def State.round (eventFd : Int) (s : State ι) : Nat :=
  if 0 < s.count ∧ s.listener.reads eventFd = false then 8 else 0

def Caller.steps : Caller → Nat
  | .idle => 0
  | .joining => 1
  | .yielded _ => 2
  | .blocked _ => 3
  | .trying _ => 12
  | .yielding _ => 13

/-- The most steps that the threads can still take by themselves. -/
def State.steps [Fintype ι] (eventFd : Int) (s : State ι) : Nat :=
  ∑ t, (s.callers t).steps + s.listener.steps + s.round eventFd

section

variable [Fintype ι]

theorem sum_steps_update {callers : Option ι → Caller} {t : Option ι} {c : Caller} :
    ∑ u, (Function.update callers t c u).steps + (callers t).steps =
      ∑ u, (callers u).steps + c.steps := by
  have hsplit : ∀ f : Option ι → Nat, f t + ∑ u ∈ Finset.univ.erase t, f u = ∑ u, f u :=
    fun f => Finset.add_sum_erase _ f (Finset.mem_univ t)
  have hrest : ∑ u ∈ Finset.univ.erase t, (Function.update callers t c u).steps =
      ∑ u ∈ Finset.univ.erase t, (callers u).steps :=
    Finset.sum_congr rfl fun u hu => by rw [Function.update_of_ne (Finset.ne_of_mem_erase hu)]
  rw [← hsplit fun u => (Function.update callers t c u).steps, ← hsplit fun u => (callers u).steps,
    hrest, Function.update_self]
  omega

theorem steps_lt_caller {t : Option ι} {c : Caller}
    (hcallers : s'.callers = Function.update s.callers t c) (hlistener : s'.listener = s.listener)
    (hcost : c.steps + s'.round eventFd < (s.callers t).steps + s.round eventFd) :
    s'.steps eventFd < s.steps eventFd := by
  have hsum := @sum_steps_update _ _ _ s.callers t c
  rw [State.steps, State.steps, hcallers, hlistener]
  omega

/-- A caller that moves on and leaves the event descriptor alone. -/
theorem steps_lt_of_caller {t : Option ι} {c c' : Caller} (hc : s.callers t = c)
    (hlt : c'.steps < c.steps) (hcallers : s'.callers = Function.update s.callers t c')
    (hlistener : s'.listener = s.listener) (hcount : s'.count = s.count) :
    s'.steps eventFd < s.steps eventFd := by
  refine steps_lt_caller hcallers hlistener ?_
  rw [hc, State.round, State.round, hcount, hlistener]
  omega

omit [DecidableEq ι] in
theorem steps_lt_listener (hcallers : s'.callers = s.callers)
    (hcost : s'.listener.steps + s'.round eventFd < s.listener.steps + s.round eventFd) :
    s'.steps eventFd < s.steps eventFd := by
  rw [State.steps, State.steps, hcallers]
  omega

omit [DecidableEq ι] in
/-- A listener that moves on and is still to read the event descriptor if it was. -/
theorem steps_lt_of_listener {l : Listener} (hl : s.listener = l) (hlt : s'.listener.steps < l.steps)
    (hreads : s'.listener.reads eventFd = l.reads eventFd) (hcallers : s'.callers = s.callers)
    (hcount : s'.count = s.count) : s'.steps eventFd < s.steps eventFd := by
  refine steps_lt_listener hcallers ?_
  rw [hl, State.round, State.round, hcount, hreads, hl]
  omega

theorem steps_lt (h : Table eventFd s) (hstep : Transition eventFd s a s')
    (hinternal : Internal eventFd a) : s'.steps eventFd < s.steps eventFd := by
  cases hstep with
  | call may => exact hinternal.elim
  | lockYield caller free => exact steps_lt_of_caller caller (by simp [Caller.steps]) rfl rfl rfl
  | tryLock caller free => exact steps_lt_of_caller caller (by simp [Caller.steps]) rfl rfl rfl
  | signal caller =>
    refine steps_lt_caller rfl rfl ?_
    have hround : ∀ u : State ι, u.round eventFd ≤ 8 := by
      intro u
      rw [State.round]
      split <;> omega
    rw [caller, Caller.steps, Caller.steps]
    exact (Nat.add_le_add_left (hround _) 3).trans_lt (by omega)
  | lockRun caller free => exact steps_lt_of_caller caller (by simp [Caller.steps]) rfl rfl rfl
  | @finish t call done fds nextHandler epoll caller performed =>
    refine steps_lt_of_caller caller ?_ rfl rfl rfl
    cases call <;> simp [Call.after, Caller.steps]
  | join caller exited => exact steps_lt_of_caller caller (by simp [Caller.steps]) rfl rfl rfl
  | start starting free => exact steps_lt_of_listener starting (by simp [Listener.steps]) rfl rfl rfl
  | wait checking running =>
    exact steps_lt_of_listener checking (by simp [Listener.steps]) rfl rfl rfl
  | exit checking stopped => exact steps_lt_of_listener checking (by simp [Listener.steps]) rfl rfl rfl
  | wake waiting wakes =>
    cases hinternal
    -- the round that the listener begins was counted when the event descriptor was written
    have hcount : 0 < s.count :=
      (wakes.2.2 { fd := eventFd, readable := true } (by simp)).2 rfl rfl
    refine steps_lt_listener rfl ?_
    simp [State.round, Listener.reads, Listener.steps, waiting, hcount]
  | nextRound dispatching => exact steps_lt_of_listener dispatching (by simp [Listener.steps]) rfl rfl rfl
  | @skip event rest dispatching other =>
    have hnot : (decide (event.fd = eventFd) && event.readable) = false := by simpa using other
    refine steps_lt_of_listener dispatching (by simp [Listener.steps]) ?_ rfl rfl
    simp [Listener.reads, hnot]
  | yield dispatching asked readable =>
    refine steps_lt_of_listener dispatching ?_ ?_ rfl rfl
    · simp only [Listener.steps, List.length_cons]
      omega
    · simp [Listener.reads, asked, readable]
  | @handle event rest handler dispatching registered =>
    have hne : event.fd ≠ eventFd := by
      rintro rfl
      rw [h.own] at registered
      cases registered
    refine steps_lt_of_listener dispatching ?_ ?_ rfl rfl
    · simp only [Listener.steps, List.length_cons]
      omega
    · simp [Listener.reads, hne]
  | drain draining free =>
    refine steps_lt_listener rfl ?_
    rw [draining, Listener.steps, Listener.steps, State.round, if_neg (fun h => by cases h.1)]
    omega
  | handled handling idle =>
    exact steps_lt_of_listener handling (by simp [Listener.steps]) rfl rfl rfl
  | relockDrained drained free =>
    exact steps_lt_of_listener drained (by simp [Listener.steps]) rfl rfl rfl
  | relockHandled handled free =>
    exact steps_lt_of_listener handled (by simp [Listener.steps]) rfl rfl rfl

end

/-! ## Nothing left to do -/

/-- No thread can take a step by itself. -/
def Quiet (eventFd : Int) (s : State ι) : Prop :=
  ∀ a, Internal eventFd a → step eventFd s a = none

theorem Quiet.not_yielded (h : Quiet eventFd s) (t : Option ι) (call : Call) :
    s.callers t ≠ .yielded call := by
  intro ht
  have hstep := h (.finish t true) trivial
  rw [step, ht] at hstep
  cases hstep

theorem Quiet.not_trying (h : Quiet eventFd s) (t : Option ι) (call : Call) :
    s.callers t ≠ .trying call := by
  intro ht
  have hstep := h (.signal t) trivial
  rw [step, ht] at hstep
  cases hstep

theorem Quiet.not_blocked (h : Quiet eventFd s) (hrun : s.run = none) (t : Option ι) (call : Call) :
    s.callers t ≠ .blocked call := by
  intro ht
  have hstep := h (.lockRun t) trivial
  rw [step, ht] at hstep
  simp only [hrun, if_pos] at hstep
  cases hstep

theorem Quiet.not_yielding (h : Quiet eventFd s) (hyield : s.yield = none) (t : Option ι)
    (call : Call) : s.callers t ≠ .yielding call := by
  intro ht
  have hstep := h (.lockYield t) trivial
  rw [step, ht] at hstep
  simp only [hyield, if_pos] at hstep
  cases hstep

/-- Nobody has the yield mutex when no caller stands where it is held, nor the listener. -/
theorem Ok.yield_eq_none (hok : Ok eventFd s) (hquiet : Quiet eventFd s)
    (hlistener : s.listener.holdsYield = false)
    (hblocked : ∀ t call, s.callers t ≠ .blocked call) : s.yield = none := by
  rw [hok.locks.yield.eq_none_iff]
  intro k
  cases k with
  | listener => exact hlistener
  | caller t =>
    rw [State.holders]
    cases ht : s.callers t with
    | trying call => exact absurd ht (hquiet.not_trying t call)
    | blocked call => exact absurd ht (hblocked t call)
    | _ => rfl

theorem Ok.idle_or_joining (hok : Ok eventFd s) (hquiet : Quiet eventFd s)
    (hlistener : s.listener.holdsYield = false)
    (hblocked : ∀ t call, s.callers t ≠ .blocked call) (t : Option ι) :
    s.callers t = .idle ∨ s.callers t = .joining := by
  have hyield := hok.yield_eq_none hquiet hlistener hblocked
  cases ht : s.callers t with
  | idle => exact .inl rfl
  | joining => exact .inr rfl
  | yielding call => exact absurd ht (hquiet.not_yielding hyield t call)
  | trying call => exact absurd ht (hquiet.not_trying t call)
  | blocked call => exact absurd ht (hblocked t call)
  | yielded call => exact absurd ht (hquiet.not_yielded t call)

theorem Ok.run_eq_none (hok : Ok eventFd s) (hquiet : Quiet eventFd s)
    (hlistener : s.listener.holdsRun = false) : s.run = none := by
  rw [hok.locks.run.eq_none_iff]
  intro k
  cases k with
  | listener => exact hlistener
  | caller t =>
    rw [State.holders]
    cases ht : s.callers t with
    | yielded call => exact absurd ht (hquiet.not_yielded t call)
    | _ => rfl

/-- A listener that does not have `_run_mutex` is gone: else it could go on. -/
theorem Ok.exited_of_not_holdsRun (hok : Ok eventFd s) (hquiet : Quiet eventFd s)
    (hlistener : s.listener.holdsRun = false) : s.listener = .exited := by
  have hrun := hok.run_eq_none hquiet hlistener
  have hblocked := hquiet.not_blocked hrun
  cases hl : s.listener with
  | exited => rfl
  | starting =>
    have hstep := hquiet .start trivial
    rw [IOMonitor.step, hl] at hstep
    simp only [hrun, if_pos] at hstep
    cases hstep
  | draining rest =>
    have hyield := hok.yield_eq_none hquiet (by rw [hl]; rfl) hblocked
    have hstep := hquiet .drain trivial
    rw [IOMonitor.step, hl] at hstep
    simp only [hyield, if_pos] at hstep
    cases hstep
  | drained rest =>
    have hstep := hquiet .relock trivial
    rw [IOMonitor.step, hl] at hstep
    simp only [hrun, if_pos] at hstep
    cases hstep
  | handled rest =>
    have hstep := hquiet .relock trivial
    rw [IOMonitor.step, hl] at hstep
    simp only [hrun, if_pos] at hstep
    cases hstep
  | handling handler event rest =>
    rcases hok.idle_or_joining hquiet (by rw [hl]; rfl) hblocked none with hidle | hjoining
    · have hstep := hquiet .handled trivial
      rw [IOMonitor.step, hl] at hstep
      simp only [hidle, if_pos] at hstep
      cases hstep
    · -- a handler does not call the destructor
      have hnested := (hok.waits.nested (by rw [hjoining]; nofun)).1
      rw [hjoining] at hnested
      exact absurd rfl hnested
  | checking =>
    rw [hl] at hlistener
    cases hlistener
  | waiting size =>
    rw [hl] at hlistener
    cases hlistener
  | dispatching events =>
    rw [hl] at hlistener
    cases hlistener

/-- A listener that has it waits, and the event descriptor is not written. -/
theorem Ok.waiting_of_holdsRun (hok : Ok eventFd s) (hquiet : Quiet eventFd s)
    (hlistener : s.listener.holdsRun = true) : ∃ n, s.listener = .waiting n ∧ s.count = 0 := by
  cases hl : s.listener with
  | waiting size =>
    refine ⟨size, rfl, ?_⟩
    by_contra hcount
    have hstep := hquiet (.wake [{ fd := eventFd, readable := true }]) rfl
    have hmem : eventFd ∈ s.fds.keys :=
      (SortedMap.mem_keys_iff fdLess_linear).mpr (by rw [hok.table.own]; rfl)
    have hwakes : Wakes eventFd s size [{ fd := eventFd, readable := true }] := by
      refine ⟨?_, by simp, ?_⟩
      · rw [hok.waits.size size hl]
        exact List.length_pos_of_mem hmem
      · intro event hevent
        rw [List.mem_singleton.mp hevent]
        exact ⟨(hok.table.epoll eventFd).mpr hmem, fun _ _ => Nat.pos_of_ne_zero hcount⟩
    rw [IOMonitor.step, hl] at hstep
    simp only [hwakes, if_pos] at hstep
    cases hstep
  | checking =>
    have hstep := hquiet .check trivial
    rw [IOMonitor.step, hl] at hstep
    cases hrunning : s.running <;> simp [hrunning] at hstep
  | dispatching events =>
    have hstep := hquiet .dispatch trivial
    rw [IOMonitor.step, hl] at hstep
    cases hstep
  | _ =>
    rw [hl] at hlistener
    cases hlistener

/-- When no thread can go on, all calls have returned, and a listener that was stopped is gone. -/
theorem Ok.returned (hok : Ok eventFd s) (hstops : Stops s) (hquiet : Quiet eventFd s) :
    (∀ t, s.callers t = .idle) ∧ (s.running = false → s.listener = .exited) := by
  cases hlistener : s.listener.holdsRun with
  | false =>
    have hexited := hok.exited_of_not_holdsRun hquiet hlistener
    have hblocked := hquiet.not_blocked (hok.run_eq_none hquiet hlistener)
    refine ⟨fun t => ?_, fun _ => hexited⟩
    refine (hok.idle_or_joining hquiet (by rw [hexited]; rfl) hblocked t).resolve_right ?_
    intro hjoining
    have hstep := hquiet (.join t) trivial
    rw [IOMonitor.step, hjoining] at hstep
    simp only [hexited, if_pos] at hstep
    cases hstep
  | true =>
    obtain ⟨n, hn, hcount⟩ := hok.waiting_of_holdsRun hquiet hlistener
    have hblocked : ∀ t call, s.callers t ≠ .blocked call := by
      intro t call ht
      have hpos := hok.waits.blocked t call ht
      omega
    have hidle : ∀ t, s.callers t = .idle := by
      intro t
      refine (hok.idle_or_joining hquiet (by rw [hn]; rfl) hblocked t).resolve_right ?_
      exact fun hjoining => hstops.passed t (.inr hjoining) n hn
    refine ⟨hidle, fun hstopped => ?_⟩
    rcases hstops.stopped hstopped with hl | hl | ⟨t, ht⟩
    · rw [hn] at hl
      cases hl
    · exact hl
    · rw [hidle t] at ht
      cases ht

/-- However many threads add and remove handlers, and from handlers too, in whatever order: if the
destructor is only called once the listener has started, then from any state that is reached the
threads take a bounded number of steps by themselves, and when they can take no more, every call has
returned. -/
theorem calls_return [Fintype ι] {as : List (Label ι)}
    (hmeets : (machine ι eventFd).Meets StopsStarted (machine ι eventFd).init as)
    (hrun : (machine ι eventFd).run (machine ι eventFd).init as = some s) :
    (∃ bound, ∀ bs t, (∀ b ∈ bs, Internal eventFd b) → (machine ι eventFd).run s bs = some t →
      bs.length ≤ bound) ∧
    ∀ bs t, (∀ b ∈ bs, Internal eventFd b) → (machine ι eventFd).run s bs = some t →
      Quiet eventFd t → (∀ i, t.callers i = .idle) ∧ (t.running = false → t.listener = .exited) := by
  have hall := Machine.always_of_meets (M := machine ι eventFd)
    (I := fun u => Ok eventFd u ∧ Stops u) (P := fun u => Ok eventFd u ∧ Stops u) (fun _ => id)
    (fun u a v hu hc hstep =>
      ⟨hu.1.step hstep, hu.2.step hu.1.locks hc (transition_of_step hstep)⟩)
    ⟨ok_init, stops_init⟩ hmeets
  rw [← List.append_nil as] at hall
  obtain ⟨hok, hstops⟩ := hall.of_run hrun
  constructor
  · refine ⟨s.steps eventFd, fun bs t hbs hbrun => ?_⟩
    refine Machine.length_le_of_measure (F := Internal eventFd) (I := Ok eventFd) ?_ hbs hok hbrun
    intro u a v ha hu hstep
    exact ⟨hu.step hstep, steps_lt hu.table (transition_of_step hstep) ha⟩
  · intro bs t hbs hbrun hquiet
    have hend : Ok eventFd t ∧ Stops t := by
      refine Machine.run_invariant_of (F := Internal eventFd)
        (I := fun u => Ok eventFd u ∧ Stops u) ?_ hbs ⟨hok, hstops⟩ hbrun
      rintro u a v ha ⟨hu, hs⟩ hstep
      refine ⟨hu.step hstep, hs.step hu.locks ?_ (transition_of_step hstep)⟩
      rintro i rfl
      exact ha.elim
    exact hend.1.returned hend.2 hquiet

/-- A thread adds a handler as the listener starts. -/
theorem calls_return_add : ∃ s : State Unit,
    (machine Unit 3).run (machine Unit 3).init [.start, .call (some ()) (.add 5)] = some s ∧
    ∀ bs t, (∀ b ∈ bs, Internal 3 b) → (machine Unit 3).run s bs = some t → Quiet 3 t →
      (∀ i, t.callers i = .idle) ∧ (t.running = false → t.listener = .exited) := by
  have hmeets : (machine Unit 3).Meets StopsStarted (machine Unit 3).init
      [.start, .call (some ()) (.add 5)] := by
    refine .cons rfl ?_ (.cons rfl ?_ trivial)
    · intro t h
      cases h
    · intro t h
      cases h
  exact ⟨_, rfl, (calls_return hmeets rfl).2⟩

/-! ## Handlers -/

theorem ok_of_reachable (h : (machine ι eventFd).Reachable s) : Ok eventFd s :=
  Machine.invariant ok_init (fun _ _ _ hok hstep => hok.step hstep) h

/-- While the listener waits, its buffer has room for all descriptors of the epoll set, which are those
of the table, and nobody is at the table. -/
theorem buffer_fits (h : (machine ι eventFd).Reachable s) {n : Nat} (hn : s.listener = .waiting n) :
    n = s.epoll.card ∧ (∀ fd, fd ∈ s.epoll ↔ fd ∈ s.fds.keys) ∧
      ∀ t call, s.callers t ≠ .yielded call := by
  have hok := ok_of_reachable h
  refine ⟨?_, hok.table.epoll, fun t call ht => hok.locks.yielded_not_waiting ht hn⟩
  have hset : s.epoll = s.fds.keys.toFinset := by
    ext fd
    rw [hok.table.epoll, List.mem_toFinset]
  rw [hok.waits.size n hn, hset, List.toFinset_card_of_nodup (SortedMap.nodup_keys s.fds)]

/-- The listener of a monitor that is not used. -/
theorem buffer_fits_start : ∃ s : State Unit,
    (machine Unit 3).run (machine Unit 3).init [.start, .check] = some s ∧ 1 = s.epoll.card :=
  ⟨_, rfl, (buffer_fits ⟨[.start, .check], rfl⟩ rfl).1⟩

omit [DecidableEq ι] in
/-- A call brings at most a new handler to the table. -/
theorem find?_perform {done : Bool} {call : Call} {fd : Int} {handler : Nat}
    (h : (perform s done call).fds.find? fd = some (some handler)) (hold : handler < s.nextHandler) :
    s.fds.find? fd = some (some handler) := by
  cases call with
  | add new =>
    rw [perform] at h
    split at h
    next => exact h
    next hnew =>
      split at h
      next =>
        rcases (find?_emplace_iff hnew).mp h with ⟨-, hvalue⟩ | h
        · cases hvalue
          exact absurd hold (Nat.lt_irrefl _)
        · exact h
      next => exact h
  | remove gone => exact find?_of_erase h
  | stop => exact h

/-- A handler that is there after a step, or called by it, was there or is new. -/
theorem find?_of_transition (hstep : Transition eventFd s a s') {fd : Int}
    {handler : Nat} (h : s'.fds.find? fd = some (some handler)) (hold : handler < s.nextHandler) :
    s.fds.find? fd = some (some handler) := by
  cases hstep with
  | finish caller performed => exact find?_perform (by rw [performed]; exact h) hold
  | _ => exact h

theorem nextHandler_le (hstep : Transition eventFd s a s') : s.nextHandler ≤ s'.nextHandler := by
  cases hstep with
  | @finish t call done fds nextHandler epoll caller performed =>
    have hnext : (perform s done call).nextHandler = nextHandler := by rw [performed]
    show s.nextHandler ≤ nextHandler
    rw [← hnext]
    cases call with
    | add fd =>
      rw [perform]
      split
      next => exact Nat.le_refl _
      next =>
        split
        next => exact Nat.le_succ _
        next => exact Nat.le_refl _
    | _ => exact Nat.le_refl _
  | _ => exact Nat.le_refl _

/-- The call of a handler begins with the handler in the table. -/
theorem handling_of_transition (hstep : Transition eventFd s a s') {handler : Nat} {event : Event}
    {rest : List Event} (h : s'.listener = .handling handler event rest) :
    s.listener = .handling handler event rest ∨
      s.fds.find? event.fd = some (some handler) := by
  cases hstep with
  | handle dispatching registered =>
    cases h
    exact .inr registered
  | call | lockYield | tryLock | signal | lockRun | finish | join => exact .inl h
  | _ => cases h

/-- A handler that is not in the table any more is not called again, whatever events the listener has
and whatever is added; it may be running. -/
theorem removed_of_run (h : (machine ι eventFd).Reachable s) {handler : Nat}
    (hold : handler < s.nextHandler) (hremoved : ∀ fd, s.fds.find? fd ≠ some (some handler))
    {as : List (Label ι)} {t : State ι} (hrun : (machine ι eventFd).run s as = some t) :
    (∀ fd, t.fds.find? fd ≠ some (some handler)) ∧
      ∀ event rest, t.listener = .handling handler event rest →
        s.listener = .handling handler event rest := by
  let I : State ι → Prop := fun u => Ok eventFd u ∧ handler < u.nextHandler ∧
    (∀ fd, u.fds.find? fd ≠ some (some handler)) ∧
      ∀ event rest, u.listener = .handling handler event rest →
        s.listener = .handling handler event rest
  have hinv : I t := by
    refine Machine.run_invariant (I := I) ?_
      ⟨ok_of_reachable h, hold, hremoved, fun _ _ => id⟩ hrun
    rintro u a v ⟨hok, hlt, hgone, hcalled⟩ hstep
    have htransition := transition_of_step hstep
    refine ⟨hok.step hstep, hlt.trans_le (nextHandler_le htransition), ?_, ?_⟩
    · exact fun fd hfd => hgone fd (find?_of_transition htransition hfd hlt)
    · intro event rest hhandling
      rcases handling_of_transition htransition hhandling with hsame | hthere
      · exact hcalled event rest hsame
      · exact absurd hthere (hgone event.fd)
  exact hinv.2.2

/-- A handler is added and removed again. -/
def addAndRemove : List (Label Unit) :=
  [.call (some ()) (.add 5), .lockYield (some ()), .tryLock (some ()), .finish (some ()) true,
    .call (some ()) (.remove 5), .lockYield (some ()), .tryLock (some ()), .finish (some ()) true]

theorem removed_of_run_addAndRemove : ∃ s t,
    (machine Unit 3).run (machine Unit 3).init addAndRemove = some s ∧
    (machine Unit 3).run s [.start, .call (some ()) (.add 5)] = some t ∧
    ∀ fd, t.fds.find? fd ≠ some (some 0) := by
  refine ⟨_, _, rfl, rfl, (@removed_of_run _ 3 _ _ ⟨addAndRemove, rfl⟩ 0 (by decide) ?_
    [.start, .call (some ()) (.add 5)] _ rfl).1⟩
  intro fd h
  have hmem : (fd, some 0) ∈ [((3 : Int), (none : Option Nat))] :=
    (SortedMap.find?_eq_some_iff fdLess_linear).mp h
  cases (Prod.mk.inj (List.mem_singleton.mp hmem)).2

end Logid.Backend.Raw.IOMonitor
