import Logid.Backend.Hidpp.Proofs.ResponseSlots

/-!
# How a slot is taken, freed and waited for

The exits of `sendReport` seen from its slot: which of them free it, and who is woken when they do.
Every exit but that of a failed write frees the slot, and no exit notifies the threads queued for
it: they depend on the `notify_all` of the report that came before.
-/

namespace Logid.Backend.Hidpp.ResponseMux

open Logid.Backend.Raw (Errno WriteEnv)

variable {ε : Type} {n : Nat} {ι : Type}

/-- The thread that a step is taken by; `none` for the I/O thread. -/
def Label.thread : Label ι → Option ι
  | .call c .. | .wake c _ | .timeout c => some c
  | .report _ => none

variable (m : ResponseMux ε n)

/-- What the kernel answers to the write of a step, when the step gets to its write. -/
def writes (s : State ε n ι) : Label ι → Option WriteEnv
  | .call _ request env => if (s.slots (m.slotOf request)).key.isNone then some env else none
  | .wake c env =>
    match s.callers c with
    | .queued request _ => if (s.slots (m.slotOf request)).key.isNone then some env else none
    | .idle | .waiting _ | .done .. => none
  | .timeout _ | .report _ => none

/-- The write of the step, if it makes one, does not throw. -/
def WriteOk (s : State ε n ι) (a : Label ι) : Prop :=
  ∀ env, m.writes s a = some env → Raw.sendReport env = .ok ()

/-- The slot whose request a step ends, by its response or by its time-out. -/
def frees (s : State ε n ι) : Label ι → Option (Fin n)
  | .wake c _ =>
    match s.callers c with
    | .waiting request =>
      if (s.slots (m.slotOf request)).response.isSome then some (m.slotOf request) else none
    | .idle | .queued .. | .done .. => none
  | .timeout c =>
    match s.callers c with
    | .waiting request => some (m.slotOf request)
    | .idle | .queued .. | .done .. => none
  | .call .. | .report _ => none

/-- Thread `c` is in the first wait for slot `i`. -/
def Queued (s : State ε n ι) (i : Fin n) (c : ι) (notified : Bool) : Prop :=
  ∃ request, s.callers c = .queued request notified ∧ m.slotOf request = i

/-- Thread `c` is not in a call. -/
def Outside (s : State ε n ι) (c : ι) : Prop :=
  s.callers c = .idle ∨ ∃ request e, s.callers c = .done request e

/-- A request for slot `i` is written and not answered. -/
def InFlight (s : State ε n ι) (i : Fin n) : Prop :=
  ∃ c request, s.callers c = .waiting request ∧ m.slotOf request = i

/-- A mark that no pending request stands behind, as a failed write leaves it. -/
def Wedged (s : State ε n ι) (i : Fin n) : Prop := (s.slots i).key ≠ none ∧ ¬ m.InFlight s i

/-- A free slot, nothing in flight for it, and a thread that waits for it un-notified. -/
def LostWakeup (s : State ε n ι) : Prop :=
  ∃ i, (s.slots i).key = none ∧ ¬ m.InFlight s i ∧ ∃ c, m.Queued s i c false

/-- The same, with no notification pending for any thread that waits for the slot. -/
def Stalled (s : State ε n ι) : Prop :=
  ∃ i, (s.slots i).key = none ∧ ¬ m.InFlight s i ∧ (∃ c, m.Queued s i c false) ∧
    ∀ c, ¬ m.Queued s i c true

/-- No thread sleeps in the queue of a slot that the step frees. -/
def FreesUnwatched (s : State ε n ι) (a : Label ι) : Prop :=
  ∀ i, m.frees s a = some i → ∀ c, ¬ m.Queued s i c false

/-- When the step frees a slot that a thread sleeps for, another thread of its queue is awake. -/
def FreesWatched (s : State ε n ι) (a : Label ι) : Prop :=
  ∀ i, m.frees s a = some i → (∃ c, m.Queued s i c false) → ∃ c, m.Queued s i c true

variable {m}

theorem writes_of_tries {s : State ε n ι} {a : Label ι} {c : ι} {request : Report}
    {env : WriteEnv} (h : Tries s c request env a)
    (hfree : (s.slots (m.slotOf request)).key = none) : m.writes s a = some env := by
  cases h with
  | call _ _ => simp [writes, hfree]
  | wake h => simp [writes, h, hfree]

theorem thread_of_tries {s : State ε n ι} {a : Label ι} {c : ι} {request : Report}
    {env : WriteEnv} (h : Tries s c request env a) : a.thread = some c := by
  cases h <;> rfl

theorem frees_of_tries {s : State ε n ι} {a : Label ι} {c : ι} {request : Report}
    {env : WriteEnv} (h : Tries s c request env a) : m.frees s a = none := by
  cases h with
  | call _ _ => rfl
  | wake h => simp [frees, h]

/-- A thread that tries for a slot is queued for no other. -/
theorem slot_of_tries {s : State ε n ι} {a : Label ι} {c : ι} {request : Report}
    {env : WriteEnv} (h : Tries s c request env a) {i : Fin n} {b : Bool}
    (hq : m.Queued s i c b) : m.slotOf request = i := by
  obtain ⟨r, hr, hi⟩ := hq
  cases h with
  | call h _ => exact absurd hr (h r b)
  | wake h =>
    rw [h] at hr
    cases hr
    exact hi

theorem frees_of_answered {s : State ε n ι} {a : Label ι} {c : ι} {request : Report}
    {response : Report ⊕ ε} (wait : s.callers c = .waiting request)
    (stored : (s.slots (m.slotOf request)).response = some response)
    (label : a = .timeout c ∨ ∃ env, a = .wake c env) : m.frees s a = some (m.slotOf request) := by
  rcases label with rfl | ⟨env, rfl⟩ <;> simp [frees, wait, stored]

variable [DecidableEq ι]

/-- When a call of `sendReport` ends, its slot is back in its initial state exactly if the step
threw nothing from a write. -/
theorem exit_frees_iff {s t : State ε n ι} {a : Label ι} {c : ι} {request : Report} {e : Exit ε}
    (h : m.Transition s a t) (hc : a.thread = some c) (ht : t.callers c = .done request e) :
    t.slots (m.slotOf request) = {} ↔ m.WriteOk s a := by
  cases h with
  | queue try_ busy =>
    rw [thread_of_tries try_] at hc
    cases hc
    simp at ht
  | @acquire _ d request env try_ free =>
    rw [thread_of_tries try_] at hc
    cases hc
    have hw := writes_of_tries try_ free
    simp only [acquire, Function.update_self] at ht
    split at ht
    next => cases ht
    next err herr =>
      cases ht
      have hmark : (m.acquire s c request env).slots (m.slotOf request) ≠ {} := fun h => by
        have hkey := congrArg ResponseSlot.key h
        simp [acquire] at hkey
      refine ⟨fun h => absurd h hmark, fun h => ?_⟩
      rw [h _ hw] at herr
      cases herr
  | @answered _ d r response wait stored label =>
    have hd : d = c := by
      rcases label with rfl | ⟨env, rfl⟩ <;> simpa [Label.thread] using hc
    subst hd
    simp only [leave, Function.update_self] at ht ⊢
    cases ht
    refine ⟨fun _ env henv => ?_, fun _ => by simp [ResponseSlot.reset]⟩
    rcases label with rfl | ⟨env', rfl⟩ <;> simp [writes, wait] at henv
  | @timedOut d r wait empty =>
    have hd : d = c := by simpa [Label.thread] using hc
    subst hd
    simp only [leave, Function.update_self] at ht ⊢
    cases ht
    exact ⟨fun _ env henv => by simp [writes] at henv, fun _ => by simp [ResponseSlot.reset]⟩
  | @wait d r env wait empty =>
    have hd : d = c := by simpa [Label.thread] using hc
    subst hd
    rw [wait] at ht
    cases ht
  | ignored h => cases hc
  | stored h => cases hc

/-- A request for a free slot is written without waiting. -/
theorem call_of_free {s : State ε n ι} {c : ι} (hc : Outside s c) {request : Report}
    (hfree : s.slots (m.slotOf request) = {}) (env : WriteEnv) :
    m.step s (.call c request env) = some (m.acquire s c request env) := by
  have hkey : (s.slots (m.slotOf request)).key = none := by rw [hfree]
  rcases hc with hc | ⟨r, e, hc⟩ <;> simp [step, hc, awaitSlot, hkey]

/-- The two together: a call that ends without an exception of its write leaves its slot ready for
the next request. -/
theorem released_of_exit {s t : State ε n ι} {a : Label ι} {c : ι} {request : Report}
    {e : Exit ε} (h : m.step s a = some t) (hc : a.thread = some c)
    (ht : t.callers c = .done request e) :
    (t.slots (m.slotOf request) = {} ↔ m.WriteOk s a) ∧
      (m.WriteOk s a → ∀ d r env, Outside t d → m.slotOf r = m.slotOf request →
        m.step t (.call d r env) = some (m.acquire t d r env)) := by
  have hiff := exit_frees_iff (m.step_transition h) hc ht
  refine ⟨hiff, fun hok d r env hd hslot => ?_⟩
  exact call_of_free hd (by rw [hslot]; exact hiff.mpr hok) env

/-- The slots free after a step were free before it or are freed by it. -/
theorem free_of_transition {s t : State ε n ι} {a : Label ι} (h : m.Transition s a t) {i : Fin n}
    (ht : (t.slots i).key = none) : (s.slots i).key = none ∨ m.frees s a = some i := by
  cases h with
  | queue _ _ => exact .inl ht
  | @acquire _ c request env _ _ =>
    by_cases hi : i = m.slotOf request
    · simp [acquire, hi] at ht
    · exact .inl (by simpa [acquire, Function.update_of_ne hi] using ht)
  | @answered _ c request response wait stored label =>
    by_cases hi : i = m.slotOf request
    · exact .inr (by rw [frees_of_answered wait stored label, hi])
    · exact .inl (by simpa [leave, Function.update_of_ne hi] using ht)
  | @timedOut c request wait empty =>
    by_cases hi : i = m.slotOf request
    · exact .inr (by simp [frees, wait, hi])
    · exact .inl (by simpa [leave, Function.update_of_ne hi] using ht)
  | wait _ _ => exact .inl ht
  | ignored _ => exact .inl ht
  | stored h => exact .inl (by rwa [key_of_responseReport h] at ht)

omit [DecidableEq ι] in
theorem inFlight_of_frees {s : State ε n ι} {a : Label ι} {i : Fin n}
    (h : m.frees s a = some i) : m.InFlight s i := by
  unfold frees at h
  split at h
  next c _ =>
    split at h
    next request hc =>
      split at h
      next =>
        cases h
        exact ⟨c, request, hc, rfl⟩
      next => cases h
    all_goals cases h
  next c =>
    split at h
    next request hc =>
      cases h
      exact ⟨c, request, hc, rfl⟩
    all_goals cases h
  all_goals cases h

/-- A pending request was pending before the step, or found its slot free. -/
theorem waiting_of_transition {s t : State ε n ι} {a : Label ι} (h : m.Transition s a t) {c : ι}
    {request : Report} (hc : t.callers c = .waiting request) :
    s.callers c = .waiting request ∨ (s.slots (m.slotOf request)).key = none := by
  cases h with
  | @queue _ d r env k try_ busy =>
    by_cases hd : c = d
    · simp [hd] at hc
    · simp only [Function.update_of_ne hd] at hc
      exact .inl hc
  | acquire _ free =>
    rcases m.acquire_waiting hc with ⟨-, rfl⟩ | ⟨-, hc⟩
    · exact .inr free
    · exact .inl hc
  | @answered _ d r response wait stored label =>
    by_cases hd : c = d
    · simp [leave, hd] at hc
    · simp only [leave, Function.update_of_ne hd] at hc
      exact .inl hc
  | @timedOut d r wait empty =>
    by_cases hd : c = d
    · simp [leave, hd] at hc
    · simp only [leave, Function.update_of_ne hd] at hc
      exact .inl hc
  | wait _ _ => exact .inl hc
  | ignored _ => exact .inl hc
  | stored _ => exact .inl (by simpa using hc)

theorem free_of_frees {s t : State ε n ι} {a : Label ι} (h : m.Transition s a t) {i : Fin n}
    (hi : m.frees s a = some i) : (t.slots i).key = none := by
  cases h with
  | queue try_ _ => simp [frees_of_tries try_] at hi
  | acquire try_ _ => simp [frees_of_tries try_] at hi
  | answered wait stored label =>
    rw [frees_of_answered wait stored label] at hi
    cases hi
    simp [leave, ResponseSlot.reset]
  | timedOut wait _ =>
    simp only [frees, wait, Option.some.injEq] at hi
    subst hi
    simp [leave, ResponseSlot.reset]
  | wait wait empty => simp [frees, wait, empty] at hi
  | ignored _ => cases hi
  | stored _ => cases hi

/-- A step that notifies nobody leaves the queue of a slot as it is when the slot is free after
the step: only a thread that finds its slot busy, or takes it, moves. -/
theorem queued_iff_of_free {s t : State ε n ι} {a : Label ι} (h : m.Transition s a t)
    (ha : a.thread ≠ none) {i : Fin n} (hi : (t.slots i).key = none) (c : ι) (b : Bool) :
    m.Queued t i c b ↔ m.Queued s i c b := by
  cases h with
  | @queue _ d request env k try_ busy =>
    by_cases hc : c = d
    · subst hc
      refine ⟨?_, fun hq => ?_⟩
      · intro hex
        obtain ⟨r, hr, rfl⟩ := hex
        simp only [Function.update_self, Caller.queued.injEq] at hr
        obtain ⟨rfl, -⟩ := hr
        simp [busy] at hi
      · rw [← slot_of_tries try_ hq, busy] at hi
        cases hi
    · simp [Queued, Function.update_of_ne hc]
  | @acquire _ d request env try_ free =>
    by_cases hc : c = d
    · subst hc
      refine ⟨?_, fun hq => ?_⟩
      · intro hex
        obtain ⟨r, hr, -⟩ := hex
        simp only [acquire, Function.update_self] at hr
        split at hr <;> cases hr
      · rw [← slot_of_tries try_ hq] at hi
        simp [acquire] at hi
    · simp [Queued, acquire, Function.update_of_ne hc]
  | @answered _ d request response wait stored label =>
    by_cases hc : c = d
    · subst hc
      simp [Queued, leave, wait]
    · simp [Queued, leave, Function.update_of_ne hc]
  | @timedOut d request wait empty =>
    by_cases hc : c = d
    · subst hc
      simp [Queued, leave, wait]
    · simp [Queued, leave, Function.update_of_ne hc]
  | wait _ _ => rfl
  | ignored _ => exact absurd rfl ha
  | stored _ => exact absurd rfl ha

omit [DecidableEq ι] in
/-- In a state that satisfies the invariant nothing is in flight for a free slot. -/
theorem Inv.not_inFlight {s : State ε n ι} (hs : m.Inv s) {i : Fin n}
    (hi : (s.slots i).key = none) : ¬ m.InFlight s i := by
  intro hex
  obtain ⟨c, request, hc, rfl⟩ := hex
  rw [hs.pending hc] at hi
  cases hi

/-- A failed write leaves its slot marked with nobody waiting. -/
theorem wedged_of_write_error {s : State ε n ι} (hs : m.Inv s) {c : ι} {request : Report}
    {env : WriteEnv} {err : Errno} (hfree : (s.slots (m.slotOf request)).key = none)
    (herr : Raw.sendReport env = .error err) :
    m.Wedged (m.acquire s c request env) (m.slotOf request) := by
  refine ⟨by simp [acquire], ?_⟩
  intro hex
  obtain ⟨d, r, hd, hslot⟩ := hex
  by_cases hdc : d = c
  · subst hdc
    simp [acquire, herr] at hd
  · simp only [acquire, Function.update_of_ne hdc] at hd
    exact hs.not_inFlight hfree ⟨d, r, hd, hslot⟩

/-- Nothing frees such a slot: every later request for it waits for ever. -/
theorem wedged_step {s t : State ε n ι} {a : Label ι} {i : Fin n} (hs : m.Wedged s i)
    (h : m.step s a = some t) : m.Wedged t i := by
  obtain ⟨hkey, hflight⟩ := hs
  have htr := m.step_transition h
  refine ⟨fun hfree => ?_, ?_⟩
  · rcases free_of_transition htr hfree with hnone | hfrees
    · exact hkey hnone
    · exact hflight (inFlight_of_frees hfrees)
  · intro hex
    obtain ⟨d, r, hd, rfl⟩ := hex
    rcases waiting_of_transition htr hd with hd | hfree
    · exact hflight ⟨d, r, hd, rfl⟩
    · exact hkey hfree

theorem wedged_run {s t : State ε n ι} {as : List (Label ι)} {i : Fin n} (hs : m.Wedged s i)
    (h : (machine m).run s as = some t) : m.Wedged t i :=
  Machine.run_invariant (I := fun s => m.Wedged s i) (fun _ _ _ hs h => wedged_step hs h) hs h

/-- The call whose write throws leaves its slot so. -/
theorem wedged_of_writeFailed {s t : State ε n ι} {a : Label ι} {c : ι} {request : Report}
    {err : Errno} (hs : m.Inv s) (h : m.Transition s a t) (hc : a.thread = some c)
    (ht : t.callers c = .done request (.writeFailed err)) : m.Wedged t (m.slotOf request) := by
  cases h with
  | @acquire _ d r env try_ free =>
    rw [thread_of_tries try_] at hc
    cases hc
    simp only [acquire, Function.update_self] at ht
    split at ht
    next => cases ht
    next herr =>
      cases ht
      exact wedged_of_write_error hs free herr
  | @queue _ d _ _ _ try_ _ =>
    rw [thread_of_tries try_] at hc
    cases hc
    simp at ht
  | @answered _ d _ response wait stored label =>
    have hd : d = c := by
      rcases label with rfl | ⟨env, rfl⟩ <;> simpa [Label.thread] using hc
    subst hd
    cases response <;> simp [leave, Exit.ofResponse] at ht
  | @timedOut d _ wait empty =>
    have hd : d = c := by simpa [Label.thread] using hc
    subst hd
    simp [leave] at ht
  | @wait d _ _ wait _ =>
    have hd : d = c := by simpa [Label.thread] using hc
    subst hd
    rw [wait] at ht
    cases ht
  | ignored _ => cases hc
  | stored _ => cases hc

/-- A thread queued for a marked slot stays queued: it can wake, but it finds the slot marked. -/
theorem queued_of_marked {s t : State ε n ι} {a : Label ι} {c : ι} {request : Report} {b : Bool}
    (h : m.Transition s a t) (hmark : (s.slots (m.slotOf request)).key ≠ none)
    (hq : s.callers c = .queued request b) : ∃ b', t.callers c = .queued request b' := by
  have hwait : ∀ {d r}, s.callers d = .waiting r → c ≠ d := by
    rintro d r hd rfl
    rw [hq] at hd
    cases hd
  cases h with
  | @queue _ d r _ _ try_ _ =>
    by_cases hd : c = d
    · subst hd
      cases try_ with
      | call h _ => exact absurd hq (h request b)
      | wake h =>
        rw [hq] at h
        cases h
        exact ⟨false, Function.update_self ..⟩
    · exact ⟨b, by simpa only [Function.update_of_ne hd] using hq⟩
  | @acquire _ d r env try_ free =>
    have hd : c ≠ d := by
      rintro rfl
      rw [slot_of_tries try_ ⟨request, hq, rfl⟩] at free
      exact hmark free
    exact ⟨b, by simpa [acquire, Function.update_of_ne hd] using hq⟩
  | answered wait _ _ => exact ⟨b, by simpa [leave, Function.update_of_ne (hwait wait)] using hq⟩
  | timedOut wait _ => exact ⟨b, by simpa [leave, Function.update_of_ne (hwait wait)] using hq⟩
  | wait _ _ => exact ⟨b, hq⟩
  | ignored _ => exact ⟨b, hq⟩
  | stored _ => exact ⟨true, by simp [notifyAll, hq, Caller.notify]⟩

/-- A report frees no slot, and afterwards nobody sleeps or nothing has changed. -/
theorem report_wakes {s t : State ε n ι} {a : Label ι} (h : m.Transition s a t)
    (ha : a.thread = none) : (t = s ∨ ∀ i c, ¬ m.Queued t i c false) ∧ m.frees s a = none := by
  cases h with
  | queue try_ _ => simp [thread_of_tries try_] at ha
  | acquire try_ _ => simp [thread_of_tries try_] at ha
  | answered _ _ label => rcases label with rfl | ⟨env, rfl⟩ <;> cases ha
  | timedOut _ _ => cases ha
  | wait _ _ => cases ha
  | ignored _ => exact ⟨.inl rfl, rfl⟩
  | stored _ =>
    refine ⟨.inr fun i c => ?_, rfl⟩
    intro hex
    obtain ⟨request, hq, -⟩ := hex
    simp at hq

theorem not_lostWakeup_step {s t : State ε n ι} {a : Label ι} (hs : m.Inv s)
    (hlost : ¬ m.LostWakeup s) (h : m.step s a = some t) :
    ¬ m.LostWakeup t ↔ m.FreesUnwatched s a := by
  have ht := inv_step hs h
  have htr := m.step_transition h
  by_cases ha : a.thread = none
  · obtain ⟨hsame, hfrees⟩ := report_wakes htr ha
    refine ⟨fun _ i hi => by simp [hfrees] at hi, fun _ => ?_⟩
    rcases hsame with rfl | hawake
    · exact hlost
    · intro hex
      obtain ⟨i, -, -, c, hq⟩ := hex
      exact hawake i c hq
  · constructor
    · intro hnot i hi c hq
      have hfree := free_of_frees htr hi
      exact hnot ⟨i, hfree, ht.not_inFlight hfree, c, (queued_iff_of_free htr ha hfree c _).mpr hq⟩
    · intro hc hex
      obtain ⟨i, hfree, -, c, hq⟩ := hex
      rw [queued_iff_of_free htr ha hfree] at hq
      rcases free_of_transition htr hfree with hkey | hi
      · exact hlost ⟨i, hkey, hs.not_inFlight hkey, c, hq⟩
      · exact hc i hi c hq

theorem not_stalled_step {s t : State ε n ι} {a : Label ι} (hs : m.Inv s)
    (hstalled : ¬ m.Stalled s) (h : m.step s a = some t) :
    ¬ m.Stalled t ↔ m.FreesWatched s a := by
  have ht := inv_step hs h
  have htr := m.step_transition h
  by_cases ha : a.thread = none
  · obtain ⟨hsame, hfrees⟩ := report_wakes htr ha
    refine ⟨fun _ i hi => by simp [hfrees] at hi, fun _ => ?_⟩
    rcases hsame with rfl | hawake
    · exact hstalled
    · intro hex
      obtain ⟨i, -, -, ⟨c, hq⟩, -⟩ := hex
      exact hawake i c hq
  · constructor
    · intro hnot i hi hex
      obtain ⟨c, hq⟩ := hex
      have hfree := free_of_frees htr hi
      by_contra hnone
      refine hnot ⟨i, hfree, ht.not_inFlight hfree, ?_, fun d hd => ?_⟩
      · exact ⟨c, (queued_iff_of_free htr ha hfree c _).mpr hq⟩
      · exact hnone ⟨d, (queued_iff_of_free htr ha hfree d _).mp hd⟩
    · intro hc hex
      obtain ⟨i, hfree, -, ⟨c, hq⟩, hnone⟩ := hex
      rw [queued_iff_of_free htr ha hfree] at hq
      have hnone' : ∀ d, ¬ m.Queued s i d true := fun d hd =>
        hnone d ((queued_iff_of_free htr ha hfree d _).mpr hd)
      rcases free_of_transition htr hfree with hkey | hi
      · exact hstalled ⟨i, hkey, hs.not_inFlight hkey, ⟨c, hq⟩, hnone'⟩
      · obtain ⟨d, hd⟩ := hc i hi ⟨c, hq⟩
        exact hnone' d hd

theorem always_not_lostWakeup (as : List (Label ι)) :
    (machine m).Always (fun s => ¬ m.LostWakeup s) (machine m).init as ↔
      (machine m).Meets m.FreesUnwatched (machine m).init as := by
  refine Machine.always_iff_meets (fun s a t hs _ h _ => inv_step hs h)
    (fun s a t hs hp h => not_lostWakeup_step hs hp h) m.inv_init ?_
  intro hex
  obtain ⟨i, -, -, c, request, hq, -⟩ := hex
  cases hq

theorem always_not_stalled (as : List (Label ι)) :
    (machine m).Always (fun s => ¬ m.Stalled s) (machine m).init as ↔
      (machine m).Meets m.FreesWatched (machine m).init as := by
  refine Machine.always_iff_meets (fun s a t hs _ h _ => inv_step hs h)
    (fun s a t hs hp h => not_stalled_step hs hp h) m.inv_init ?_
  intro hex
  obtain ⟨i, -, -, ⟨c, request, hq, -⟩, -⟩ := hex
  cases hq

end Logid.Backend.Hidpp.ResponseMux
