import Logid.Backend.Hidpp.ResponseSlots

/-!
# Invariants of the response slots

What holds in every reachable state of a class with response slots: a request that is pending has
its slot to itself, and a free slot holds no response.
-/

namespace Logid.Backend.Hidpp.ResponseMux

open Logid.Backend.Raw (Errno WriteEnv)

variable {ε : Type} {n : Nat} {ι : Type}

@[simp] theorem notifyAll_waiting {callers : ι → Caller ε} {c : ι} {request : Report} :
    notifyAll callers c = .waiting request ↔ callers c = .waiting request := by
  unfold notifyAll
  cases callers c <;> simp [Caller.notify]

@[simp] theorem notifyAll_done {callers : ι → Caller ε} {c : ι} {request : Report} {e : Exit ε} :
    notifyAll callers c = .done request e ↔ callers c = .done request e := by
  unfold notifyAll
  cases callers c <;> simp [Caller.notify]

@[simp] theorem notifyAll_queued {callers : ι → Caller ε} {c : ι} {request : Report} {b : Bool} :
    notifyAll callers c = .queued request b ↔ b = true ∧ ∃ b', callers c = .queued request b' := by
  unfold notifyAll
  cases callers c <;> simp [Caller.notify, eq_comm, and_comm]

variable [DecidableEq ι] (m : ResponseMux ε n)

theorem acquire_waiting {s : State ε n ι} {c d : ι} {request r : Report} {env : WriteEnv}
    (h : (m.acquire s c request env).callers d = .waiting r) :
    (d = c ∧ r = request) ∨ (d ≠ c ∧ s.callers d = .waiting r) := by
  by_cases hd : d = c
  · subst hd
    simp only [acquire, Function.update_self] at h
    split at h
    next =>
      cases h
      exact .inl ⟨rfl, rfl⟩
    next => cases h
  · simp only [acquire, Function.update_of_ne hd] at h
    exact .inr ⟨hd, h⟩

/-- The inductive invariant of the slots. -/
structure Inv (s : State ε n ι) : Prop where
  /-- The slot of a pending request is marked with it. -/
  pending : ∀ {c request}, s.callers c = .waiting request →
    (s.slots (m.slotOf request)).key = some (m.key request)
  /-- Two pending requests have different slots. -/
  owner : ∀ {c d request r}, s.callers c = .waiting request → s.callers d = .waiting r →
    m.slotOf request = m.slotOf r → c = d
  /-- A slot without a mark is in its initial state. -/
  free : ∀ {i}, (s.slots i).key = none → s.slots i = {}

theorem inv_init : m.Inv (machine m (ι := ι)).init where
  pending h := by cases h
  owner h := by cases h
  free _ := rfl

variable {m}

theorem Inv.acquire {s : State ε n ι} (hs : m.Inv s) {c : ι} {request : Report} {env : WriteEnv}
    (hfree : (s.slots (m.slotOf request)).key = none) : m.Inv (m.acquire s c request env) where
  pending := by
    intro d r h
    rcases m.acquire_waiting h with ⟨-, rfl⟩ | ⟨-, h⟩
    · simp [ResponseMux.acquire]
    · have hkey := hs.pending h
      have hne : m.slotOf r ≠ m.slotOf request := fun e => by simp [e, hfree] at hkey
      simpa [ResponseMux.acquire, Function.update_of_ne hne] using hkey
  owner := by
    intro d d' r r' h h' hslot
    rcases m.acquire_waiting h with ⟨rfl, rfl⟩ | ⟨-, hd⟩ <;>
      rcases m.acquire_waiting h' with ⟨rfl, rfl⟩ | ⟨-, hd'⟩
    · rfl
    · have hkey := hs.pending hd'
      simp [← hslot, hfree] at hkey
    · have hkey := hs.pending hd
      simp [hslot, hfree] at hkey
    · exact hs.owner hd hd' hslot
  free := by
    intro i h
    by_cases hi : i = m.slotOf request
    · subst hi
      simp [ResponseMux.acquire] at h
    · simp only [ResponseMux.acquire, Function.update_of_ne hi] at h ⊢
      exact hs.free h

theorem Inv.leave {s : State ε n ι} (hs : m.Inv s) {c : ι} {request : Report} {e : Exit ε}
    (hc : s.callers c = .waiting request) : m.Inv (m.leave s c request e) where
  pending := by
    intro d r h
    by_cases hd : d = c
    · simp [ResponseMux.leave, hd] at h
    · simp only [ResponseMux.leave, Function.update_of_ne hd] at h
      have hne : m.slotOf r ≠ m.slotOf request := fun e => hd (hs.owner h hc e)
      simpa [ResponseMux.leave, Function.update_of_ne hne] using hs.pending h
  owner := by
    intro d d' r r' h h' hslot
    by_cases hd : d = c
    · simp [ResponseMux.leave, hd] at h
    · by_cases hd' : d' = c
      · simp [ResponseMux.leave, hd'] at h'
      · simp only [ResponseMux.leave, Function.update_of_ne hd] at h
        simp only [ResponseMux.leave, Function.update_of_ne hd'] at h'
        exact hs.owner h h' hslot
  free := by
    intro i h
    by_cases hi : i = m.slotOf request
    · simp [ResponseMux.leave, hi, ResponseSlot.reset]
    · simp only [ResponseMux.leave, Function.update_of_ne hi] at h ⊢
      exact hs.free h

/-- An accepted report changes no slot's mark. -/
theorem key_of_responseReport {slots slots' : ResponseSlots ε n} {report : Report}
    (h : m.responseReport slots report = some slots') (i : Fin n) :
    (slots' i).key = (slots i).key := by
  obtain ⟨j, k, response, -, rfl, -⟩ := m.stores h
  by_cases hi : i = j
  · subst hi
    simp
  · simp [Function.update_of_ne hi]

omit [DecidableEq ι] in
theorem Inv.stored {s : State ε n ι} (hs : m.Inv s) {report : Report}
    {slots : ResponseSlots ε n} (h : m.responseReport s.slots report = some slots) :
    m.Inv { slots := slots, callers := notifyAll s.callers } where
  pending := by
    intro c request hc
    rw [notifyAll_waiting] at hc
    rw [key_of_responseReport h, hs.pending hc]
  owner := by
    intro c d request r hc hd hslot
    rw [notifyAll_waiting] at hc hd
    exact hs.owner hc hd hslot
  free := by
    intro i hi
    obtain ⟨j, k, response, hkey, rfl, -⟩ := m.stores h
    by_cases hij : i = j
    · subst hij
      simp [hkey] at hi
    · simp only [Function.update_of_ne hij] at hi ⊢
      exact hs.free hi

theorem Inv.queue {s : State ε n ι} (hs : m.Inv s) (c : ι) (request : Report) (b : Bool) :
    m.Inv { s with callers := Function.update s.callers c (.queued request b) } where
  pending := by
    intro d r h
    by_cases hd : d = c
    · simp [hd] at h
    · simp only [Function.update_of_ne hd] at h
      exact hs.pending h
  owner := by
    intro d d' r r' h h' hslot
    by_cases hd : d = c
    · simp [hd] at h
    · by_cases hd' : d' = c
      · simp [hd'] at h'
      · simp only [Function.update_of_ne hd] at h
        simp only [Function.update_of_ne hd'] at h'
        exact hs.owner h h' hslot
  free := hs.free

theorem inv_transition {s t : State ε n ι} {a : Label ι} (hs : m.Inv s)
    (h : m.Transition s a t) : m.Inv t := by
  cases h with
  | queue _ _ => exact hs.queue _ _ _
  | acquire _ free => exact hs.acquire free
  | answered wait _ _ => exact hs.leave wait
  | timedOut wait _ => exact hs.leave wait
  | wait _ _ => exact hs
  | ignored _ => exact hs
  | stored h => exact hs.stored h

theorem inv_step {s t : State ε n ι} {a : Label ι} (hs : m.Inv s) (h : m.step s a = some t) :
    m.Inv t := inv_transition hs (m.step_transition h)

/-- A call that has ended stays so until its thread calls again. -/
theorem done_step {s t : State ε n ι} {a : Label ι} {c : ι} {request : Report} {e : Exit ε}
    (hcall : ∀ r env, a ≠ .call c r env) (hc : s.callers c = .done request e)
    (h : m.step s a = some t) : t.callers c = .done request e := by
  have htries : ∀ {d r env}, Tries s d r env a → c ≠ d := by
    intro d r env htry hd
    subst hd
    cases htry with
    | call _ _ => exact hcall _ _ rfl
    | wake hq =>
      rw [hc] at hq
      cases hq
  have hwait : ∀ {d r}, s.callers d = .waiting r → c ≠ d := by
    intro d r hd e
    rw [← e, hc] at hd
    cases hd
  cases m.step_transition h with
  | queue try_ _ => simpa only [Function.update_of_ne (htries try_)] using hc
  | acquire try_ _ => simpa [acquire, Function.update_of_ne (htries try_)] using hc
  | answered wait _ _ => simpa [leave, Function.update_of_ne (hwait wait)] using hc
  | timedOut wait _ => simpa [leave, Function.update_of_ne (hwait wait)] using hc
  | wait _ _ => exact hc
  | ignored _ => exact hc
  | stored _ => simpa using hc

theorem inv_reachable {s : State ε n ι} (hs : (machine m).Reachable s) : m.Inv s :=
  Machine.invariant m.inv_init (fun _ _ _ hs h => inv_step hs h) hs

end Logid.Backend.Hidpp.ResponseMux
