import Logid.Backend.Hidpp.Proofs.ResponseSlots

/-!
# Which reply a request gets

A slot compares one byte of a reply with the request. What else a reply should have in common with
its request, the relation `R` below, holds of the report that `sendReport` returns in every run
in which it holds of the replies that arrive while a request with their key is pending.
-/

namespace Logid.Backend.Hidpp.ResponseMux

variable {ε : Type} {n : Nat} {ι : Type} (m : ResponseMux ε n) (R : Report → Report → Prop)

/-- A reply that arrives while a request with its key is pending belongs to it. -/
def Solicited (s : State ε n ι) (a : Label ι) : Prop :=
  ∀ report, a = .report report → m.IsReply report → ∀ c request,
    s.callers c = .waiting request → m.key report = m.key request → R report request

/-- Every report returned belongs to the request it is returned for. -/
def Matches (s : State ε n ι) : Prop :=
  ∀ c request report, s.callers c = .done request (.returned report) →
    m.key report = m.key request ∧ R report request

/-- The invariant behind `Matches`: the reply that a slot holds belongs to its pending request. -/
structure MatchInv (s : State ε n ι) : Prop where
  inv : m.Inv s
  held : ∀ {c request report}, s.callers c = .waiting request →
    (s.slots (m.slotOf request)).response = some (.inl report) →
      m.key report = m.key request ∧ R report request
  returned : m.Matches R s

variable [DecidableEq ι] {m R}

theorem matchInv_init : m.MatchInv R (machine m (ι := ι)).init where
  inv := m.inv_init
  held h := by cases h
  returned c request report h := by cases h

theorem MatchInv.queue {s : State ε n ι} (hs : m.MatchInv R s) (c : ι) (request : Report)
    (b : Bool) :
    m.MatchInv R { s with callers := Function.update s.callers c (.queued request b) } where
  inv := hs.inv.queue c request b
  held := by
    intro d r report h hresp
    by_cases hd : d = c
    · simp [hd] at h
    · simp only [Function.update_of_ne hd] at h
      exact hs.held h hresp
  returned := by
    intro d r report h
    by_cases hd : d = c
    · simp [hd] at h
    · simp only [Function.update_of_ne hd] at h
      exact hs.returned d r report h

theorem MatchInv.acquire {s : State ε n ι} (hs : m.MatchInv R s) {c : ι} {request : Report}
    {env : Raw.WriteEnv} (hfree : (s.slots (m.slotOf request)).key = none) :
    m.MatchInv R (m.acquire s c request env) where
  inv := hs.inv.acquire hfree
  held := by
    intro d r report h hresp
    rcases m.acquire_waiting h with ⟨-, rfl⟩ | ⟨-, h⟩
    · simp [ResponseMux.acquire, hs.inv.free hfree] at hresp
    · have hkey := hs.inv.pending h
      have hne : m.slotOf r ≠ m.slotOf request := fun e => by simp [e, hfree] at hkey
      simp only [ResponseMux.acquire, Function.update_of_ne hne] at hresp
      exact hs.held h hresp
  returned := by
    intro d r report h
    by_cases hd : d = c
    · simp only [ResponseMux.acquire, hd, Function.update_self] at h
      split at h <;> cases h
    · simp only [ResponseMux.acquire, Function.update_of_ne hd] at h
      exact hs.returned d r report h

/-- A pending request ends with its time-out, or with what its slot holds. -/
theorem MatchInv.leave {s : State ε n ι} (hs : m.MatchInv R s) {c : ι} {request : Report}
    {e : Exit ε} (hc : s.callers c = .waiting request)
    (he : ∀ report, e = .returned report →
      (s.slots (m.slotOf request)).response = some (.inl report)) :
    m.MatchInv R (m.leave s c request e) where
  inv := hs.inv.leave hc
  held := by
    intro d r report h hresp
    by_cases hd : d = c
    · simp [ResponseMux.leave, hd] at h
    · simp only [ResponseMux.leave, Function.update_of_ne hd] at h
      have hne : m.slotOf r ≠ m.slotOf request := fun e => hd (hs.inv.owner h hc e)
      simp only [ResponseMux.leave, Function.update_of_ne hne] at hresp
      exact hs.held h hresp
  returned := by
    intro d r report h
    by_cases hd : d = c
    · simp only [ResponseMux.leave, hd, Function.update_self] at h
      cases h
      exact hs.held hc (he report rfl)
    · simp only [ResponseMux.leave, Function.update_of_ne hd] at h
      exact hs.returned d r report h

omit [DecidableEq ι] in
theorem MatchInv.stored {s : State ε n ι} (hs : m.MatchInv R s) {report : Report}
    {slots : ResponseSlots ε n} (h : m.responseReport s.slots report = some slots)
    (hsol : m.Solicited R s (.report report)) :
    m.MatchInv R { slots := slots, callers := notifyAll s.callers } where
  inv := hs.inv.stored h
  held := by
    intro c request data hc hresp
    rw [notifyAll_waiting] at hc
    obtain ⟨i, k, response, hkey, rfl, hdata⟩ := m.stores h
    by_cases hi : m.slotOf request = i
    · subst hi
      simp only [Function.update_self, Option.some.injEq] at hresp
      obtain ⟨rfl, hk, hreply⟩ := hdata data hresp
      have hpend := hs.inv.pending hc
      have hmatch : m.key data = m.key request := by
        rw [hkey, hk] at hpend
        exact Option.some.inj hpend
      exact ⟨hmatch, hsol data rfl hreply c request hc hmatch⟩
    · simp only [Function.update_of_ne hi] at hresp
      exact hs.held hc hresp
  returned := by
    intro c request data hc
    rw [notifyAll_done] at hc
    exact hs.returned c request data hc

theorem matchInv_step {s t : State ε n ι} {a : Label ι} (hs : m.MatchInv R s)
    (hsol : m.Solicited R s a) (h : m.step s a = some t) : m.MatchInv R t := by
  cases m.step_transition h with
  | queue _ _ => exact hs.queue _ _ _
  | acquire _ free => exact hs.acquire free
  | @answered _ c request response wait stored _ =>
    refine hs.leave wait fun report he => ?_
    cases response with
    | inl data =>
      cases he
      exact stored
    | inr err => cases he
  | timedOut wait _ => exact hs.leave wait fun report he => by cases he
  | wait _ _ => exact hs
  | ignored _ => exact hs
  | stored hresp => exact hs.stored hresp hsol

/-- In a run whose replies are all solicited, every report returned belongs to its request. -/
theorem always_matches {as : List (Label ι)}
    (h : (machine m).Meets (m.Solicited R) (machine m).init as) :
    (machine m).Always (m.Matches R) (machine m).init as :=
  Machine.always_of_meets (I := m.MatchInv R) (fun _ hs => hs.returned)
    (fun _ _ _ hs hsol hstep => matchInv_step hs hsol hstep) matchInv_init h

end Logid.Backend.Hidpp.ResponseMux
