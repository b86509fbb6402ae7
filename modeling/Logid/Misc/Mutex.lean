import Mathlib.Logic.Function.Basic

/-!
# Mutexes and where threads stand

A mutex is the thread that owns it, if there is one. The program says where its threads stand, and at
each place whether the mutex is held there. The two agree when the owner is the one thread that stands
where the mutex is held; the rules below keep this when a thread takes the mutex, gives it back, or
moves without it.
-/

namespace Mutex

variable {κ : Type*} {owner : Option κ} {holds : κ → Bool} {k l : κ}

/-- The owner is who stands where the mutex is held. -/
def Agrees (owner : Option κ) (holds : κ → Bool) : Prop := ∀ k, owner = some k ↔ holds k = true

theorem Agrees.unique (h : Agrees owner holds) (hk : holds k = true) (hl : holds l = true) :
    k = l := by
  have howner := (h k).mpr hk
  rw [(h l).mpr hl, Option.some_inj] at howner
  exact howner.symm

theorem Agrees.holds_of_ne (h : Agrees owner holds) (hk : holds k = true) (hl : l ≠ k) :
    holds l = false := by
  by_contra hheld
  exact hl (h.unique (Bool.not_eq_false _ ▸ hheld) hk)

theorem Agrees.eq_none_iff (h : Agrees owner holds) : owner = none ↔ ∀ k, holds k = false := by
  constructor
  · intro hnone k
    by_contra hheld
    have howner := (h k).mpr (Bool.not_eq_false _ ▸ hheld)
    rw [hnone] at howner
    cases howner
  · intro hfree
    cases howner : owner with
    | none => rfl
    | some k =>
      have hheld := (h k).mp howner
      rw [hfree k] at hheld
      cases hheld

variable [DecidableEq κ]

/-- A thread takes the free mutex. -/
theorem Agrees.take (h : Agrees owner holds) (hfree : owner = none) (k : κ) :
    Agrees (some k) (Function.update holds k true) := by
  intro l
  by_cases hl : l = k
  · subst hl
    simp
  · rw [Function.update_of_ne hl, h.eq_none_iff.mp hfree l, Option.some_inj]
    simp [Ne.symm hl]

/-- Its owner gives it back. -/
theorem Agrees.release (h : Agrees owner holds) (hk : holds k = true) :
    Agrees none (Function.update holds k false) := by
  intro l
  by_cases hl : l = k
  · subst hl
    simp
  · rw [Function.update_of_ne hl, h.holds_of_ne hk hl]
    simp

/-- A thread moves without taking it or giving it back. -/
theorem Agrees.stay (h : Agrees owner holds) {b : Bool} (hk : holds k = b) :
    Agrees owner (Function.update holds k b) := by
  rw [← hk, Function.update_eq_self]
  exact h

end Mutex
