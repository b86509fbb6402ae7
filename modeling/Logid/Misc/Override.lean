import Mathlib.Data.Option.Basic
import Mathlib.Logic.Function.Basic

/-!
# Partial assignments

A configuration step that writes some of the settings of a device and leaves the others is a partial
assignment. Two such steps after one another are again one (`Override.apply_then`), and
`Override.apply_then_eq_iff` says when the first of them leaves no trace.
-/

/-- What a step writes, for each setting; `none` leaves the setting as it is. -/
abbrev Override (ι α : Type*) := ι → Option α

namespace Override

variable {ι α : Type*}

def apply (w : Override ι α) (h : ι → α) : ι → α := fun i => (w i).getD (h i)

/-- The writes of `w` and then those of `v`. -/
def andThen (w v : Override ι α) : Override ι α := fun i => (v i).or (w i)

/-- Every write of `w` is one of `v`. -/
def Le (w v : Override ι α) : Prop := ∀ i x, w i = some x → v i = some x

theorem apply_some {w : Override ι α} {h : ι → α} {i : ι} {x : α} (hw : w i = some x) :
    w.apply h i = x := by
  rw [apply, hw, Option.getD_some]

theorem apply_none {w : Override ι α} {h : ι → α} {i : ι} (hw : w i = none) :
    w.apply h i = h i := by
  rw [apply, hw, Option.getD_none]

theorem apply_andThen (w v : Override ι α) (h : ι → α) :
    (w.andThen v).apply h = v.apply (w.apply h) := by
  funext i
  rw [apply, andThen, apply]
  cases v i with
  | none => rfl
  | some x => rfl

/-- A step writes nothing new exactly where it writes what is there. -/
theorem apply_eq_self_iff {w : Override ι α} {h : ι → α} {i : ι} :
    w.apply h i = h i ↔ ∀ x, w i = some x → h i = x := by
  cases hw : w i with
  | none => simp [apply_none hw]
  | some x => simp [apply_some hw, eq_comm]

/-- After `w`, the step `v` gives what `u` alone gives, where `v` writes all that `u` writes: exactly
if the settings that `u` does not write keep their value under `w` and `v`. -/
theorem apply_then_eq_iff {u w v : Override ι α} (h : ι → α) (hle : u.Le v) :
    v.apply (w.apply h) = u.apply h ↔
      ∀ i, u i = none → ∀ x, (w.andThen v) i = some x → h i = x := by
  rw [← apply_andThen]
  constructor
  · intro heq i hu
    have hi := congrFun heq i
    rw [apply_none hu] at hi
    exact apply_eq_self_iff.mp hi
  · intro hkeep
    funext i
    cases hu : u i with
    | none =>
      rw [apply_none hu]
      exact apply_eq_self_iff.mpr (hkeep i hu)
    | some x =>
      have hv : (w.andThen v) i = some x := by rw [andThen, hle i x hu, Option.some_or]
      rw [apply_some hv, apply_some hu]

end Override
