import Mathlib.Algebra.Order.Group.Abs
import Mathlib.Algebra.Order.Group.Int
import Mathlib.Data.List.MinMax
import Mathlib.Order.Bounds.Basic
import Mathlib.Tactic.Linarith

/-!
# Nearest elements

The elements of a set at minimal distance from a point, at the ends of the set and on a grid of the
integers, and the search of a list for one.
-/

/-- The search from a best element so far, as a fold. -/
theorem List.argmin_cons_eq_foldl {α β : Type*} [LinearOrder β] (f : α → β) (a : α) (l : List α) :
    (a :: l).argmin f = some (l.foldl (fun m b => if f b < f m then b else m) a) := by
  have hgen : ∀ (l : List α) (m : α), l.foldl (List.argAux fun b c => f b < f c) (some m) =
      some (l.foldl (fun m b => if f b < f m then b else m) m) := by
    intro l
    induction l with
    | nil =>
      intro m
      rfl
    | cons b l ih =>
      intro m
      have hstep : List.argAux (fun b c => f b < f c) (some m) b =
          some (if f b < f m then b else m) := (apply_ite some (f b < f m) b m).symm
      rw [List.foldl_cons, List.foldl_cons, hstep, ih]
  exact hgen l a

/-- `y` is in the set, at minimal distance from `x`. -/
def IsNearest {α : Type*} [AddCommGroup α] [LinearOrder α] (S : Set α) (x y : α) : Prop :=
  y ∈ S ∧ ∀ z ∈ S, |x - y| ≤ |x - z|

namespace IsNearest

section Ends

variable {α : Type*} [AddCommGroup α] [LinearOrder α] [IsOrderedAddMonoid α] {S : Set α} {x y z : α}

theorem of_mem (h : x ∈ S) : IsNearest S x x := by
  refine ⟨h, ?_⟩
  intro z _
  rw [sub_self, abs_zero]
  exact abs_nonneg _

theorem of_isGreatest (h : IsGreatest S y) (hx : y ≤ x) : IsNearest S x y := by
  refine ⟨h.1, ?_⟩
  intro z hz
  have hzy : z ≤ y := h.2 hz
  rw [abs_of_nonneg (sub_nonneg.mpr hx), abs_of_nonneg (sub_nonneg.mpr (hzy.trans hx))]
  exact sub_le_sub_left hzy x

theorem of_isLeast (h : IsLeast S y) (hx : x ≤ y) : IsNearest S x y := by
  refine ⟨h.1, ?_⟩
  intro z hz
  have hyz : y ≤ z := h.2 hz
  rw [abs_of_nonpos (sub_nonpos.mpr hx), abs_of_nonpos (sub_nonpos.mpr (hx.trans hyz))]
  exact neg_le_neg (sub_le_sub_left hyz x)

/-- From beyond the greatest element only that one is nearest. -/
theorem eq_of_isGreatest (h : IsGreatest S y) (hx : y ≤ x) (hz : IsNearest S x z) : z = y := by
  have hzy : z ≤ y := h.2 hz.1
  have hle := hz.2 y h.1
  rw [abs_of_nonneg (sub_nonneg.mpr hx), abs_of_nonneg (sub_nonneg.mpr (hzy.trans hx))] at hle
  exact le_antisymm hzy ((sub_le_sub_iff_left x).mp hle)

theorem eq_of_isLeast (h : IsLeast S y) (hx : x ≤ y) (hz : IsNearest S x z) : z = y := by
  have hyz : y ≤ z := h.2 hz.1
  have hle := hz.2 y h.1
  rw [abs_of_nonpos (sub_nonpos.mpr hx), abs_of_nonpos (sub_nonpos.mpr (hx.trans hyz)),
    neg_le_neg_iff, sub_le_sub_iff_left] at hle
  exact le_antisymm hle hyz

end Ends

/-! ## The search of a list -/

section Search

variable {α β : Type*} [AddCommGroup α] [LinearOrder α] [IsOrderedAddMonoid α] [DecidableEq β]
  {l : List β} {val : β → α} {x : α} {r y : β}

/-- `r` is what a search of the list for the nearest to `x` finds. -/
def Finds (l : List β) (val : β → α) (x : α) (r : β) : Prop := r ∈ l.argmin fun b => |x - val b|

/-- A search of the list for the nearest to `x` prefers `a` to `b`: it is nearer, or as near and earlier
in the list. -/
def Precedes (l : List β) (val : β → α) (x : α) (a b : β) : Prop :=
  |x - val a| < |x - val b| ∨ |x - val a| = |x - val b| ∧ l.idxOf a < l.idxOf b

instance (l : List β) (val : β → α) (x : α) (a b : β) : Decidable (Precedes l val x a b) :=
  inferInstanceAs (Decidable (_ ∨ _))

namespace Finds

omit [IsOrderedAddMonoid α] [DecidableEq β] in
theorem foldl (a : β) (l : List β) (val : β → α) (x : α) :
    Finds (a :: l) val x
      (l.foldl (fun m b => if |x - val b| < |x - val m| then b else m) a) :=
  List.argmin_cons_eq_foldl (fun b => |x - val b|) a l

omit [IsOrderedAddMonoid α] [DecidableEq β] in
theorem mem (h : Finds l val x r) : r ∈ l := List.argmin_mem h

omit [IsOrderedAddMonoid α] [DecidableEq β] in
theorem dist_le (h : Finds l val x r) (hy : y ∈ l) : |x - val r| ≤ |x - val y| :=
  List.le_of_mem_argmin (f := fun b => |x - val b|) hy h

omit [IsOrderedAddMonoid α] in
/-- What is found precedes any other element. -/
theorem precedes (h : Finds l val x r) (hy : y ∈ l) (hne : r ≠ y) : Precedes l val x r y := by
  rcases (h.dist_le hy).lt_or_eq with hlt | heq
  · exact .inl hlt
  · refine .inr ⟨heq, lt_of_le_of_ne (List.index_of_argmin h hy heq.ge) ?_⟩
    exact fun hidx => hne ((List.idxOf_inj h.mem).mp hidx)

/-- An element is at most what is found exactly if it precedes all lower ones. -/
theorem ge_iff (hval : val.Injective) (h : Finds l val x r) (hy : y ∈ l) :
    val y ≤ val r ↔ ∀ v ∈ l, val v < val y → ¬Precedes l val x v y := by
  constructor
  · intro hle v hv hlt hprecedes
    have hdist : |x - val v| ≤ |x - val y| := by
      rcases hprecedes with h | ⟨h, -⟩
      · exact h.le
      · exact h.le
    have hmin := h.dist_le hv
    have hbelow : x < val y := by
      by_contra hge
      rw [not_lt] at hge
      rw [abs_of_nonneg (sub_nonneg.mpr hge),
        abs_of_nonneg (sub_nonneg.mpr (hlt.le.trans hge))] at hdist
      exact absurd ((sub_le_sub_iff_left x).mp hdist) (not_le.mpr hlt)
    have hfar : |x - val y| ≤ |x - val r| := by
      rw [abs_of_neg (sub_neg.mpr hbelow), abs_of_neg (sub_neg.mpr (hbelow.trans_le hle)),
        neg_le_neg_iff]
      exact sub_le_sub_left hle x
    -- all three distances are equal, so the search has found one no later than `v`
    rcases hprecedes with hnear | ⟨-, hidx⟩
    · exact absurd (hfar.trans hmin) (not_le.mpr hnear)
    · have hsame := le_antisymm (hmin.trans hdist) hfar
      rw [abs_of_neg (sub_neg.mpr hbelow), abs_of_neg (sub_neg.mpr (hbelow.trans_le hle)),
        neg_inj, sub_right_inj] at hsame
      obtain rfl := hval hsame
      exact absurd (List.index_of_argmin h hv hdist) (not_le.mpr hidx)
  · intro hall
    by_contra hlt
    rw [not_le] at hlt
    refine hall r h.mem hlt (h.precedes hy ?_)
    rintro rfl
    exact lt_irrefl _ hlt

theorem le_iff (hval : val.Injective) (h : Finds l val x r) (hy : y ∈ l) :
    val r ≤ val y ↔ ∀ v ∈ l, val y < val v → ¬Precedes l val x v y := by
  have hdist : ∀ b, |-x - -val b| = |x - val b| := fun b => by rw [← neg_sub', abs_neg]
  have hmirror : Finds l (fun b => -val b) (-x) r := by simpa only [Finds, hdist] using h
  have hneg := ge_iff (neg_injective.comp hval) hmirror hy
  simpa only [Precedes, Function.comp_apply, hdist, neg_le_neg_iff, neg_lt_neg_iff] using hneg

end Finds

end Search

/-! ## Grids -/

/-- The distance of `x` from the numbers `a + k * s`. -/
def gridDistance (a s x : Int) : Int := min ((x - a) % s) (s - (x - a) % s)

/-- The number `a + k * s` that `x` is rounded to, the upper one at a half. -/
def gridRound (a s x : Int) : Int := a + (2 * (x - a) + s) / (2 * s) * s

variable {a s x : Int}

/-- It is at most half a step. -/
theorem two_mul_gridDistance_le (a s x : Int) : 2 * gridDistance a s x ≤ s := by
  have hleft := min_le_left ((x - a) % s) (s - (x - a) % s)
  have hright := min_le_right ((x - a) % s) (s - (x - a) % s)
  rw [gridDistance]
  omega

theorem gridDistance_le (hs : 0 < s) (k : Int) : gridDistance a s x ≤ |x - (a + k * s)| := by
  have hdiv := Int.emod_add_mul_ediv (x - a) s
  have hnonneg := Int.emod_nonneg (x - a) hs.ne'
  have hlt := Int.emod_lt_of_pos (x - a) hs
  rcases le_or_gt k ((x - a) / s) with hle | hgt
  · -- the point is below
    have hmul : 0 ≤ ((x - a) / s - k) * s := mul_nonneg (sub_nonneg.mpr hle) hs.le
    have hdist : (x - a) % s ≤ |x - (a + k * s)| := le_trans (by linarith) (le_abs_self _)
    exact (min_le_left _ _).trans hdist
  · have hmul : 0 ≤ (k - ((x - a) / s + 1)) * s := mul_nonneg (sub_nonneg.mpr hgt) hs.le
    have hdist : s - (x - a) % s ≤ |x - (a + k * s)| := le_trans (by linarith) (neg_le_abs _)
    exact (min_le_right _ _).trans hdist

/-- Rounding goes down from the first half of a step, and up from the second. -/
theorem gridRound_eq (hs : 0 < s) : gridRound a s x =
    if 2 * ((x - a) % s) < s then x - (x - a) % s else x - (x - a) % s + s := by
  have hdiv := Int.emod_add_mul_ediv (x - a) s
  have hnonneg := Int.emod_nonneg (x - a) hs.ne'
  have hlt := Int.emod_lt_of_pos (x - a) hs
  have htwo : 2 * s ≠ 0 := by omega
  rw [gridRound]
  split
  next hdown =>
    have hsplit : 2 * (x - a) + s = (2 * ((x - a) % s) + s) + (x - a) / s * (2 * s) := by
      linarith
    have hquot : (2 * ((x - a) % s) + s) / (2 * s) = 0 :=
      Int.ediv_eq_zero_of_lt (by omega) (by omega)
    rw [hsplit, Int.add_mul_ediv_right _ _ htwo, hquot]
    linarith
  next hup =>
    have hsplit : 2 * (x - a) + s =
        (2 * ((x - a) % s) - s) + ((x - a) / s + 1) * (2 * s) := by
      linarith
    have hquot : (2 * ((x - a) % s) - s) / (2 * s) = 0 :=
      Int.ediv_eq_zero_of_lt (by omega) (by omega)
    rw [hsplit, Int.add_mul_ediv_right _ _ htwo, hquot]
    linarith

/-- `x` is less than half a step above `y`, or at most half a step below it. -/
def RoundsTo (s x y : Int) : Prop := 2 * y ≤ 2 * x + s ∧ 2 * x < 2 * y + s

instance (s x y : Int) : Decidable (RoundsTo s x y) := inferInstanceAs (Decidable (_ ∧ _))

theorem gridRound_eq_iff (hs : 0 < s) (k : Int) :
    gridRound a s x = a + k * s ↔ RoundsTo s x (a + k * s) := by
  have htwo : 0 < 2 * s := by omega
  have hdiv : (2 * (x - a) + s) / (2 * s) = k ↔
      k * (2 * s) ≤ 2 * (x - a) + s ∧ 2 * (x - a) + s < k * (2 * s) + 2 * s :=
    Int.ediv_eq_iff_of_pos htwo
  rw [gridRound, add_right_inj, mul_left_inj' hs.ne', hdiv, RoundsTo]
  constructor <;> rintro ⟨hlow, hhigh⟩ <;> constructor <;> linarith

theorem abs_sub_gridRound (hs : 0 < s) : |x - gridRound a s x| = gridDistance a s x := by
  have hnonneg := Int.emod_nonneg (x - a) hs.ne'
  have hlt := Int.emod_lt_of_pos (x - a) hs
  rw [gridRound_eq hs, gridDistance]
  split
  next hdown =>
    rw [min_eq_left (by omega), sub_sub_cancel, abs_of_nonneg hnonneg]
  next hup =>
    rw [min_eq_right (by omega), abs_of_nonpos (by omega)]
    omega

end IsNearest
