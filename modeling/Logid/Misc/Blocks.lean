import Mathlib.Data.List.Basic

/-!
# Blocks of a list

A list cut into blocks of one length, of which the last may be shorter, and the number of blocks that
a length takes.
-/

namespace Blocks

variable {α : Type*}

/-- The block with the number `i`. -/
def block (n : Nat) (l : List α) (i : Nat) : List α := (l.drop (n * i)).take n

/-- The blocks in order are the list, cut where the last of them ends. -/
theorem flatMap_block (n : Nat) (l : List α) (m : Nat) :
    (List.range m).flatMap (block n l) = l.take (n * m) := by
  induction m with
  | zero => simp
  | succ m ih =>
    rw [List.range_succ, List.flatMap_append, ih, List.flatMap_singleton, Nat.mul_succ,
      List.take_add]
    rfl

theorem length_block {n : Nat} {l : List α} {i : Nat} (h : n * (i + 1) ≤ l.length) :
    (block n l i).length = n := by
  rw [Nat.mul_succ] at h
  rw [block, List.length_take, List.length_drop]
  omega

/-- How many blocks a length takes: the whole ones, and one for what is left. -/
def count (length n : Nat) : Nat := length / n + if length % n = 0 then 0 else 1

theorem lt_count_iff {length n i : Nat} (hn : 0 < n) : i < count length n ↔ n * i < length := by
  have hdiv := Nat.div_add_mod length n
  have hmod := Nat.mod_lt length hn
  unfold count
  constructor
  · intro h
    split at h
    next hzero =>
      have hle : n * (i + 1) ≤ n * (length / n) := Nat.mul_le_mul_left n h
      rw [Nat.mul_succ] at hle
      omega
    next hpos =>
      have hle : n * i ≤ n * (length / n) := Nat.mul_le_mul_left n (by omega)
      omega
  · intro h
    by_contra hge
    have hle : n * (length / n + if length % n = 0 then 0 else 1) ≤ n * i :=
      Nat.mul_le_mul_left n (Nat.le_of_not_lt hge)
    rw [Nat.mul_add] at hle
    split at hle <;> omega

theorem le_mul_count {length n : Nat} (hn : 0 < n) : length ≤ n * count length n := by
  by_contra h
  exact absurd ((lt_count_iff hn).mpr (Nat.lt_of_not_le h)) (Nat.lt_irrefl _)

end Blocks
