import Mathlib.Data.List.Lex
import Mathlib.Order.RelClasses
import Logid.Misc.SortedMap

/-!
# Comparing lists by the keys of their elements

The loop that finds the first place where two lists have different keys, as a comparator of maps. It is
the lexicographic order of the keys, so equivalent lists are those with the same keys.
-/

namespace LexLess

variable {α β : Type*} [LinearOrder β] (key : α → β)

def less : List α → List α → Bool
  | a :: as, b :: bs => if key a ≠ key b then decide (key a < key b) else less as bs
  | [], bs => !bs.isEmpty
  | _ :: _, [] => false

theorem less_eq (as bs : List α) : less key as bs = decide (as.map key < bs.map key) := by
  induction as generalizing bs with
  | nil =>
    cases bs with
    | nil => simp [less]
    | cons b bs => simp [less]
  | cons a as ih =>
    cases bs with
    | nil => simp [less]
    | cons b bs =>
      rw [less, ih, List.map_cons, List.map_cons]
      by_cases h : key a = key b
      · simp [h]
      · rw [if_pos h, decide_eq_decide, List.cons_lt_cons_iff]
        simp [h]

def keyLess : KeyLess (List α) where
  lt := less key
  irrefl as := by simp [less_eq]
  trans := by
    intro as bs cs hab hbc
    simp only [less_eq, decide_eq_true_eq] at hab hbc ⊢
    exact lt_trans hab hbc

theorem isStrictWeakOrder : IsStrictWeakOrder (List α) fun as bs => less key as bs = true := by
  have hless : (fun as bs => less key as bs = true) = Order.Preimage (List.map key) (· < ·) := by
    funext as bs
    simp [less_eq, Order.Preimage]
  have : IsStrictWeakOrder (List β) (· < ·) := isStrictWeakOrder_of_isOrderConnected
  rw [hless]
  infer_instance

theorem equiv_iff {as bs : List α} :
    SortedMap.equiv (keyLess key) as bs = true ↔ as.map key = bs.map key := by
  simp only [SortedMap.equiv, keyLess, less_eq, Bool.and_eq_true, Bool.not_eq_true',
    decide_eq_false_iff_not, not_lt]
  exact ⟨fun h => le_antisymm h.2 h.1, fun h => ⟨h.ge, h.le⟩⟩

end LexLess
