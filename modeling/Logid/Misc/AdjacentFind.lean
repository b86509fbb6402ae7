import Mathlib.Data.List.Pairwise
import Mathlib.Order.Bounds.Basic

/-!
# Searching for a gap

The search for two neighbours in a list, and what it finds in an increasing list of numbers when the
neighbours must leave a number out: up to the first gap the list has every number from its head on
(`adjacentFind_gap`), and without a gap it has all of them up to its last (`adjacentFind_no_gap`).
-/

/-- The first element that is in the relation with its successor. -/
def adjacentFind {α : Type*} (p : α → α → Bool) : List α → Option α
  | a :: b :: rest => if p a b then some a else adjacentFind p (b :: rest)
  | _ => none

namespace AdjacentFind

theorem mem_of_adjacentFind {α : Type*} {p : α → α → Bool} {l : List α} {a : α}
    (h : adjacentFind p l = some a) : a ∈ l := by
  fun_induction adjacentFind p l with
  | case1 b c rest hp =>
    cases h
    exact List.mem_cons_self
  | case2 b c rest hp ih => exact List.mem_cons_of_mem b (ih h)
  | case3 l hshort => cases h

/-- The numbers leave one out between them. -/
def gap (l r : Nat) : Bool := decide (l + 1 < r)

/-- What is filled from the successor on is filled from the number on. -/
theorem filled_cons {a b e : Nat} {l : List Nat} (hb : b ≤ a + 1)
    (h : ∀ n, b ≤ n → n ≤ e → n ∈ l) : ∀ n, a ≤ n → n ≤ e → n ∈ a :: l := by
  intro n hle hge
  rcases Nat.eq_or_lt_of_le hle with heq | hlt
  · exact heq ▸ List.mem_cons_self
  · exact List.mem_cons_of_mem a (h n (by omega) hge)

theorem adjacentFind_gap {a e : Nat} {l : List Nat} (hsorted : (a :: l).Pairwise (· < ·))
    (h : adjacentFind gap (a :: l) = some e) :
    (∀ n, a ≤ n → n ≤ e → n ∈ a :: l) ∧ e + 1 ∉ a :: l := by
  induction l generalizing a with
  | nil => cases h
  | cons b l ih =>
    obtain ⟨habove, hrest⟩ := List.pairwise_cons.mp hsorted
    have hab : a < b := habove b List.mem_cons_self
    rw [adjacentFind] at h
    split at h
    next hgap =>
      obtain rfl : a = e := Option.some_inj.mp h
      have hbeyond : a + 1 < b := of_decide_eq_true hgap
      constructor
      · intro n hle hge
        rw [Nat.le_antisymm hge hle]
        exact List.mem_cons_self
      · intro hmem
        rcases List.mem_cons.mp hmem with heq | hmem
        · omega
        · rcases List.mem_cons.mp hmem with heq | hmem
          · omega
          · have hb := (List.pairwise_cons.mp hrest).1 (a + 1) hmem
            omega
    next hgap =>
      obtain ⟨hfilled, hfree⟩ := ih hrest h
      have hnext : ¬a + 1 < b := fun hlt => hgap (decide_eq_true hlt)
      refine ⟨filled_cons (Nat.le_of_not_lt hnext) hfilled, ?_⟩
      intro hmem
      rcases List.mem_cons.mp hmem with heq | hmem
      · have he := habove e (mem_of_adjacentFind h)
        omega
      · exact hfree hmem

theorem adjacentFind_no_gap {a e : Nat} {l : List Nat} (hsorted : (a :: l).Pairwise (· < ·))
    (h : adjacentFind gap (a :: l) = none) (hlast : (a :: l).getLast? = some e) :
    (∀ n, a ≤ n → n ≤ e → n ∈ a :: l) ∧ e + 1 ∉ a :: l := by
  induction l generalizing a with
  | nil =>
    cases hlast
    constructor
    · intro n hle hge
      rw [Nat.le_antisymm hge hle]
      exact List.mem_cons_self
    · simp
  | cons b l ih =>
    obtain ⟨habove, hrest⟩ := List.pairwise_cons.mp hsorted
    rw [adjacentFind] at h
    split at h
    next => cases h
    next hgap =>
      rw [List.getLast?_cons_cons] at hlast
      obtain ⟨hfilled, hfree⟩ := ih hrest h hlast
      have hnext : ¬a + 1 < b := fun hlt => hgap (decide_eq_true hlt)
      refine ⟨filled_cons (Nat.le_of_not_lt hnext) hfilled, ?_⟩
      intro hmem
      rcases List.mem_cons.mp hmem with heq | hmem
      · have he := habove e (List.mem_of_getLast? hlast)
        omega
      · exact hfree hmem

/-- A free number with everything below it filled is the least free one. -/
theorem isLeast_free {l : List Nat} {e : Nat} (hfilled : ∀ n, n < e → n ∈ l) (hfree : e ∉ l) :
    IsLeast {n | n ∉ l} e := by
  refine ⟨hfree, ?_⟩
  intro n hn
  apply Nat.le_of_not_lt
  intro hlt
  exact hn (hfilled n hlt)

end AdjacentFind
