import Mathlib.Data.List.Basic

/-!
# Cursors in a list

A list without duplicates, and positions in it that are held while the list grows at its front. A position
is an element, or `none` for the end. What is left from a position on does not depend on what is put
before it.
-/

namespace ListCursor

variable {κ : Type*} [DecidableEq κ]

/-- The elements from a position on. -/
def rest (l : List κ) : Option κ → List κ
  | none => []
  | some k => l.dropWhile fun a => a ≠ k

/-- The position after an element. -/
def next (l : List κ) (k : κ) : Option κ := (rest l (some k)).tail.head?

theorem rest_suffix (l : List κ) (p : Option κ) : rest l p <:+ l := by
  cases p with
  | none => exact List.nil_suffix
  | some k => exact List.dropWhile_suffix _

/-- From the first position on there is the whole list. -/
theorem rest_head? (l : List κ) : rest l l.head? = l := by
  cases l with
  | nil => rfl
  | cons a l => simp [rest]

theorem rest_of_mem {l : List κ} {k : κ} (h : k ∈ l) :
    rest l (some k) = k :: (rest l (some k)).tail := by
  induction l with
  | nil => cases h
  | cons a l ih =>
    by_cases hak : a = k
    · simp [rest, hak]
    · have hk : k ∈ l := (List.mem_cons.mp h).resolve_left (Ne.symm hak)
      have hdrop : rest (a :: l) (some k) = rest l (some k) := by simp [rest, hak]
      rw [hdrop]
      exact ih hk

theorem rest_cons_of_ne {l : List κ} {a : κ} {p : Option κ} (h : ∀ k, p = some k → a ≠ k) :
    rest (a :: l) p = rest l p := by
  cases p with
  | none => rfl
  | some k => simp [rest, h k rfl]

/-- The elements from the next position on are those that are left after the first. -/
theorem rest_next {l : List κ} (hl : l.Nodup) (k : κ) :
    rest l (next l k) = (rest l (some k)).tail := by
  induction l with
  | nil => rfl
  | cons a l ih =>
    by_cases hak : a = k
    · have hdrop : rest (a :: l) (some k) = a :: l := by simp [rest, hak]
      rw [next, hdrop, List.tail_cons, rest_cons_of_ne, rest_head?]
      rintro b hb rfl
      exact (List.nodup_cons.mp hl).1 (List.mem_of_mem_head? hb)
    · have hdrop : rest (a :: l) (some k) = rest l (some k) := by simp [rest, hak]
      rw [next, hdrop]
      have hnext : (rest l (some k)).tail.head? = next l k := rfl
      rw [hnext, rest_cons_of_ne, ih (List.nodup_cons.mp hl).2]
      rintro b hb rfl
      have hmem : a ∈ (rest l (some k)).tail := List.mem_of_mem_head? hb
      exact (List.nodup_cons.mp hl).1
        ((rest_suffix l (some k)).subset (List.mem_of_mem_tail hmem))

theorem next_mem {l : List κ} {k b : κ} (h : next l k = some b) : b ∈ l := by
  have hmem : b ∈ (rest l (some k)).tail := List.mem_of_mem_head? h
  exact (rest_suffix l (some k)).subset (List.mem_of_mem_tail hmem)

end ListCursor
