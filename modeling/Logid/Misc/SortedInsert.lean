import Mathlib.Data.List.InsertIdx
import Mathlib.Data.List.Pairwise

/-!
# Inserting before the first element that belongs after

A list in some order stays in it when an element goes before the first of those that belong after it, if
these are the end of the list.
-/

namespace SortedInsert

variable {α : Type*} {r : α → α → Prop} {after : α → Bool}

theorem insertIdx_findIdx_cons (x y : α) (l : List α) :
    (y :: l).insertIdx ((y :: l).findIdx after) x =
      if after y then x :: y :: l else y :: l.insertIdx (l.findIdx after) x := by
  rw [List.findIdx_cons]
  cases after y <;> rfl

theorem pairwise_insertIdx {l : List α} {x : α} (hl : l.Pairwise r)
    (hup : ∀ y ∈ l, ∀ z ∈ l, r y z → after y = true → after z = true)
    (hbefore : ∀ y ∈ l, after y = false → r y x) (hafter : ∀ y ∈ l, after y = true → r x y) :
    (l.insertIdx (l.findIdx after) x).Pairwise r := by
  induction l with
  | nil => exact List.pairwise_singleton r x
  | cons y l ih =>
    have hcons := List.pairwise_cons.mp hl
    rw [insertIdx_findIdx_cons]
    split
    next hy =>
      refine List.pairwise_cons.mpr ⟨?_, hl⟩
      intro z hz
      rcases List.mem_cons.mp hz with rfl | hmem
      · exact hafter z hz hy
      · exact hafter z hz (hup y List.mem_cons_self z hz (hcons.1 z hmem) hy)
    next hy =>
      refine List.pairwise_cons.mpr ⟨?_, ?_⟩
      · intro z hz
        have hperm := List.perm_insertIdx x l (List.findIdx_le_length (p := after))
        rcases List.mem_cons.mp (hperm.mem_iff.mp hz) with rfl | hmem
        · exact hbefore y List.mem_cons_self (by simpa using hy)
        · exact hcons.1 z hmem
      · exact ih hcons.2 (fun a ha b hb => hup a (.tail y ha) b (.tail y hb))
          (fun a ha => hbefore a (.tail y ha)) (fun a ha => hafter a (.tail y ha))

end SortedInsert
