import Mathlib.Algebra.BigOperators.Group.List.Basic
import Mathlib.Algebra.Order.Group.Defs

/-!
# Running totals

Numbers that are added one after another, each looked at together with the total before it. A sum
along the way of what a function of the total gains is what it gains from the start to the end
(`RunningTotal.sum_gain`), however the numbers are split.
-/

namespace RunningTotal

variable {α β : Type*}

/-- Every number meets `P` at the total before it. -/
def Each [Add α] (P : α → α → Prop) : α → List α → Prop
  | _, [] => True
  | s, n :: ns => P s n ∧ Each P (s + n) ns

/-- The sum of a function of each number and the total before it. -/
def sum [Add α] [Zero β] [Add β] (f : α → α → β) : α → List α → β
  | _, [] => 0
  | s, n :: ns => f s n + sum f (s + n) ns

instance decidableEach [Add α] {P : α → α → Prop} [∀ s n, Decidable (P s n)] :
    ∀ (s : α) (ns : List α), Decidable (Each P s ns)
  | _, [] => .isTrue trivial
  | s, n :: ns =>
    have := decidableEach (P := P) (s + n) ns
    inferInstanceAs (Decidable (P s n ∧ Each P (s + n) ns))

section Each

variable [Add α] {P Q : α → α → Prop}

@[simp] theorem each_nil (s : α) : Each P s [] := trivial

@[simp] theorem each_cons {s n : α} {ns : List α} :
    Each P s (n :: ns) ↔ P s n ∧ Each P (s + n) ns := Iff.rfl

theorem Each.imp (h : ∀ s n, P s n → Q s n) {s : α} {ns : List α} (hP : Each P s ns) :
    Each Q s ns := by
  induction ns generalizing s with
  | nil => trivial
  | cons n ns ih => exact ⟨h s n hP.1, ih hP.2⟩

theorem each_of_forall_mem {s : α} {ns : List α} (h : ∀ n ∈ ns, ∀ s, P s n) : Each P s ns := by
  induction ns generalizing s with
  | nil => trivial
  | cons n ns ih => exact ⟨h n List.mem_cons_self s, ih fun m hm => h m (List.mem_cons_of_mem n hm)⟩

theorem each_congr {s : α} {ns : List α} (h : Each (fun s n => P s n ↔ Q s n) s ns) :
    Each P s ns ↔ Each Q s ns := by
  induction ns generalizing s with
  | nil => exact Iff.rfl
  | cons n ns ih => exact and_congr h.1 (ih h.2)

end Each

/-- The function of the total gains the same however its way is split. -/
theorem sum_gain [AddMonoid α] [AddCommGroup β] (f : α → β) (s : α) (ns : List α) :
    sum (fun s n => f (s + n) - f s) s ns = f (s + ns.sum) - f s := by
  induction ns generalizing s with
  | nil => simp [sum]
  | cons n ns ih => rw [sum, ih, List.sum_cons, ← add_assoc, add_comm, sub_add_sub_cancel]

theorem sum_sub [Add α] [AddCommGroup β] (f g : α → α → β) (s : α) (ns : List α) :
    sum (fun s n => f s n - g s n) s ns = sum f s ns - sum g s ns := by
  induction ns generalizing s with
  | nil => simp [sum]
  | cons n ns ih => rw [sum, sum, sum, ih, add_sub_add_comm]

section Ordered

variable [Add α] [AddCommGroup β] [PartialOrder β] [IsOrderedAddMonoid β] {f : α → α → β}

theorem sum_nonneg {s : α} {ns : List α} (h : Each (fun s n => 0 ≤ f s n) s ns) :
    0 ≤ sum f s ns := by
  induction ns generalizing s with
  | nil => exact le_rfl
  | cons n ns ih => exact add_nonneg h.1 (ih h.2)

/-- A sum without negative terms is zero exactly if all of them are. -/
theorem sum_eq_zero_iff {s : α} {ns : List α} (h : Each (fun s n => 0 ≤ f s n) s ns) :
    sum f s ns = 0 ↔ Each (fun s n => f s n = 0) s ns := by
  induction ns generalizing s with
  | nil => exact ⟨fun _ => trivial, fun _ => rfl⟩
  | cons n ns ih =>
    rw [sum, add_eq_zero_iff_of_nonneg h.1 (sum_nonneg h.2), ih h.2]
    rfl

end Ordered

end RunningTotal
