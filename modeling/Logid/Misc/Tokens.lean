import Mathlib.Data.List.Nodup
import Mathlib.Data.List.Perm.Basic
import Mathlib.Logic.Function.Basic

/-!
# Conservation of tokens

Work items numbered in the order in which they are issued, that pass from a queue through the hands
of agents to a log. A ledger says where the numbers are. It is conserved when every number issued
is in exactly one place: in the queue, in the hand of one agent, or in the log. The five rules are
the five moves; a program with a work queue reads a ledger off its state and uses the rule of the
move that each of its steps makes.
-/

structure Ledger (ω : Type*) where
  queue : List Nat
  hand : ω → Option Nat
  done : List Nat
  /-- The next number to be issued. -/
  next : Nat

namespace Ledger

variable {ω : Type*}

/-- Every number issued is in exactly one of the three places, once. -/
structure Conserved (l : Ledger ω) : Prop where
  lt : ∀ n, (n ∈ l.queue ∨ (∃ w, l.hand w = some n) ∨ n ∈ l.done) ↔ n < l.next
  queue_nodup : l.queue.Nodup
  done_nodup : l.done.Nodup
  hand_once : ∀ {v w n}, l.hand v = some n → l.hand w = some n → v = w
  hand_not_queue : ∀ {w n}, l.hand w = some n → n ∉ l.queue
  hand_not_done : ∀ {w n}, l.hand w = some n → n ∉ l.done
  queue_not_done : ∀ {n}, n ∈ l.queue → n ∉ l.done

theorem Conserved.empty : Conserved (⟨[], fun _ => none, [], 0⟩ : Ledger ω) := by
  refine ⟨fun n => ?_, List.nodup_nil, List.nodup_nil, ?_, ?_, ?_, ?_⟩ <;> simp

theorem Conserved.lt_of_queue {l : Ledger ω} (hl : l.Conserved) {n : Nat} (h : n ∈ l.queue) :
    n < l.next := (hl.lt n).mp (.inl h)

theorem Conserved.lt_of_hand {l : Ledger ω} (hl : l.Conserved) {w : ω} {n : Nat}
    (h : l.hand w = some n) : n < l.next := (hl.lt n).mp (.inr (.inl ⟨w, h⟩))

theorem Conserved.lt_of_done {l : Ledger ω} (hl : l.Conserved) {n : Nat} (h : n ∈ l.done) :
    n < l.next := (hl.lt n).mp (.inr (.inr h))

/-- A number outside the queue is in the log and in no hand, or in one hand and not in the log. -/
theorem Conserved.out_of_queue {l : Ledger ω} (hl : l.Conserved) {n : Nat} (hn : n < l.next)
    (hq : n ∉ l.queue) :
    (n ∈ l.done ∧ ∀ w, l.hand w ≠ some n) ∨ (n ∉ l.done ∧ ∃! w, l.hand w = some n) := by
  rcases (hl.lt n).mpr hn with h | ⟨w, h⟩ | h
  · exact absurd h hq
  · exact .inr ⟨hl.hand_not_done h, w, h, fun v hv => hl.hand_once hv h⟩
  · exact .inl ⟨h, fun w hw => hl.hand_not_done hw h⟩

/-- When nothing is queued and every hand is empty, everything is in the log. -/
theorem Conserved.done_of_idle {l : Ledger ω} (hl : l.Conserved) (hqueue : l.queue = [])
    (hhand : ∀ w, l.hand w = none) {n : Nat} (hn : n < l.next) : n ∈ l.done := by
  rcases (hl.lt n).mpr hn with h | ⟨w, h⟩ | h
  · rw [hqueue] at h
    cases h
  · rw [hhand w] at h
    cases h
  · exact h

theorem Conserved.issue {l : Ledger ω} (hl : l.Conserved) :
    Conserved ⟨l.queue ++ [l.next], l.hand, l.done, l.next + 1⟩ := by
  refine ⟨fun n => ?_, ?_, hl.done_nodup, hl.hand_once, ?_, hl.hand_not_done, ?_⟩
  · simp only [List.mem_append, List.mem_singleton]
    rw [Nat.lt_succ_iff_lt_or_eq, ← hl.lt n, or_right_comm]
  · rw [← List.concat_eq_append, List.nodup_concat]
    exact ⟨fun h => absurd (hl.lt_of_queue h) (Nat.lt_irrefl _), hl.queue_nodup⟩
  · intro w n hw
    rw [List.mem_append, List.mem_singleton]
    have hlt := hl.lt_of_hand hw
    intro hor
    rcases hor with h | h
    · exact hl.hand_not_queue hw h
    · omega
  · intro n hn hdone
    rw [List.mem_append, List.mem_singleton] at hn
    have hlt := hl.lt_of_done hdone
    rcases hn with h | h
    · exact hl.queue_not_done h hdone
    · omega

variable [DecidableEq ω]

theorem hand_fill {hand : ω → Option Nat} {w v : ω} {n m : Nat} (hw : hand w = none) :
    Function.update hand w (some n) v = some m ↔ (v = w ∧ m = n) ∨ hand v = some m := by
  by_cases hv : v = w
  · subst hv
    simp [hw, eq_comm]
  · simp [hv]

theorem hand_empty {l : Ledger ω} (hl : l.Conserved) {w v : ω} {n m : Nat}
    (hw : l.hand w = some n) :
    Function.update l.hand w none v = some m ↔ l.hand v = some m ∧ m ≠ n := by
  by_cases hv : v = w
  · subst hv
    simp [hw, eq_comm]
  · simp only [Function.update_of_ne hv]
    refine ⟨fun h => ⟨h, ?_⟩, And.left⟩
    intro heq
    subst heq
    exact hv (hl.hand_once h hw)

/-- An agent with an empty hand takes a number from the queue. -/
theorem Conserved.take {l : Ledger ω} (hl : l.Conserved) {w : ω} {n : Nat} {queue : List Nat}
    (hw : l.hand w = none) (hqueue : l.queue.Perm (n :: queue)) :
    Conserved ⟨queue, Function.update l.hand w (some n), l.done, l.next⟩ := by
  have hmem : ∀ m, m ∈ l.queue ↔ m = n ∨ m ∈ queue := fun m => by
    rw [hqueue.mem_iff, List.mem_cons]
  have hn : n ∈ l.queue := (hmem n).mpr (.inl rfl)
  obtain ⟨hnot, hnodup⟩ := List.nodup_cons.mp (hqueue.nodup_iff.mp hl.queue_nodup)
  refine ⟨fun m => ?_, hnodup, hl.done_nodup, ?_, ?_, ?_, ?_⟩
  · rw [← hl.lt m, hmem]
    simp only [hand_fill hw]
    constructor
    · intro hor
      rcases hor with h | ⟨v, ⟨-, h⟩ | h⟩ | h
      · exact .inl (.inr h)
      · exact .inl (.inl h)
      · exact .inr (.inl ⟨v, h⟩)
      · exact .inr (.inr h)
    · intro hor
      rcases hor with (h | h) | ⟨v, h⟩ | h
      · exact .inr (.inl ⟨w, .inl ⟨rfl, h⟩⟩)
      · exact .inl h
      · exact .inr (.inl ⟨v, .inr h⟩)
      · exact .inr (.inr h)
  · intro u v m hu hv
    rw [hand_fill hw] at hu hv
    rcases hu with ⟨rfl, rfl⟩ | hu
    · rcases hv with ⟨rfl, -⟩ | hv
      · rfl
      · exact absurd hn (hl.hand_not_queue hv)
    · rcases hv with ⟨rfl, rfl⟩ | hv
      · exact absurd hn (hl.hand_not_queue hu)
      · exact hl.hand_once hu hv
  · intro v m hv hm
    rcases (hand_fill hw).mp hv with ⟨-, rfl⟩ | h
    · exact hnot hm
    · exact hl.hand_not_queue h ((hmem m).mpr (.inr hm))
  · intro v m hv
    rcases (hand_fill hw).mp hv with ⟨-, rfl⟩ | h
    · exact hl.queue_not_done hn
    · exact hl.hand_not_done h
  · intro m hm
    exact hl.queue_not_done ((hmem m).mpr (.inr hm))

/-- An agent logs the number in its hand. -/
theorem Conserved.finish {l : Ledger ω} (hl : l.Conserved) {w : ω} {n : Nat}
    (hw : l.hand w = some n) :
    Conserved ⟨l.queue, Function.update l.hand w none, l.done ++ [n], l.next⟩ := by
  refine ⟨fun m => ?_, hl.queue_nodup, ?_, ?_, ?_, ?_, ?_⟩
  · simp only [hand_empty hl hw, List.mem_append, List.mem_singleton]
    rw [← hl.lt m]
    constructor
    · intro hor
      rcases hor with h | ⟨v, h, -⟩ | h | rfl
      · exact .inl h
      · exact .inr (.inl ⟨v, h⟩)
      · exact .inr (.inr h)
      · exact .inr (.inl ⟨w, hw⟩)
    · intro hor
      rcases hor with h | ⟨v, h⟩ | h
      · exact .inl h
      · by_cases hm : m = n
        · exact .inr (.inr (.inr hm))
        · exact .inr (.inl ⟨v, h, hm⟩)
      · exact .inr (.inr (.inl h))
  · rw [← List.concat_eq_append, List.nodup_concat]
    exact ⟨hl.hand_not_done hw, hl.done_nodup⟩
  · intro u v m hu hv
    exact hl.hand_once ((hand_empty hl hw).mp hu).1 ((hand_empty hl hw).mp hv).1
  · intro v m hv
    exact hl.hand_not_queue ((hand_empty hl hw).mp hv).1
  · intro v m hv
    obtain ⟨h, hne⟩ := (hand_empty hl hw).mp hv
    rw [List.mem_append, List.mem_singleton]
    intro hor
    rcases hor with hdone | hm
    · exact hl.hand_not_done h hdone
    · exact hne hm
  · intro m hm
    rw [List.mem_append, List.mem_singleton]
    intro hor
    rcases hor with hdone | rfl
    · exact hl.queue_not_done hm hdone
    · exact hl.hand_not_queue hw hm

/-- An agent puts the number in its hand back into the queue. -/
theorem Conserved.requeue {l : Ledger ω} (hl : l.Conserved) {w : ω} {n : Nat}
    (hw : l.hand w = some n) :
    Conserved ⟨l.queue ++ [n], Function.update l.hand w none, l.done, l.next⟩ := by
  refine ⟨fun m => ?_, ?_, hl.done_nodup, ?_, ?_, ?_, ?_⟩
  · simp only [hand_empty hl hw, List.mem_append, List.mem_singleton]
    rw [← hl.lt m]
    constructor
    · intro hor
      rcases hor with (h | rfl) | ⟨v, h, -⟩ | h
      · exact .inl h
      · exact .inr (.inl ⟨w, hw⟩)
      · exact .inr (.inl ⟨v, h⟩)
      · exact .inr (.inr h)
    · intro hor
      rcases hor with h | ⟨v, h⟩ | h
      · exact .inl (.inl h)
      · by_cases hm : m = n
        · exact .inl (.inr hm)
        · exact .inr (.inl ⟨v, h, hm⟩)
      · exact .inr (.inr h)
  · rw [← List.concat_eq_append, List.nodup_concat]
    exact ⟨hl.hand_not_queue hw, hl.queue_nodup⟩
  · intro u v m hu hv
    exact hl.hand_once ((hand_empty hl hw).mp hu).1 ((hand_empty hl hw).mp hv).1
  · intro v m hv
    obtain ⟨h, hne⟩ := (hand_empty hl hw).mp hv
    rw [List.mem_append, List.mem_singleton]
    intro hor
    rcases hor with hqueue | hm
    · exact hl.hand_not_queue h hqueue
    · exact hne hm
  · intro v m hv
    exact hl.hand_not_done ((hand_empty hl hw).mp hv).1
  · intro m hm
    rw [List.mem_append, List.mem_singleton] at hm
    rcases hm with hqueue | rfl
    · exact hl.queue_not_done hqueue
    · exact hl.hand_not_done hw

end Ledger
