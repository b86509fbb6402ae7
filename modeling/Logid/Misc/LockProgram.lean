import Mathlib.Data.Set.Basic

/-!
# Programs that take locks

A program of one thread, run on the locks that the thread holds and on a state. Locks are taken for
the length of a block and are not recursive: a program that takes a lock its thread holds never
returns, and says which lock it is stuck at. No handler catches that.

`LockProgram.Acquires p S` says that the locks `p` takes are among `S`, in the form a caller needs:
started without any of them, `p` does not get stuck. The rules follow the structure of programs.
-/

/-- How a program ends: with a value, with an exception, or stuck at a lock that its thread holds. -/
inductive Outcome (L ε α : Type) where
  | returned (a : α)
  | threw (e : ε)
  | relocked (l : L)

def LockProgram (L ε σ α : Type) := List L → σ → Outcome L ε α × σ

namespace LockProgram

variable {L ε σ α β : Type}

instance : Monad (LockProgram L ε σ) where
  pure a := fun _ s => (.returned a, s)
  bind p f := fun held s =>
    match p held s with
    | (.returned a, t) => f a held t
    | (.threw e, t) => (.threw e, t)
    | (.relocked l, t) => (.relocked l, t)

def raise (e : ε) : LockProgram L ε σ α := fun _ s => (.threw e, s)

def ofExcept : Except ε α → LockProgram L ε σ α
  | .ok a => pure a
  | .error e => raise e

def get : LockProgram L ε σ σ := fun _ s => (.returned s, s)

def modify (f : σ → σ) : LockProgram L ε σ Unit := fun _ s => (.returned (), f s)

/-- Run `p`, and the handler on the exception that it throws. -/
def handle (p : LockProgram L ε σ α) (handler : ε → LockProgram L ε σ α) : LockProgram L ε σ α :=
  fun held s =>
    match p held s with
    | (.threw e, t) => handler e held t
    | result => result

/-- Hold a lock while `p` runs, however it ends. -/
def withLock [DecidableEq L] (l : L) (p : LockProgram L ε σ α) : LockProgram L ε σ α :=
  fun held s => if l ∈ held then (.relocked l, s) else p (l :: held) s

/-- The program never returns: it takes a lock that its thread holds. -/
def Stuck (p : LockProgram L ε σ α) (held : List L) (s : σ) : Prop :=
  ∃ l, (p held s).1 = .relocked l

def Acquires (p : LockProgram L ε σ α) (S : Set L) : Prop :=
  ∀ held s, (∀ k ∈ S, k ∉ held) → ¬ Stuck p held s

section Apply

variable {p : LockProgram L ε σ α} {f : α → LockProgram L ε σ β} {held : List L} {s t : σ}

theorem bind_returned {a : α} (h : p held s = (.returned a, t)) :
    (p >>= f) held s = f a held t := by
  simp only [bind, h]

theorem bind_threw {e : ε} (h : p held s = (.threw e, t)) :
    (p >>= f) held s = (.threw e, t) := by
  simp only [bind, h]

theorem bind_relocked {l : L} (h : p held s = (.relocked l, t)) :
    (p >>= f) held s = (.relocked l, t) := by
  simp only [bind, h]

theorem handle_returned {a : α} {handler : ε → LockProgram L ε σ α}
    (h : p held s = (.returned a, t)) : handle p handler held s = (.returned a, t) := by
  simp only [handle, h]

theorem handle_relocked {l : L} {handler : ε → LockProgram L ε σ α}
    (h : p held s = (.relocked l, t)) : handle p handler held s = (.relocked l, t) := by
  simp only [handle, h]

theorem handle_threw {e : ε} {handler : ε → LockProgram L ε σ α}
    (h : p held s = (.threw e, t)) : handle p handler held s = handler e held t := by
  simp only [handle, h]

variable [DecidableEq L]

theorem withLock_held {l : L} (h : l ∈ held) : withLock l p held s = (.relocked l, s) :=
  if_pos h

theorem withLock_free {l : L} (h : l ∉ held) : withLock l p held s = p (l :: held) s :=
  if_neg h

end Apply

theorem Acquires.mono {p : LockProgram L ε σ α} {S T : Set L} (h : Acquires p S) (hST : S ⊆ T) :
    Acquires p T :=
  fun held s hfree => h held s fun k hk => hfree k (hST hk)

theorem acquires_pure (a : α) (S : Set L) : Acquires (pure a : LockProgram L ε σ α) S := by
  intro held s _ hex
  obtain ⟨l, h⟩ := hex
  cases h

theorem acquires_raise (e : ε) (S : Set L) : Acquires (raise e : LockProgram L ε σ α) S := by
  intro held s _ hex
  obtain ⟨l, h⟩ := hex
  cases h

theorem acquires_ofExcept (x : Except ε α) (S : Set L) :
    Acquires (ofExcept x : LockProgram L ε σ α) S := by
  cases x with
  | ok a => exact acquires_pure a S
  | error e => exact acquires_raise e S

theorem acquires_get (S : Set L) : Acquires (get : LockProgram L ε σ σ) S := by
  intro held s _ hex
  obtain ⟨l, h⟩ := hex
  cases h

theorem acquires_modify (f : σ → σ) (S : Set L) :
    Acquires (modify f : LockProgram L ε σ Unit) S := by
  intro held s _ hex
  obtain ⟨l, h⟩ := hex
  cases h

section Stuck

variable {p : LockProgram L ε σ α} {f : α → LockProgram L ε σ β} {held : List L} {s t : σ}

theorem not_stuck_of_returned {a : α} (h : p held s = (.returned a, t)) : ¬ Stuck p held s := by
  intro hex
  obtain ⟨l, hl⟩ := hex
  rw [h] at hl
  cases hl

theorem not_stuck_of_threw {e : ε} (h : p held s = (.threw e, t)) : ¬ Stuck p held s := by
  intro hex
  obtain ⟨l, hl⟩ := hex
  rw [h] at hl
  cases hl

theorem stuck_of_relocked {l : L} (h : p held s = (.relocked l, t)) : Stuck p held s :=
  ⟨l, by rw [h]⟩

theorem stuck_bind_returned {a : α} (h : p held s = (.returned a, t)) :
    Stuck (p >>= f) held s ↔ Stuck (f a) held t := by
  rw [Stuck, bind_returned h, Stuck]

/-- What follows matters only if it may get stuck itself. -/
theorem stuck_bind_iff (hf : ∀ a t, ¬ Stuck (f a) held t) :
    Stuck (p >>= f) held s ↔ Stuck p held s := by
  rcases hr : p held s with ⟨r, t⟩
  cases r with
  | returned a =>
    rw [stuck_bind_returned hr]
    exact iff_of_false (hf a t) (not_stuck_of_returned hr)
  | threw e => exact iff_of_false (not_stuck_of_threw (bind_threw hr)) (not_stuck_of_threw hr)
  | relocked k => exact iff_of_true (stuck_of_relocked (bind_relocked hr)) (stuck_of_relocked hr)

theorem stuck_withLock_free [DecidableEq L] {l : L} (h : l ∉ held) :
    Stuck (withLock l p) held s ↔ Stuck p (l :: held) s := by
  rw [Stuck, withLock_free h, Stuck]

end Stuck

theorem Acquires.bind {p : LockProgram L ε σ α} {f : α → LockProgram L ε σ β} {S : Set L}
    (hp : Acquires p S) (hf : ∀ a, Acquires (f a) S) : Acquires (p >>= f) S := by
  intro held s hfree
  rw [stuck_bind_iff fun a t => hf a held t hfree]
  exact hp held s hfree

theorem Acquires.handle {p : LockProgram L ε σ α} {handler : ε → LockProgram L ε σ α} {S : Set L}
    (hp : Acquires p S) (hhandler : ∀ e, Acquires (handler e) S) :
    Acquires (LockProgram.handle p handler) S := by
  intro held s hfree
  rcases hr : p held s with ⟨r, t⟩
  cases r with
  | returned a => exact not_stuck_of_returned (handle_returned hr)
  | threw e =>
    rw [Stuck, handle_threw hr]
    exact hhandler e held t hfree
  | relocked k => exact absurd (stuck_of_relocked hr) (hp held s hfree)

theorem Acquires.ite {c : Prop} [Decidable c] {p q : LockProgram L ε σ α} {S : Set L}
    (hp : Acquires p S) (hq : Acquires q S) : Acquires (if c then p else q) S := by
  split
  · exact hp
  · exact hq

/-- A block takes its lock, and its body must not take it again. -/
theorem Acquires.withLock [DecidableEq L] {p : LockProgram L ε σ α} {l : L} {S : Set L}
    (hl : l ∈ S) (hp : Acquires p (S \ {l})) : Acquires (LockProgram.withLock l p) S := by
  intro held s hfree
  rw [stuck_withLock_free (hfree l hl)]
  apply hp
  intro m hex
  obtain ⟨hm, hne⟩ := hex
  rw [List.mem_cons, not_or]
  exact ⟨hne, hfree m hm⟩

theorem acquires_forM {f : α → LockProgram L ε σ PUnit} {S : Set L} {xs : List α}
    (h : ∀ x ∈ xs, Acquires (f x) S) : Acquires (xs.forM f) S := by
  induction xs with
  | nil => exact acquires_pure _ S
  | cons x xs ih =>
    have hrest : Acquires (xs.forM f) S := ih fun y hy => h y (List.mem_cons_of_mem x hy)
    exact (h x List.mem_cons_self).bind fun _ => hrest

end LockProgram
