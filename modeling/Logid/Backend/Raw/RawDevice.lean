import Mathlib.Data.List.Basic

/-!
# Writing a report to a hidraw node

Rendering of `RawDevice::sendReport` (`backend/raw/RawDevice.cpp:206-226`). What the kernel answers
to each `write` is data of the model, so every failure the loop can meet is covered.
-/

namespace Logid.Backend.Raw

/-- The values of `errno`. -/
abbrev Errno := Nat

def EPIPE : Errno := 32

/-- `max_write_tries` (`backend/raw/RawDevice.cpp:44`). -/
def maxWriteTries : Nat := 8

/-- What one call of `RawDevice::sendReport` meets: the flag `_valid`, and the `errno` of each
`write` that returns `-1`. -/
structure WriteEnv where
  valid : Bool := true
  errno : Nat → Option Errno := fun _ => none

/-- The loop over `write`, with `tries` iterations left. -/
def sendLoop (env : WriteEnv) (i : Nat) : Nat → Except Errno Unit
  | 0 => .ok ()
  | tries + 1 =>
    match env.errno i with
    | none => .ok ()
    | some err => if err ≠ EPIPE then .error err else sendLoop env (i + 1) tries

/-- `RawDevice::sendReport`; the exception is `std::system_error` with its code. -/
def sendReport (env : WriteEnv) : Except Errno Unit :=
  if !env.valid then .ok () else sendLoop env 0 maxWriteTries

/-- The loop throws exactly when some `write` fails with another code than `EPIPE` after nothing
but broken pipes. -/
theorem sendLoop_error_iff (env : WriteEnv) (err : Errno) (i tries : Nat) :
    sendLoop env i tries = .error err ↔
      err ≠ EPIPE ∧ ∃ n < tries, env.errno (i + n) = some err ∧
        ∀ m < n, env.errno (i + m) = some EPIPE := by
  induction tries generalizing i with
  | zero => simp [sendLoop]
  | succ tries ih =>
    simp only [sendLoop]
    cases hi : env.errno i with
    | none =>
      refine ⟨fun h => absurd h (by simp), ?_⟩
      intro hex
      obtain ⟨-, n, -, hn, hm⟩ := hex
      rcases Nat.eq_zero_or_pos n with rfl | hpos
      · simp [hi] at hn
      · simpa [hi] using hm 0 hpos
    | some e =>
      by_cases he : e = EPIPE
      · simp only [he, ne_eq, not_true_eq_false, if_false, ih]
        refine and_congr_right fun hne => ⟨?_, ?_⟩
        · intro hex
          obtain ⟨n, hlt, hn, hm⟩ := hex
          refine ⟨n + 1, by omega, by rw [← hn]; congr 1; omega, fun m hlt => ?_⟩
          cases m with
          | zero => simpa [he] using hi
          | succ m =>
            rw [← hm m (by omega)]
            congr 1
            omega
        · intro hex
          obtain ⟨n, hlt, hn, hm⟩ := hex
          cases n with
          | zero =>
            rw [Nat.add_zero, hi, Option.some.injEq] at hn
            exact absurd (hn.symm.trans he) hne
          | succ n =>
            refine ⟨n, by omega, by rw [← hn]; congr 1; omega, fun m hlt => ?_⟩
            rw [← hm (m + 1) (by omega)]
            congr 1
            omega
      · simp only [ne_eq, he, not_false_eq_true, if_true, Except.error.injEq]
        constructor
        · intro heq
          subst heq
          exact ⟨he, 0, by omega, hi, by omega⟩
        · intro hex
          obtain ⟨-, n, -, hn, hm⟩ := hex
          rcases Nat.eq_zero_or_pos n with rfl | hpos
          · simpa [hi] using hn
          · exact absurd (by simpa [hi] using hm 0 hpos) he

end Logid.Backend.Raw
