import Logid.Nicknames
import Mathlib.Data.List.Nodup

/-!
# The least free nickname

The set of the manager holds the numbers of the live objects, and the search for a gap finds the least
number that is not in it.
-/

namespace Logid.Nicknames

open AdjacentFind

theorem intLess_linear : intLess.Linear := KeyLess.on_linear Function.injective_id

theorem keys_sorted (nicknames : NicknameSet) : nicknames.keys.Pairwise (· < ·) := by
  rw [SortedMap.keys, List.pairwise_map]
  refine nicknames.sorted.imp ?_
  intro a b h
  exact of_decide_eq_true h

/-- The search finds the least number that is not in the set. -/
theorem isLeast_nextNickname {l : List Nat} (hsorted : l.Pairwise (· < ·)) :
    IsLeast {n | n ∉ l} (nextNickname l) := by
  cases l with
  | nil => exact isLeast_free (fun n hn => absurd hn (Nat.not_lt_zero n)) (by simp)
  | cons a l =>
    by_cases ha : a = 0
    · subst ha
      rw [nextNickname, if_neg (by simp)]
      cases hfind : adjacentFind gap (0 :: l) with
      | some i =>
        obtain ⟨hfilled, hfree⟩ := adjacentFind_gap hsorted hfind
        exact isLeast_free (fun n hn => hfilled n (Nat.zero_le n) (Nat.lt_succ_iff.mp hn)) hfree
      | none =>
        cases hlast : (0 :: l).getLast? with
        | none => simp at hlast
        | some last =>
          obtain ⟨hfilled, hfree⟩ := adjacentFind_no_gap hsorted hfind hlast
          exact isLeast_free (fun n hn => hfilled n (Nat.zero_le n) (Nat.lt_succ_iff.mp hn)) hfree
    · have hzero : nextNickname (a :: l) = 0 := by simp [nextNickname, ha]
      rw [hzero]
      apply isLeast_free
      · intro n hn
        exact absurd hn (Nat.not_lt_zero n)
      · intro hmem
        rcases List.mem_cons.mp hmem with heq | hmem
        · exact ha heq.symm
        · have hlt := (List.pairwise_cons.mp hsorted).1 0 hmem
          omega

/-! ## One set -/

/-- The set holds the numbers of the live objects, which are distinct. -/
structure Holds (nicknames : NicknameSet) (live : List Nat) : Prop where
  distinct : live.Nodup
  mem_iff : ∀ n, n ∈ nicknames.keys ↔ n ∈ live

theorem Holds.isLeast {nicknames : NicknameSet} {live : List Nat} (h : Holds nicknames live) :
    IsLeast {n | n ∉ live} (nextNickname nicknames.keys) := by
  have hleast := isLeast_nextNickname (keys_sorted nicknames)
  have hset : {n | n ∉ nicknames.keys} = {n | n ∉ live} := by
    ext n
    exact not_congr (h.mem_iff n)
  rw [hset] at hleast
  exact hleast

/-- A number is given out unless all of `int` is taken. -/
theorem Holds.allocates {nicknames : NicknameSet} {live : List Nat} (h : Holds nicknames live) :
    Allocates live ((newNickname nicknames).map fun new => live ++ [new.1]) := by
  have hleast := h.isLeast
  rw [newNickname]
  split
  next hint => exact ⟨_, hleast, rfl⟩
  next hint =>
    intro n hn
    -- a free number is not below the one that is found
    by_contra hfree
    have hle := hleast.2 hfree
    omega

theorem Holds.insert {nicknames set : NicknameSet} {live : List Nat} {n : Nat}
    (h : Holds nicknames live) (hnew : newNickname nicknames = some (n, set)) :
    Holds set (live ++ [n]) := by
  rw [newNickname] at hnew
  split at hnew
  next hint =>
    rw [Option.some_inj, Prod.mk.injEq] at hnew
    obtain ⟨rfl, rfl⟩ := hnew
    have hfree : nextNickname nicknames.keys ∉ live := h.isLeast.1
    constructor
    · rw [List.nodup_append]
      refine ⟨h.distinct, List.nodup_singleton _, ?_⟩
      intro a ha b hb heq
      rw [List.mem_singleton.mp hb] at heq
      exact hfree (heq ▸ ha)
    · intro n
      rw [SortedMap.mem_keys_emplace intLess_linear, h.mem_iff, List.mem_append,
        List.mem_singleton, or_comm]
  next => cases hnew

theorem Holds.erase {nicknames : NicknameSet} {live : List Nat} {i n : Nat}
    (h : Holds nicknames live) (hi : live[i]? = some n) :
    Holds (nicknames.erase n) (live.eraseIdx i) := by
  refine ⟨h.distinct.eraseIdx i, ?_⟩
  intro m
  obtain ⟨hlt, hget⟩ := List.getElem?_eq_some_iff.mp hi
  have herase : live.eraseIdx i = live.erase n := by rw [← hget, h.distinct.erase_getElem i hlt]
  rw [SortedMap.mem_keys_erase intLess_linear, h.mem_iff, herase, h.distinct.mem_erase_iff]

/-! ## The manager -/

/-- What every step keeps. -/
structure Inv (s : State) : Prop where
  devices : Holds s.manager.deviceNicknames s.devices
  receivers : Holds s.manager.receiverNicknames s.receivers

theorem Inv.init : Inv machine.init := by
  have hempty : Holds SortedMap.empty [] := ⟨List.nodup_nil, fun n => Iff.rfl⟩
  exact ⟨hempty, hempty⟩

theorem Inv.step {s t : State} {a : Label} (hs : Inv s) (h : machine.step s a = some t) : Inv t := by
  cases a with
  | makeDevice =>
    obtain ⟨⟨n, m⟩, hnew, rfl⟩ := Option.map_eq_some_iff.mp h
    obtain ⟨⟨ret, set⟩, hset, heq⟩ := Option.map_eq_some_iff.mp hnew
    cases heq
    exact ⟨hs.devices.insert hset, hs.receivers⟩
  | makeReceiver =>
    obtain ⟨⟨n, m⟩, hnew, rfl⟩ := Option.map_eq_some_iff.mp h
    obtain ⟨⟨ret, set⟩, hset, heq⟩ := Option.map_eq_some_iff.mp hnew
    cases heq
    exact ⟨hs.devices, hs.receivers.insert hset⟩
  | destroyDevice i =>
    obtain ⟨n, hn, rfl⟩ := Option.map_eq_some_iff.mp h
    exact ⟨hs.devices.erase hn, hs.receivers⟩
  | destroyReceiver i =>
    obtain ⟨n, hn, rfl⟩ := Option.map_eq_some_iff.mp h
    exact ⟨hs.devices, hs.receivers.erase hn⟩

/-- What the labels do in a state in which the sets hold the live numbers. -/
theorem Inv.serves {s : State} (hs : Inv s) (a : Label) : Serves s a := by
  cases a with
  | makeDevice =>
    constructor
    · rw [Nicknames.step, newDeviceNickname, Option.map_map, Option.map_map]
      exact hs.devices.allocates
    · intro t h
      obtain ⟨new, -, rfl⟩ := Option.map_eq_some_iff.mp h
      rfl
  | makeReceiver =>
    constructor
    · rw [Nicknames.step, newReceiverNickname, Option.map_map, Option.map_map]
      exact hs.receivers.allocates
    · intro t h
      obtain ⟨new, -, rfl⟩ := Option.map_eq_some_iff.mp h
      rfl
  | destroyDevice i =>
    intro hi
    rw [Nicknames.step, List.getElem?_eq_getElem hi]
    exact ⟨_, rfl, rfl, rfl⟩
  | destroyReceiver i =>
    intro hi
    rw [Nicknames.step, List.getElem?_eq_getElem hi]
    exact ⟨_, rfl, rfl, rfl⟩

theorem Inv.proper {s : State} (hs : Inv s) : s.Proper where
  devices := hs.devices.distinct
  receivers := hs.receivers.distinct
  serves := hs.serves

/-- After any sequence of objects made and destroyed the live nicknames of a kind are distinct, a new
object gets the least that no live object has, and one that is destroyed gives up its own alone. -/
theorem always_proper (as : List Label) : machine.Always State.Proper machine.init as := by
  apply Machine.always_of_invariant (I := Inv)
  · intro s hs
    exact hs.proper
  · intro s a t hs h
    exact hs.step h
  · exact Inv.init

/-- The first of two devices is destroyed, and the next one gets its number. -/
theorem always_proper_reused :
    (machine.run machine.init [.makeDevice, .makeDevice, .destroyDevice 0, .makeDevice]).map
      State.devices = some [1, 0] := by
  obtain ⟨s, hs, hlive⟩ : ∃ s, machine.run machine.init
      [.makeDevice, .makeDevice, .destroyDevice 0] = some s ∧ s.devices = [1] := ⟨_, rfl, rfl⟩
  have halways := always_proper ([.makeDevice, .makeDevice, .destroyDevice 0] ++ [])
  have hproper : s.Proper := halways.of_run hs
  have hallocates := (hproper.serves .makeDevice).1
  have hrun : machine.run machine.init [.makeDevice, .makeDevice, .destroyDevice 0, .makeDevice] =
      step s .makeDevice := by
    rw [show [Label.makeDevice, .makeDevice, .destroyDevice 0, .makeDevice] =
      [.makeDevice, .makeDevice, .destroyDevice 0] ++ [.makeDevice] from rfl, Machine.run_append, hs,
      Option.bind_some, Machine.run_cons]
    exact Option.bind_fun_some _
  rw [hrun]
  cases hstep : (step s .makeDevice).map State.devices with
  | none =>
    rw [hstep, hlive] at hallocates
    exact absurd (hallocates 0 (by decide)) (by decide)
  | some live =>
    rw [hstep, hlive] at hallocates
    obtain ⟨n, hleast, rfl⟩ := hallocates
    have hzero : n ≤ 0 := hleast.2 (show 0 ∉ [1] by decide)
    rw [Nat.le_zero.mp hzero]
    rfl

end Logid.Nicknames
