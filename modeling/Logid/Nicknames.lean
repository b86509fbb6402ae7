import Logid.Misc.AdjacentFind
import Logid.Misc.Machine
import Logid.Misc.SortedMap

/-!
# Nicknames

Rendering of `DeviceManager::newDeviceNickname` and `newReceiverNickname` (`DeviceManager.cpp:254-321`)
and of `DeviceNickname` (`Device.cpp:39-52`) and `ReceiverNickname` (`Receiver.cpp:29-43`): an object
takes a number when it is made and gives it back when it is destroyed. The numbers are never negative.
-/

namespace Logid.Nicknames

/-- `std::less<int>` -/
def intLess : KeyLess Nat := KeyLess.on id

/-- `std::set<int>` -/
abbrev NicknameSet := SortedMap Nat Unit intLess

/-- The number that both functions insert. -/
def nextNickname (nicknames : List Nat) : Nat :=
  if nicknames.head?.any (· ≠ 0) then 0
  else
    match adjacentFind AdjacentFind.gap nicknames with
    | none =>
      match nicknames.getLast? with
      | some last => last + 1
      | none => 0
    | some i => i + 1

/-- `none` where `*i + 1` or `*end + 1` is not an `int`. -/
def newNickname (nicknames : NicknameSet) : Option (Nat × NicknameSet) :=
  let ret := nextNickname nicknames.keys
  if ret ≤ 2147483647 then some (ret, nicknames.emplace ret ()) else none

structure Manager where
  deviceNicknames : NicknameSet := .empty
  receiverNicknames : NicknameSet := .empty

def newDeviceNickname (m : Manager) : Option (Nat × Manager) :=
  (newNickname m.deviceNicknames).map fun (ret, set) => (ret, { m with deviceNicknames := set })

def newReceiverNickname (m : Manager) : Option (Nat × Manager) :=
  (newNickname m.receiverNicknames).map fun (ret, set) => (ret, { m with receiverNicknames := set })

/-- The manager, and the numbers of the objects that are alive, the newest last. -/
structure State where
  manager : Manager := {}
  devices : List Nat := []
  receivers : List Nat := []

inductive Label where
  | makeDevice
  | makeReceiver
  /-- The `i`-th of the live objects is destroyed. -/
  | destroyDevice (i : Nat)
  | destroyReceiver (i : Nat)
  deriving DecidableEq, Repr

def step (s : State) : Label → Option State
  | .makeDevice => (newDeviceNickname s.manager).map fun (n, m) =>
    { s with manager := m, devices := s.devices ++ [n] }
  | .makeReceiver => (newReceiverNickname s.manager).map fun (n, m) =>
    { s with manager := m, receivers := s.receivers ++ [n] }
  | .destroyDevice i => s.devices[i]?.map fun n =>
    { s with
      manager.deviceNicknames := s.manager.deviceNicknames.erase n
      devices := s.devices.eraseIdx i }
  | .destroyReceiver i => s.receivers[i]?.map fun n =>
    { s with
      manager.receiverNicknames := s.manager.receiverNicknames.erase n
      receivers := s.receivers.eraseIdx i }

def machine : Machine State Label where
  init := {}
  step := step

/-- A new object gets the least number that no live one has, unless all of `int` is taken. -/
def Allocates (live : List Nat) : Option (List Nat) → Prop
  | some live' => ∃ n, IsLeast {k | k ∉ live} n ∧ live' = live ++ [n]
  | none => ∀ n, n ≤ 2147483647 → n ∈ live

/-- What a step does to the live numbers: the new object's is added, or the destroyed one's is free
again, and nothing else changes. -/
def Serves (s : State) (a : Label) : Prop :=
  match a with
  | .makeDevice => Allocates s.devices ((step s a).map State.devices) ∧
      ∀ t, step s a = some t → t.receivers = s.receivers
  | .makeReceiver => Allocates s.receivers ((step s a).map State.receivers) ∧
      ∀ t, step s a = some t → t.devices = s.devices
  | .destroyDevice i => i < s.devices.length → ∃ t, step s a = some t ∧
      t.devices = s.devices.eraseIdx i ∧ t.receivers = s.receivers
  | .destroyReceiver i => i < s.receivers.length → ∃ t, step s a = some t ∧
      t.receivers = s.receivers.eraseIdx i ∧ t.devices = s.devices

/-- The live numbers of a kind are distinct, and every step serves them. -/
structure State.Proper (s : State) : Prop where
  devices : s.devices.Nodup
  receivers : s.receivers.Nodup
  serves : ∀ a, Serves s a

end Logid.Nicknames
