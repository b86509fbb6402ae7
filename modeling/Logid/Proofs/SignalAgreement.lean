import Mathlib.Data.List.Count
import Logid.DeviceManager

/-!
# Signals and listings

The devices announced and not withdrawn are the devices listed, in every run whose steps are
orderly, and in no other: a device opened at a path that has one is announced and dropped, and the
devices of a receiver that is outside `_receivers` while a task owns it are not listed.

The proof keeps accounts. The devices known are those listed and those hidden in detached
receivers. Every operation but the announcement of a dropped device changes what is announced,
withdrawn and known by the same amounts.
-/

namespace Logid.DeviceManager

open Logid.Backend
open Logid.Backend.Hidpp (DeviceIndex)
open Logid.Backend.Hidpp10 (DeviceConnectionEvent)

def announced (s : State) (d : DeviceId) : Nat := s.signals.count (.deviceAdded d)

def withdrawn (s : State) (d : DeviceId) : Nat := s.signals.count (.deviceRemoved d)

/-- The announcements that were not withdrawn are the listing, as multisets. -/
def Agreement (s : State) : Prop :=
  ∀ d, announced s d = withdrawn s d + (listDevices s).count d

/-- Something other than `_receivers` owns the object. -/
def Owned (o : ReceiverObject) : Prop := o.fresh = true ∨ 0 < o.holders

/-- No device is opened at a path that has one, none is added to a receiver outside `_receivers`,
and no receiver with devices is removed while a task owns it. -/
def Orderly (s : State) : Label → Prop
  | .addDevice path env => addDevice env = .ok .device → ¬ s.devices.Has path
  | .receiverAdd (.detached n) event env => ∀ o, s.detached[n]? = some o →
      Receiver.addDevice env (decide (o.devices.Has event.index)) event ≠ .ok .added
  | .removeDevice path => ∀ o, s.receivers.find? path = some o → Owned o → o.devices.values = []
  | _ => True

def devicesOf (os : List ReceiverObject) : List DeviceId := os.flatMap fun o => o.devices.values

/-- The devices in receivers that are not listed. -/
def hidden (s : State) : List DeviceId := devicesOf s.detached

def known (s : State) (d : DeviceId) : Nat := (listDevices s).count d + (hidden s).count d

@[simp] theorem devicesOf_nil : devicesOf [] = [] := rfl

@[simp] theorem devicesOf_cons (o : ReceiverObject) (os : List ReceiverObject) :
    devicesOf (o :: os) = o.devices.values ++ devicesOf os := rfl

@[simp] theorem devicesOf_append (os os' : List ReceiverObject) :
    devicesOf (os ++ os') = devicesOf os ++ devicesOf os' := List.flatMap_append

theorem count_devicesOf {os os' : List ReceiverObject} (h : os.Perm os') (d : DeviceId) :
    (devicesOf os).count d = (devicesOf os').count d :=
  (h.flatMap_right _).count_eq d

theorem count_listDevices (s : State) (d : DeviceId) :
    (listDevices s).count d = s.devices.values.count d + (devicesOf s.receivers.values).count d :=
  List.count_append

/-- Taking the `n`-th detached object out. -/
theorem count_hidden_eraseIdx {os : List ReceiverObject} {n : Nat} {o : ReceiverObject}
    (h : os[n]? = some o) (d : DeviceId) :
    (devicesOf os).count d = o.devices.values.count d + (devicesOf (os.eraseIdx n)).count d := by
  obtain ⟨hlt, rfl⟩ := List.getElem?_eq_some_iff.mp h
  rw [← count_devicesOf (List.getElem_cons_eraseIdx_perm hlt), devicesOf_cons, List.count_append]

/-- Of objects without devices each has none, nor do the others. -/
theorem devicesOf_nil_of_getElem? {os : List ReceiverObject} (hos : devicesOf os = []) {n : Nat}
    {o : ReceiverObject} (h : os[n]? = some o) :
    o.devices.values = [] ∧ devicesOf (os.eraseIdx n) = [] := by
  have hcount : ∀ d, o.devices.values.count d = 0 ∧ (devicesOf (os.eraseIdx n)).count d = 0 := by
    intro d
    have hsum := count_hidden_eraseIdx h d
    rw [hos, List.count_nil] at hsum
    omega
  refine ⟨List.eq_nil_iff_forall_not_mem.mpr ?_, List.eq_nil_iff_forall_not_mem.mpr ?_⟩
  · intro d
    exact List.count_eq_zero.mp (hcount d).1
  · intro d
    exact List.count_eq_zero.mp (hcount d).2

theorem count_hidden_set {os : List ReceiverObject} {n : Nat} {o : ReceiverObject}
    (h : os[n]? = some o) (o' : ReceiverObject) (d : DeviceId) :
    (devicesOf (os.set n o')).count d =
      o'.devices.values.count d + (devicesOf (os.eraseIdx n)).count d := by
  obtain ⟨hlt, rfl⟩ := List.getElem?_eq_some_iff.mp h
  rw [count_devicesOf (List.set_perm_cons_eraseIdx hlt o'), devicesOf_cons, List.count_append]

@[simp] theorem count_deviceAdded_deviceAdded (n d : DeviceId) :
    [Signal.deviceAdded n].count (Signal.deviceAdded d) = if n = d then 1 else 0 := by
  simp [List.count_singleton]

@[simp] theorem count_deviceAdded_deviceRemoved (n d : DeviceId) :
    [Signal.deviceRemoved n].count (Signal.deviceAdded d) = 0 := by
  simp

@[simp] theorem count_deviceRemoved_deviceAdded (n d : DeviceId) :
    [Signal.deviceAdded n].count (Signal.deviceRemoved d) = 0 := by
  simp

@[simp] theorem count_deviceRemoved_deviceRemoved (n d : DeviceId) :
    [Signal.deviceRemoved n].count (Signal.deviceRemoved d) = if n = d then 1 else 0 := by
  simp [List.count_singleton]

@[simp] theorem announced_farewell (o : ReceiverObject) (d : DeviceId) :
    (farewell o).count (Signal.deviceAdded d) = 0 := by
  rw [List.count_eq_zero, farewell, List.mem_map]
  intro hex
  obtain ⟨e, -, h⟩ := hex
  cases h

@[simp] theorem withdrawn_farewell (o : ReceiverObject) (d : DeviceId) :
    (farewell o).count (Signal.deviceRemoved d) = o.devices.values.count d :=
  List.count_map_of_injective _ _ (fun _ _ h => by injection h) d

/-- A step that announces nothing and withdraws what it forgets. -/
structure Settles (s t : State) : Prop where
  announced : ∀ d, announced t d = announced s d
  accounts : ∀ d, withdrawn t d + known t d = withdrawn s d + known s d
  nextDevice : t.nextDevice = s.nextDevice

/-- A step that makes a device and announces it; it knows the device afterwards, or drops it. -/
structure Announces (s t : State) (kept : Prop) : Prop where
  announced : ∀ d, announced t d = announced s d + if s.nextDevice = d then 1 else 0
  withdrawn : ∀ d, withdrawn t d = withdrawn s d
  keeps : kept → ∀ d, known t d = known s d + if s.nextDevice = d then 1 else 0
  drops : ¬ kept → ∀ d, known t d = known s d
  nextDevice : t.nextDevice = s.nextDevice + 1

/-- The accounts of every reachable state. -/
structure Inv (s : State) : Prop where
  /-- No announcement is missing. -/
  covered : ∀ d, withdrawn s d + known s d ≤ announced s d
  /-- A device that has not been made was not announced. -/
  fresh : ∀ d, s.nextDevice ≤ d → announced s d = 0

theorem Inv.agreement_iff {s : State} (hs : Inv s) :
    Agreement s ↔ (∀ d, announced s d = withdrawn s d + known s d) ∧ hidden s = [] := by
  constructor
  · intro h
    have hcount : ∀ d, (hidden s).count d = 0 := by
      intro d
      have h₁ := h d
      have h₂ := hs.covered d
      unfold known at h₂
      omega
    refine ⟨fun d => ?_, ?_⟩
    · rw [known, hcount d, h d, Nat.add_zero]
    · rw [List.eq_nil_iff_forall_not_mem]
      exact fun d => List.count_eq_zero.mp (hcount d)
  · intro hex d
    obtain ⟨h, hhidden⟩ := hex
    rw [h d, known, hhidden, List.count_nil, Nat.add_zero]

theorem Inv.of_settles {s t : State} (hs : Inv s) (h : Settles s t) : Inv t := by
  refine ⟨fun d => ?_, fun d hd => ?_⟩
  · rw [h.accounts, h.announced]
    exact hs.covered d
  · rw [h.announced]
    rw [h.nextDevice] at hd
    exact hs.fresh d hd

theorem Inv.of_announces {s t : State} {kept : Prop} (hs : Inv s) (h : Announces s t kept) :
    Inv t := by
  refine ⟨fun d => ?_, fun d hd => ?_⟩
  · have hcov := hs.covered d
    rw [h.announced, h.withdrawn]
    by_cases hk : kept
    · rw [h.keeps hk]
      omega
    · rw [h.drops hk]
      omega
  · rw [h.nextDevice] at hd
    rw [h.announced, hs.fresh d (Nat.le_of_succ_le hd), if_neg (Nat.ne_of_lt hd)]

/-- A step that settles its accounts keeps the agreement if it leaves no device hidden. -/
theorem agreement_of_settles {s t : State} (hs : Inv s) (hag : Agreement s) (h : Settles s t) :
    Agreement t ↔ hidden t = [] := by
  rw [(hs.of_settles h).agreement_iff]
  refine ⟨And.right, fun hnil => ⟨fun d => ?_, hnil⟩⟩
  rw [h.announced, h.accounts]
  exact (hs.agreement_iff.mp hag).1 d

/-- An announcement keeps the agreement if the device is kept, and not in hiding. -/
theorem agreement_of_announces {s t : State} {kept : Prop} (hs : Inv s) (hag : Agreement s)
    (h : Announces s t kept) : Agreement t ↔ kept ∧ hidden t = [] := by
  have hbefore := (hs.agreement_iff.mp hag).1
  rw [(hs.of_announces h).agreement_iff]
  constructor
  · intro hex
    obtain ⟨hafter, hnil⟩ := hex
    refine ⟨?_, hnil⟩
    by_contra hk
    have h₁ := hafter s.nextDevice
    have h₂ := hbefore s.nextDevice
    rw [h.announced, h.withdrawn, h.drops hk, if_pos rfl] at h₁
    omega
  · intro hex
    obtain ⟨hk, hnil⟩ := hex
    refine ⟨fun d => ?_, hnil⟩
    rw [h.announced, h.withdrawn, h.keeps hk, hbefore d]
    omega

/-- An object that leaves its place is kept among the detached ones or takes leave of its devices:
no device is forgotten. -/
theorem detach_accounts (s : State) (o : ReceiverObject) (d : DeviceId) :
    announced (detach s o) d = announced s d ∧
      withdrawn (detach s o) d + known (detach s o) d =
        withdrawn s d + known s d + o.devices.values.count d := by
  unfold detach
  split
  · refine ⟨rfl, ?_⟩
    simp only [withdrawn, known, listDevices, hidden, devicesOf_append, devicesOf_cons,
      devicesOf_nil, List.append_nil, List.count_append]
    omega
  · simp only [announced, withdrawn, known, listDevices, hidden, List.count_append,
      announced_farewell, withdrawn_farewell]
    omega

theorem detach_hidden (s : State) (o : ReceiverObject) :
    hidden (detach s o) = [] ↔ hidden s = [] ∧ (Owned o → o.devices.values = []) := by
  unfold detach Owned
  by_cases h : o.fresh = true ∨ 0 < o.holders
  · have hcond : (o.fresh || decide (0 < o.holders)) = true := by simpa using h
    rw [if_pos hcond]
    simp [hidden, h]
  · have hcond : ¬ (o.fresh || decide (0 < o.holders)) = true := by simpa using h
    rw [if_neg hcond]
    simp only [hidden, h, false_implies, and_true]

theorem detach_nextDevice (s : State) (o : ReceiverObject) :
    (detach s o).nextDevice = s.nextDevice := by
  unfold detach
  split <;> rfl

theorem insertDevice_announces (s : State) (path : Path) :
    Announces s (insertDevice s path) (¬ s.devices.Has path) := by
  refine ⟨fun d => ?_, fun d => ?_, fun h d => ?_, fun h d => ?_, rfl⟩
  · simp only [announced, insertDevice, List.count_append, count_deviceAdded_deviceAdded]
  · simp only [withdrawn, insertDevice, List.count_append, count_deviceRemoved_deviceAdded,
      Nat.add_zero]
  · have hvalues := (AssocMap.perm_emplace h s.nextDevice).count_eq d
    rw [List.count_cons] at hvalues
    simp only [known, hidden, insertDevice, count_listDevices, hvalues, beq_iff_eq]
    omega
  · rw [not_not] at h
    simp only [known, hidden, insertDevice, count_listDevices, AssocMap.emplace_of_has h]

theorem makeReceiver_settles (s : State) (path : Path) : Settles s (makeReceiver s path) := by
  refine ⟨fun d => rfl, fun d => ?_, rfl⟩
  simp only [withdrawn, known, listDevices, hidden, makeReceiver, devicesOf_append,
    devicesOf_cons, devicesOf_nil, List.count_append]
  rfl

theorem setObject_accounts {s : State} {place : Place} {o : ReceiverObject}
    (h : objectAt s place = some o) (o' : ReceiverObject) (d : DeviceId) :
    known (setObject s place o') d + o.devices.values.count d =
      known s d + o'.devices.values.count d := by
  cases place with
  | published path =>
    have hold := count_devicesOf (AssocMap.perm_erase h) d
    have hnew := count_devicesOf (AssocMap.perm_set h o') d
    rw [devicesOf_cons, List.count_append] at hold hnew
    simp only [known, hidden, setObject, count_listDevices, hold, hnew]
    omega
  | detached n =>
    have hold := count_hidden_eraseIdx h d
    have hnew := count_hidden_set h o' d
    simp only [known, hidden, setObject, listDevices, hold, hnew]
    omega

theorem setObject_hidden {s : State} {place : Place} {o : ReceiverObject}
    (h : objectAt s place = some o) (o' : ReceiverObject) (hs : hidden s = []) :
    hidden (setObject s place o') = [] ↔ ∀ n, place = .detached n → o'.devices.values = [] := by
  cases place with
  | published path => simp [setObject, hidden] at hs ⊢; exact hs
  | detached n =>
    have hrest : devicesOf (s.detached.eraseIdx n) = [] := (devicesOf_nil_of_getElem? hs h).2
    have hiff : ∀ d, (devicesOf (s.detached.set n o')).count d = o'.devices.values.count d := by
      intro d
      rw [count_hidden_set h, hrest, List.count_nil, Nat.add_zero]
    have hperm : (devicesOf (s.detached.set n o')).Perm o'.devices.values :=
      List.perm_iff_count.mpr hiff
    constructor
    · intro hnil m _
      rw [show devicesOf (s.detached.set n o') = [] from hnil] at hperm
      exact hperm.symm.eq_nil
    · intro hnil
      rw [hnil n rfl] at hperm
      exact hperm.eq_nil

/-- In a state without hidden devices a detached object has none. -/
theorem devices_nil_of_hidden {s : State} (hs : hidden s = []) {n : Nat} {o : ReceiverObject}
    (h : s.detached[n]? = some o) : o.devices.values = [] :=
  (devicesOf_nil_of_getElem? hs h).1

/-- Replacing an object by one with the same devices. -/
theorem setObject_settles {s : State} {place : Place} {o o' : ReceiverObject}
    (h : objectAt s place = some o) (hdevices : o'.devices = o.devices) :
    Settles s (setObject s place o') := by
  refine ⟨fun d => ?_, fun d => ?_, ?_⟩
  · cases place <;> rfl
  · have hacc := setObject_accounts h o' d
    rw [hdevices] at hacc
    have hw : withdrawn (setObject s place o') d = withdrawn s d := by cases place <;> rfl
    omega
  · cases place <;> rfl

/-- Taking an object out of the detached ones and finding it another place. -/
theorem eraseIdx_accounts {s : State} {n : Nat} {o : ReceiverObject}
    (h : s.detached[n]? = some o) (d : DeviceId) :
    known { s with detached := s.detached.eraseIdx n } d + o.devices.values.count d =
      known s d := by
  have hcount := count_hidden_eraseIdx h d
  simp only [known, hidden, listDevices, hcount]
  omega

theorem publish_settles {s : State} {n : Nat} {o : ReceiverObject}
    (h : s.detached[n]? = some o) : Settles s (publish s n o) := by
  have herase := eraseIdx_accounts h
  simp only [publish]
  split
  · refine ⟨fun d => (detach_accounts _ _ d).1, fun d => ?_, detach_nextDevice _ _⟩
    rw [(detach_accounts _ _ d).2, ← herase d, Nat.add_assoc]
    rfl
  · rename_i hhas
    refine ⟨fun d => rfl, fun d => ?_, rfl⟩
    have hvalues := count_devicesOf (AssocMap.perm_emplace hhas { o with fresh := false }) d
    rw [devicesOf_cons, List.count_append] at hvalues
    rw [← herase d]
    simp only [withdrawn, known, hidden, count_listDevices, hvalues]
    omega

theorem removeDevice_settles (s : State) (path : Path) : Settles s (removeDevice s path) := by
  unfold removeDevice
  split
  next o ho =>
    refine ⟨fun d => (detach_accounts _ _ d).1, fun d => ?_, detach_nextDevice _ _⟩
    have hvalues := count_devicesOf (AssocMap.perm_erase ho) d
    rw [devicesOf_cons, List.count_append] at hvalues
    rw [(detach_accounts _ _ d).2]
    simp only [withdrawn, known, hidden, count_listDevices, hvalues]
    omega
  next =>
    split
    next e he =>
      refine ⟨fun d => ?_, fun d => ?_, rfl⟩
      · simp only [announced, List.count_append, count_deviceAdded_deviceRemoved, Nat.add_zero]
      · have hvalues := (AssocMap.perm_erase he).count_eq d
        rw [List.count_cons] at hvalues
        simp only [withdrawn, known, hidden, count_listDevices, List.count_append,
          count_deviceRemoved_deviceRemoved, hvalues, beq_iff_eq]
        omega
    next => exact ⟨fun d => rfl, fun d => rfl, rfl⟩

theorem insertReceiverDevice_announces {s : State} {place : Place} {o : ReceiverObject}
    (h : objectAt s place = some o) {index : DeviceIndex} (hhas : ¬ o.devices.Has index) :
    Announces s (insertReceiverDevice s place o index) True := by
  have hsignals : ∀ o', (setObject s place o').signals = s.signals := by
    intro o'
    cases place <;> rfl
  have hnext : ∀ o', (setObject s place o').nextDevice = s.nextDevice := by
    intro o'
    cases place <;> rfl
  refine ⟨fun d => ?_, fun d => ?_, fun _ d => ?_, fun hnot => absurd trivial hnot, ?_⟩
  · simp only [announced, insertReceiverDevice, hsignals, hnext, List.count_append,
      count_deviceAdded_deviceAdded]
  · simp only [withdrawn, insertReceiverDevice, hsignals, List.count_append,
      count_deviceRemoved_deviceAdded, Nat.add_zero]
  · have hacc := setObject_accounts h { o with devices := o.devices.emplace index s.nextDevice } d
    have hvalues := (AssocMap.perm_emplace hhas s.nextDevice).count_eq d
    rw [List.count_cons] at hvalues
    simp only [hvalues, beq_iff_eq] at hacc
    have hsame : known (insertReceiverDevice s place o index) d =
        known (setObject s place { o with devices := o.devices.emplace index s.nextDevice }) d :=
      rfl
    rw [hsame]
    omega
  · simp only [insertReceiverDevice, hnext]

theorem removeReceiverDevice_settles {s : State} {place : Place} {o : ReceiverObject}
    (h : objectAt s place = some o) (index : DeviceIndex) :
    Settles s (removeReceiverDevice s place o index) := by
  have hsignals : ∀ o', (setObject s place o').signals = s.signals := by
    intro o'
    cases place <;> rfl
  unfold removeReceiverDevice
  split
  next e he =>
    refine ⟨fun d => ?_, fun d => ?_, by cases place <;> rfl⟩
    · simp only [announced, hsignals, List.count_append, count_deviceAdded_deviceRemoved,
        Nat.add_zero]
    · have hacc := setObject_accounts h { o with devices := o.devices.erase index } d
      have hvalues := (AssocMap.perm_erase he).count_eq d
      rw [List.count_cons] at hvalues
      simp only [hvalues, beq_iff_eq] at hacc
      simp only [withdrawn, hsignals, List.count_append, count_deviceRemoved_deviceRemoved]
      have hsame : ∀ signals, known { setObject s place { o with devices := o.devices.erase index }
          with signals := signals } d =
          known (setObject s place { o with devices := o.devices.erase index }) d := fun _ => rfl
      rw [hsame]
      omega
  next => exact ⟨fun d => rfl, fun d => rfl, rfl⟩

theorem dropHolder_settles {s : State} {place : Place} {o : ReceiverObject}
    (h : objectAt s place = some o) : Settles s (dropHolder s place o) := by
  cases place with
  | published path =>
    have hset : Settles s (setObject s (.published path) { o with holders := o.holders - 1 }) :=
      setObject_settles h rfl
    exact hset
  | detached n =>
    refine ⟨fun d => (detach_accounts _ _ d).1, fun d => ?_, detach_nextDevice _ _⟩
    have herase := eraseIdx_accounts h d
    simp only [dropHolder]
    rw [(detach_accounts _ _ d).2, ← herase, Nat.add_assoc]
    rfl

section Hidden

variable {s : State}

theorem hidden_eraseIdx (hs : hidden s = []) {n : Nat} {o : ReceiverObject}
    (h : s.detached[n]? = some o) :
    hidden { s with detached := s.detached.eraseIdx n } = [] :=
  (devicesOf_nil_of_getElem? hs h).2

theorem publish_hidden (hs : hidden s = []) {n : Nat} {o : ReceiverObject}
    (h : s.detached[n]? = some o) : hidden (publish s n o) = [] := by
  have herase := hidden_eraseIdx hs h
  simp only [publish]
  split
  · have hdevices : o.devices.values = [] := devices_nil_of_hidden hs h
    rw [detach_hidden]
    exact ⟨herase, fun _ => hdevices⟩
  · exact herase

theorem removeDevice_hidden (hs : hidden s = []) (path : Path) :
    hidden (removeDevice s path) = [] ↔ Orderly s (.removeDevice path) := by
  unfold removeDevice
  cases hr : s.receivers.find? path with
  | some o =>
    have hhid : hidden { s with receivers := s.receivers.erase path } = [] := hs
    simp [detach_hidden, hhid, Orderly, hr]
  | none =>
    have htrue : Orderly s (.removeDevice path) := by
      intro o ho
      rw [hr] at ho
      cases ho
    refine ⟨fun _ => htrue, fun _ => ?_⟩
    simp only
    split
    · exact hs
    · exact hs

theorem lock_hidden (hs : hidden s = []) {place : Place} {o : ReceiverObject}
    (h : objectAt s place = some o) (n : Nat) :
    hidden (setObject s place { o with holders := n }) = [] := by
  rw [setObject_hidden h _ hs]
  intro m heq
  subst heq
  have hdevices : o.devices.values = [] := devices_nil_of_hidden hs h
  exact hdevices

theorem receiverAdd_hidden (hs : hidden s = []) {place : Place} {o : ReceiverObject}
    (h : objectAt s place = some o) {index : DeviceIndex} (hhas : ¬ o.devices.Has index) :
    hidden (insertReceiverDevice s place o index) = [] ↔ ∀ n, place ≠ .detached n := by
  have hsame : hidden (insertReceiverDevice s place o index) = hidden (setObject s place
      { o with devices := o.devices.emplace index s.nextDevice }) := by
    cases place <;> rfl
  rw [hsame, setObject_hidden h _ hs]
  constructor
  · intro hnil n hn
    have hperm := AssocMap.perm_emplace hhas s.nextDevice
    rw [hnil n hn] at hperm
    cases hperm.symm.eq_nil
  · intro hne n hn
    exact absurd hn (hne n)

theorem receiverRemove_hidden (hs : hidden s = []) {place : Place} {o : ReceiverObject}
    (h : objectAt s place = some o) (index : DeviceIndex) :
    hidden (removeReceiverDevice s place o index) = [] := by
  unfold removeReceiverDevice
  split
  next e he =>
    cases place with
    | published path => exact hs
    | detached n =>
      have hnil := devices_nil_of_hidden hs h
      have hperm := AssocMap.perm_erase he
      rw [hnil] at hperm
      cases hperm.symm.eq_nil
  next => exact hs

theorem dropHolder_hidden (hs : hidden s = []) {place : Place} {o : ReceiverObject}
    (h : objectAt s place = some o) : hidden (dropHolder s place o) = [] := by
  cases place with
  | published path => exact hs
  | detached n =>
    have hdevices : o.devices.values = [] := devices_nil_of_hidden hs h
    simp only [dropHolder]
    rw [detach_hidden]
    exact ⟨hidden_eraseIdx hs h, fun _ => hdevices⟩

end Hidden

/-- The devices behind a published receiver are listed, those behind another are hidden. -/
theorem receiverAdd_orderly {s : State} {place : Place} {o : ReceiverObject}
    (h : objectAt s place = some o) {event : DeviceConnectionEvent} {env : Receiver.AddEnv}
    (hadded : Receiver.addDevice env (decide (o.devices.Has event.index)) event = .ok .added) :
    (∀ n, place ≠ .detached n) ↔ Orderly s (.receiverAdd place event env) := by
  cases place with
  | published path => simp [Orderly]
  | detached n =>
    refine ⟨fun hne => absurd rfl (hne n), fun hord => ?_⟩
    exact absurd hadded (hord o h)

theorem receiverKeep_orderly {s : State} {place : Place} {o : ReceiverObject}
    (h : objectAt s place = some o) {event : DeviceConnectionEvent} {env : Receiver.AddEnv}
    (hnot : Receiver.addDevice env (decide (o.devices.Has event.index)) event ≠ .ok .added) :
    Orderly s (.receiverAdd place event env) := by
  cases place with
  | published path => trivial
  | detached n =>
    intro o' ho'
    rw [show s.detached[n]? = some o from h, Option.some.injEq] at ho'
    rw [← ho']
    exact hnot

theorem step_accounts {s t : State} {a : Label} (hs : Inv s) (h : step s a = some t) :
    Inv t ∧ (Agreement s → (Agreement t ↔ Orderly s a)) := by
  have hnil : Agreement s → hidden s = [] := fun hag => (hs.agreement_iff.mp hag).2
  -- the steps that settle their accounts: only what they hide counts
  have hsettle : Settles s t → (hidden s = [] → (hidden t = [] ↔ Orderly s a)) →
      Inv t ∧ (Agreement s → (Agreement t ↔ Orderly s a)) := fun hset hhid =>
    ⟨hs.of_settles hset, fun hag => (agreement_of_settles hs hag hset).trans (hhid (hnil hag))⟩
  have hrefl : Settles s s := ⟨fun d => rfl, fun d => rfl, rfl⟩
  cases step_transition h with
  | @insertDevice path env result =>
    have hann := insertDevice_announces s path
    refine ⟨hs.of_announces hann, fun hag => ?_⟩
    have hhid : hidden (insertDevice s path) = [] := hnil hag
    rw [agreement_of_announces hs hag hann]
    simp only [Orderly, result, hhid, and_true, true_implies]
  | @makeReceiver path env result =>
    refine hsettle (makeReceiver_settles s path) fun hhid => ?_
    have hmade : hidden (makeReceiver s path) = [] := by
      simp only [hidden, makeReceiver, devicesOf_append] at hhid ⊢
      rw [hhid]
      rfl
    simp [hmade, Orderly, result]
  | addNothing result =>
    exact hsettle hrefl fun hhid => by simp [hhid, Orderly, result]
  | publish detached _ =>
    exact hsettle (publish_settles detached) fun hhid => by
      simp [publish_hidden hhid detached, Orderly]
  | @removeDevice path =>
    exact hsettle (removeDevice_settles s path) fun hhid => removeDevice_hidden hhid path
  | lock at_ =>
    exact hsettle (setObject_settles at_ rfl) fun hhid => by simp [lock_hidden hhid at_, Orderly]
  | @receiverAdd place o event env at_ result =>
    have hhas : ¬ o.devices.Has event.index := by
      simpa using Receiver.not_present_of_added result
    have hann := insertReceiverDevice_announces at_ hhas
    refine ⟨hs.of_announces hann, fun hag => ?_⟩
    rw [agreement_of_announces hs hag hann, true_and, receiverAdd_hidden (hnil hag) at_ hhas]
    exact receiverAdd_orderly at_ result
  | receiverKeep at_ result =>
    exact hsettle hrefl fun hhid => ⟨fun _ => receiverKeep_orderly at_ result, fun _ => hhid⟩
  | @receiverRemove place o index at_ =>
    exact hsettle (removeReceiverDevice_settles at_ index) fun hhid => by
      simp [receiverRemove_hidden hhid at_, Orderly]
  | unlock at_ =>
    exact hsettle (dropHolder_settles at_) fun hhid => by
      simp [dropHolder_hidden hhid at_, Orderly]

theorem inv_init : Inv machine.init where
  covered _ := Nat.le_refl 0
  fresh _ _ := rfl

/-- Announcements and listing agree all along a run exactly if its steps are orderly. -/
theorem signals_agree_iff (as : List Label) :
    machine.Always Agreement machine.init as ↔ machine.Meets Orderly machine.init as :=
  Machine.always_iff_meets (J := Inv) (fun _ _ _ hs _ h _ => (step_accounts hs h).1)
    (fun _ _ _ hs hag h => (step_accounts hs h).2 hag) inv_init (fun _ => rfl)

/-- A second add event for a path that is present: two devices are announced, one is listed. -/
theorem device_announced_twice :
    ∃ s, machine.run machine.init [.addDevice "/dev/hidraw0" {}, .addDevice "/dev/hidraw0" {}] =
        some s ∧
      s.signals = [.deviceAdded 0, .deviceAdded 1] ∧ listDevices s = [0] ∧ ¬ Agreement s := by
  refine ⟨_, rfl, rfl, rfl, fun h => ?_⟩
  have h1 := h 1
  revert h1
  decide

end Logid.DeviceManager
