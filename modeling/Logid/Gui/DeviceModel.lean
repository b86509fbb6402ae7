import Mathlib.Data.List.InsertIdx
import Mathlib.Data.List.Nodup
import Mathlib.Data.List.Perm.Basic

/-!
# The device list of the user interface

Rendering of `DeviceModel.cpp:64-198`. `rowForPath` guards every insertion, so one path never has two
rows.
-/

namespace Logid.Gui

inductive DeviceKind where
  | mouse
  | keyboard
  | unknownKind
  deriving DecidableEq, Repr

inductive ConnectionState where
  | online
  | sleeping
  | offline
  | unknownState
  deriving DecidableEq, Repr

/-- `DeviceModel::Row` -/
structure Row where
  path : String
  name : String
  model : String
  deviceKind : DeviceKind
  batteryPercent : Int
  batteryKnown : Bool
  charging : Bool
  connectionState : ConnectionState
  deriving DecidableEq, Repr

structure DeviceModel where
  rows : List Row
  distinct : (rows.map Row.path).Nodup
  deriving DecidableEq

namespace DeviceModel

def kindFromPid (pid : UInt16) : DeviceKind :=
  if pid = 0xb350 ∨ pid = 0xb35b ∨ pid = 0x408a ∨ pid = 0x920a then .keyboard else .mouse

/-- `QString::toInt` on what a path of D-Bus ends with, which has no signs or blanks. -/
def decimal (s : String) : Option Int :=
  if s.toList = [] ∨ s.toList.any (fun c => !c.isDigit) then none
  else
    let n := s.toList.foldl (fun n c => 10 * n + (c.toNat - '0'.toNat)) 0
    if n < 2147483648 then some n else none

/-- The number after the last `/`, 0 where `toInt` fails. -/
def nicknameOf (toInt : String → Option Int) (path : String) : Int :=
  let last := (path.toList.reverse.takeWhile fun c => c ≠ '/').reverse
  if '/' ∉ path.toList ∨ last = [] then 0 else (toInt (String.ofList last)).getD 0

/-- `rowForPath(path) >= 0` -/
def HasRow (m : DeviceModel) (path : String) : Prop := path ∈ m.rows.map Row.path

instance (m : DeviceModel) (path : String) : Decidable (m.HasRow path) :=
  inferInstanceAs (Decidable (path ∈ m.rows.map Row.path))

/-- The row that `onDeviceAdded` makes. -/
def newRow (path name : String) (pid : UInt16) (active : Bool) : Row where
  path := path
  name := name
  model := name
  deviceKind := kindFromPid pid
  batteryPercent := 0
  batteryKnown := false
  charging := false
  connectionState := if active then .online else .sleeping

/-- The first row that sorts after the new one, or the end. -/
def insertAt (toInt : String → Option Int) (rows : List Row) (path : String) : Nat :=
  rows.findIdx fun row => nicknameOf toInt path < nicknameOf toInt row.path

theorem insertIdx_perm (toInt : String → Option Int) (rows : List Row) (row : Row) :
    (rows.insertIdx (insertAt toInt rows row.path) row).Perm (row :: rows) :=
  List.perm_insertIdx row rows List.findIdx_le_length

/-- `onDeviceAdded`, with `QString::toInt` as a parameter. -/
def onDeviceAddedBy (toInt : String → Option Int) (m : DeviceModel) (path name : String)
    (pid : UInt16) (active : Bool) : DeviceModel :=
  if h : m.HasRow path then m
  else
    let row := newRow path name pid active
    { rows := m.rows.insertIdx (insertAt toInt m.rows row.path) row
      distinct := by
        have hperm := (insertIdx_perm toInt m.rows row).map Row.path
        rw [hperm.nodup_iff, List.map_cons, List.nodup_cons]
        exact ⟨h, m.distinct⟩ }

/-- `onDeviceAdded` for the paths of D-Bus. -/
def onDeviceAdded (m : DeviceModel) (path name : String) (pid : UInt16) (active : Bool) :
    DeviceModel :=
  m.onDeviceAddedBy decimal path name pid active

def onDeviceRemoved (m : DeviceModel) (path : String) : DeviceModel where
  rows := m.rows.filter fun row => row.path ≠ path
  distinct := m.distinct.sublist (List.filter_sublist.map Row.path)

/-- A change of the row of a path that keeps its path. -/
def updateRow (m : DeviceModel) (path : String) (f : Row → Row)
    (hf : ∀ row, (f row).path = row.path) : DeviceModel where
  rows := m.rows.map fun row => if row.path = path then f row else row
  distinct := by
    have hpaths : (m.rows.map fun row => if row.path = path then f row else row).map Row.path =
        m.rows.map Row.path := by
      rw [List.map_map]
      apply List.map_congr_left
      intro row _
      by_cases hrow : row.path = path
      · simp [hrow, hf]
      · simp [hrow]
    rw [hpaths]
    exact m.distinct

def onConnectionStateChanged (m : DeviceModel) (path : String) (state : ConnectionState) :
    DeviceModel :=
  m.updateRow path (fun row => { row with connectionState := state }) fun _ => rfl

def onStatusChanged (m : DeviceModel) (path : String) (active : Bool) : DeviceModel :=
  m.onConnectionStateChanged path (if active then .online else .sleeping)

def onBatteryChanged (m : DeviceModel) (path : String) (percent : Int) (charging known : Bool) :
    DeviceModel :=
  m.updateRow path (fun row =>
    { row with batteryPercent := percent, charging := charging, batteryKnown := known }) fun _ => rfl

/-- `clear`, and the model of the constructor. -/
def clear : DeviceModel := ⟨[], List.nodup_nil⟩

/-! ## The rows after each operation -/

variable {m : DeviceModel} {path : String} {row : Row}

theorem hasRow_iff : m.HasRow path ↔ ∃ row ∈ m.rows, row.path = path := List.mem_map

theorem count_eq_one (h : m.HasRow path) : (m.rows.map Row.path).count path = 1 :=
  List.count_eq_one_of_mem m.distinct h

theorem mem_onDeviceAdded {name : String} {pid : UInt16} {active : Bool} :
    row ∈ (m.onDeviceAdded path name pid active).rows ↔
      row ∈ m.rows ∨ ¬ m.HasRow path ∧ row = newRow path name pid active := by
  unfold onDeviceAdded onDeviceAddedBy
  split
  next h => simp [h]
  next h =>
    rw [(insertIdx_perm decimal m.rows (newRow path name pid active)).mem_iff, List.mem_cons]
    simp [h, or_comm]

theorem hasRow_onDeviceAdded {name : String} {pid : UInt16} {active : Bool} :
    (m.onDeviceAdded path name pid active).HasRow path := by
  rw [hasRow_iff]
  by_cases h : m.HasRow path
  · obtain ⟨row, hrow, hpath⟩ := hasRow_iff.mp h
    exact ⟨row, mem_onDeviceAdded.mpr (.inl hrow), hpath⟩
  · exact ⟨_, mem_onDeviceAdded.mpr (.inr ⟨h, rfl⟩), rfl⟩

theorem mem_onDeviceRemoved : row ∈ (m.onDeviceRemoved path).rows ↔ row ∈ m.rows ∧ row.path ≠ path := by
  simp [onDeviceRemoved]

theorem mem_updateRow {f : Row → Row} {hf : ∀ row, (f row).path = row.path} :
    row ∈ (m.updateRow path f hf).rows ↔
      row ∈ m.rows ∧ row.path ≠ path ∨ ∃ old ∈ m.rows, old.path = path ∧ f old = row := by
  simp only [updateRow, List.mem_map]
  constructor
  · intro h
    obtain ⟨old, hold, heq⟩ := h
    by_cases hpath : old.path = path
    · rw [if_pos hpath] at heq
      exact .inr ⟨old, hold, hpath, heq⟩
    · rw [if_neg hpath] at heq
      subst heq
      exact .inl ⟨hold, hpath⟩
  · intro h
    rcases h with ⟨hrow, hpath⟩ | ⟨old, hold, hpath, heq⟩
    · exact ⟨row, hrow, if_neg hpath⟩
    · exact ⟨old, hold, by rw [if_pos hpath, heq]⟩

@[simp] theorem hasRow_updateRow {f : Row → Row} {hf : ∀ row, (f row).path = row.path}
    {other : String} : (m.updateRow path f hf).HasRow other ↔ m.HasRow other := by
  rw [hasRow_iff, hasRow_iff]
  constructor
  · intro h
    obtain ⟨row, hrow, hpath⟩ := h
    rcases mem_updateRow.mp hrow with ⟨hrow, -⟩ | ⟨old, hold, -, rfl⟩
    · exact ⟨row, hrow, hpath⟩
    · exact ⟨old, hold, (hf old).symm.trans hpath⟩
  · intro h
    obtain ⟨row, hrow, hother⟩ := h
    by_cases hpath : row.path = path
    · exact ⟨f row, mem_updateRow.mpr (.inr ⟨row, hrow, hpath, rfl⟩), (hf row).trans hother⟩
    · exact ⟨row, mem_updateRow.mpr (.inl ⟨hrow, hpath⟩), hother⟩

end DeviceModel

end Logid.Gui
