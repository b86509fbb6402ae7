import Mathlib.Data.List.Induction
import Logid.Gui.RowSlots
import Logid.Misc.SortedInsert

/-!
# The rows after any run of the slots

A row goes before the first one with a greater key, so the keys never decrease along the list and the rows
of one key stay in the order in which they came.
-/

namespace Logid.Gui.DeviceModel

variable {toInt : String → Option Int} {m : DeviceModel} {paths : List String}

/-- The rows agree with the list of the paths that should have one. -/
structure Agrees (toInt : String → Option Int) (m : DeviceModel) (paths : List String) : Prop where
  nodup : paths.Nodup
  mem : ∀ path, m.HasRow path ↔ path ∈ paths
  ordered : (m.rows.map Row.path).Pairwise (Before toInt paths)

theorem agrees_clear : Agrees toInt clear [] where
  nodup := List.nodup_nil
  mem path := by simp [HasRow, clear]
  ordered := List.Pairwise.nil

/-- A path added later comes after those that are there, among the ones of its key. -/
theorem Before.append {a b path : String} (h : Before toInt paths a b) :
    Before toInt (paths ++ [path]) a b := by
  rcases h with hlt | ⟨heq, hsub⟩
  · exact .inl hlt
  · exact .inr ⟨heq, hsub.trans (List.sublist_append_left paths [path])⟩

theorem before_append_self {a path : String} (ha : a ∈ paths)
    (hle : nicknameOf toInt a ≤ nicknameOf toInt path) : Before toInt (paths ++ [path]) a path := by
  rcases Int.lt_or_eq_of_le hle with hlt | heq
  · exact .inl hlt
  · exact .inr ⟨heq, (List.singleton_sublist.mpr ha).append (List.Sublist.refl [path])⟩

theorem Before.filter {a b : String} {keep : String → Bool} (h : Before toInt paths a b)
    (ha : keep a = true) (hb : keep b = true) : Before toInt (paths.filter keep) a b := by
  rcases h with hlt | ⟨heq, hsub⟩
  · exact .inl hlt
  · have hfilter := hsub.filter keep
    rw [List.filter_cons_of_pos ha, List.filter_cons_of_pos hb, List.filter_nil] at hfilter
    exact .inr ⟨heq, hfilter⟩

theorem Before.le {a b : String} (h : Before toInt paths a b) :
    nicknameOf toInt a ≤ nicknameOf toInt b := by
  rcases h with hlt | ⟨heq, -⟩
  · exact Int.le_of_lt hlt
  · exact Int.le_of_eq heq

theorem map_insertAt (rows : List Row) (row : Row) :
    (rows.insertIdx (insertAt toInt rows row.path) row).map Row.path =
      (rows.map Row.path).insertIdx ((rows.map Row.path).findIdx fun path =>
        nicknameOf toInt row.path < nicknameOf toInt path) row.path := by
  rw [List.map_insertIdx, insertAt, List.findIdx_map]
  rfl

/-- A new path is inserted where its key belongs, after the rows with the same key. -/
theorem Agrees.insert (h : Agrees toInt m paths) (path : String) :
    ((m.rows.map Row.path).insertIdx ((m.rows.map Row.path).findIdx fun other =>
      nicknameOf toInt path < nicknameOf toInt other) path).Pairwise
        (Before toInt (paths ++ [path])) := by
  have hmem : ∀ other ∈ m.rows.map Row.path, other ∈ paths := fun other => (h.mem other).mp
  apply SortedInsert.pairwise_insertIdx (h.ordered.imp fun hbefore => hbefore.append)
  · intro a ha b hb hab hlt
    have hle := hab.le
    simp only [decide_eq_true_eq] at hlt ⊢
    omega
  · intro other hother hnot
    simp only [decide_eq_false_iff_not] at hnot
    exact before_append_self (hmem other hother) (by omega)
  · intro other _ hlt
    exact .inl (by simpa using hlt)

theorem Agrees.add (h : Agrees toInt m paths) (path name : String) (pid : UInt16) (active : Bool) :
    Agrees toInt (m.onDeviceAddedBy toInt path name pid active)
      (if path ∈ paths then paths else paths ++ [path]) := by
  unfold onDeviceAddedBy
  by_cases hrow : m.HasRow path
  · rw [dif_pos hrow, if_pos ((h.mem path).mp hrow)]
    exact h
  · have hfresh : path ∉ paths := fun hmem => hrow ((h.mem path).mpr hmem)
    rw [dif_neg hrow, if_neg hfresh]
    constructor
    · rw [← List.concat_eq_append]
      exact h.nodup.concat hfresh
    · intro other
      rw [HasRow, ((insertIdx_perm toInt m.rows _).map Row.path).mem_iff, List.map_cons,
        List.mem_cons, List.mem_append, List.mem_singleton, or_comm]
      exact or_congr_left (h.mem other)
    · rw [map_insertAt]
      exact h.insert path

theorem Agrees.remove (h : Agrees toInt m paths) (path : String) :
    Agrees toInt (m.onDeviceRemoved path) (paths.filter (· ≠ path)) := by
  have hmap : (m.onDeviceRemoved path).rows.map Row.path =
      (m.rows.map Row.path).filter (· ≠ path) := by
    rw [List.filter_map]
    rfl
  constructor
  · exact h.nodup.filter _
  · intro other
    rw [HasRow, hmap, List.mem_filter, List.mem_filter]
    exact and_congr_left' (h.mem other)
  · rw [hmap]
    refine (h.ordered.filter _).imp_of_mem ?_
    intro a b ha hb hab
    exact hab.filter (List.mem_filter.mp ha).2 (List.mem_filter.mp hb).2

/-- A change of one row keeps the paths and their order. -/
theorem map_path_updateRow (m : DeviceModel) (path : String) (f : Row → Row)
    (hf : ∀ row, (f row).path = row.path) :
    (m.updateRow path f hf).rows.map Row.path = m.rows.map Row.path := by
  rw [updateRow, List.map_map]
  apply List.map_congr_left
  intro row _
  by_cases hrow : row.path = path
  · simp [hrow, hf]
  · simp [hrow]

theorem Agrees.update (h : Agrees toInt m paths) (path : String) (f : Row → Row)
    (hf : ∀ row, (f row).path = row.path) : Agrees toInt (m.updateRow path f hf) paths where
  nodup := h.nodup
  mem other := hasRow_updateRow.trans (h.mem other)
  ordered := by
    rw [map_path_updateRow]
    exact h.ordered

theorem Agrees.call (h : Agrees toInt m paths) (slot : Slot) :
    Agrees toInt (m.call toInt slot) (nextLive paths slot) := by
  cases slot with
  | deviceAdded path name pid active => exact h.add path name pid active
  | deviceRemoved path => exact h.remove path
  | statusChanged path active
  | connectionStateChanged path state
  | batteryChanged path percent charging known =>
    simp only [DeviceModel.call, onStatusChanged, onConnectionStateChanged, onBatteryChanged,
      nextLive]
    exact h.update path _ _
  | clear => exact agrees_clear

/-- The rows after a run. -/
theorem agrees_run (toInt : String → Option Int) (slots : List Slot) :
    Agrees toInt (slots.foldl (call toInt) clear) (live slots) := by
  have hgen : ∀ (slots : List Slot) (m : DeviceModel) (paths : List String),
      Agrees toInt m paths → Agrees toInt (slots.foldl (call toInt) m) (slots.foldl nextLive paths) := by
    intro slots
    induction slots with
    | nil =>
      intro m paths h
      exact h
    | cons slot slots ih =>
      intro m paths h
      exact ih _ _ (h.call slot)
  exact hgen slots clear [] agrees_clear

/-! ## The paths that were added and not removed since -/

theorem mem_nextLive_iff {path : String} {slot : Slot} :
    path ∈ nextLive paths slot ↔
      (∃ name pid active, slot = .deviceAdded path name pid active) ∨
      path ∈ paths ∧ ¬slot.Removes path := by
  cases slot with
  | deviceAdded other name pid active =>
    have hadded : (∃ name' pid' active', Slot.deviceAdded other name pid active =
        .deviceAdded path name' pid' active') ↔ path = other := by
      simp [eq_comm]
    rw [hadded]
    change path ∈ (if other ∈ paths then paths else paths ++ [other]) ↔ _
    split
    next hother =>
      constructor
      · intro h
        exact .inr ⟨h, id⟩
      · rintro (rfl | ⟨h, -⟩)
        · exact hother
        · exact h
    next => simp [Slot.Removes, or_comm]
  | deviceRemoved other =>
    simp [nextLive, Slot.Removes, ne_comm]
  | statusChanged other active => simp [nextLive, Slot.Removes]
  | connectionStateChanged other state => simp [nextLive, Slot.Removes]
  | batteryChanged other percent charging known => simp [nextLive, Slot.Removes]
  | clear => simp [nextLive, Slot.Removes]

theorem addedSince_append_iff {path : String} {slots : List Slot} {slot : Slot} :
    AddedSince path (slots ++ [slot]) ↔
      (∃ name pid active, slot = .deviceAdded path name pid active) ∨
      AddedSince path slots ∧ ¬slot.Removes path := by
  constructor
  · rintro ⟨before, name, pid, active, after, heq, hafter⟩
    obtain rfl | ⟨after, last, rfl⟩ := List.eq_nil_or_concat after
    · obtain ⟨-, hlast⟩ := List.append_inj' heq rfl
      exact .inl ⟨name, pid, active, List.singleton_inj.mp hlast⟩
    · rw [List.concat_eq_append, ← List.cons_append, ← List.append_assoc] at heq
      obtain ⟨hslots, hlast⟩ := List.append_inj' heq rfl
      obtain rfl := List.singleton_inj.mp hlast
      rw [List.concat_eq_append] at hafter
      exact .inr ⟨⟨before, name, pid, active, after, hslots, fun x hx =>
        hafter x (List.mem_append_left _ hx)⟩, hafter slot (List.mem_append_right _ (.head _))⟩
  · rintro (⟨name, pid, active, rfl⟩ | ⟨⟨before, name, pid, active, after, rfl, hafter⟩, hslot⟩)
    · exact ⟨slots, name, pid, active, [], rfl, fun _ hx => nomatch hx⟩
    · refine ⟨before, name, pid, active, after ++ [slot], by simp, ?_⟩
      intro x hx
      rcases List.mem_append.mp hx with hx | hx
      · exact hafter x hx
      · rw [List.mem_singleton] at hx
        exact hx ▸ hslot

theorem mem_live_iff {path : String} {slots : List Slot} :
    path ∈ live slots ↔ AddedSince path slots := by
  induction slots using List.reverseRecOn with
  | nil => simp [live, AddedSince]
  | append_singleton slots slot ih =>
    rw [addedSince_append_iff, ← ih, live, List.foldl_append]
    exact mem_nextLive_iff

/-- After any run of the slots the rows have distinct paths, those that were added and not removed since,
in the order of their keys and of their addition within a key; and a signal about the status or the
battery changes those fields in the row of its path. -/
theorem rows_of_slots (toInt : String → Option Int) (slots : List Slot) :
    let m := slots.foldl (call toInt) clear
    (m.rows.map Row.path).Nodup ∧
    (∀ path, m.HasRow path ↔ AddedSince path slots) ∧
    (m.rows.map Row.path).Pairwise (Before toInt (live slots)) ∧
    (∀ path active, (m.call toInt (.statusChanged path active)).rows = m.rows.map fun row =>
      if row.path = path then
        { row with connectionState := if active then .online else .sleeping }
      else row) ∧
    ∀ path percent charging known,
      (m.call toInt (.batteryChanged path percent charging known)).rows = m.rows.map fun row =>
        if row.path = path then
          { row with batteryPercent := percent, charging := charging, batteryKnown := known }
        else row := by
  intro m
  have hagrees := agrees_run toInt slots
  refine ⟨m.distinct, ?_, hagrees.ordered, ?_, ?_⟩
  · intro path
    rw [← mem_live_iff]
    exact hagrees.mem path
  · intro path active
    rfl
  · intro path percent charging known
    rfl

end Logid.Gui.DeviceModel
