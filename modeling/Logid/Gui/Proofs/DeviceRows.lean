import Logid.Gui.DaemonConnection

/-!
# The rows after all replies

A row is made only by the reply to a `GetAll` whose path has a proxy, and it goes with the proxy. So
once every reply is there each proxy has its row and nothing else has one. Whose reply it is that
makes the row is not looked at: a reply to the call of an earlier proxy of the path gives the row of
the present one its name, and a failure shows it as offline.
-/

namespace Logid.Gui.DaemonConnection

open Session DeviceModel

/-- The same device in the same state; the battery may have changed. -/
structure KeepsRow (old new : Row) : Prop where
  path : new.path = old.path
  name : new.name = old.name
  deviceKind : new.deviceKind = old.deviceKind
  connectionState : new.connectionState = old.connectionState

theorem KeepsRow.refl (row : Row) : KeepsRow row row := ⟨rfl, rfl, rfl, rfl⟩

theorem KeepsRow.shows {old new : Row} (h : KeepsRow old new) {props : Properties}
    (hshows : Shows old props) : Shows new props := by
  obtain ⟨hname, hkind, hstate⟩ := hshows
  exact ⟨h.name.trans hname, h.deviceKind.trans hkind, fun heq => hstate (h.connectionState ▸ heq)⟩

theorem mem_onBatteryChanged {m : DeviceModel} {path : String} {percent : Int} {charging known : Bool}
    {row : Row} (h : row ∈ (m.onBatteryChanged path percent charging known).rows) :
    ∃ old ∈ m.rows, KeepsRow old row := by
  rcases mem_updateRow.mp h with ⟨hrow, -⟩ | ⟨old, hold, -, rfl⟩
  · exact ⟨row, hrow, KeepsRow.refl row⟩
  · exact ⟨old, hold, ⟨rfl, rfl, rfl, rfl⟩⟩

theorem mem_readBattery {m : DeviceModel} {path : String} {props : Properties} {row : Row}
    (h : row ∈ (readBattery m path props).rows) : ∃ old ∈ m.rows, KeepsRow old row := by
  unfold readBattery at h
  split at h
  · exact mem_onBatteryChanged h
  · exact mem_onBatteryChanged h

theorem hasRow_readBattery {m : DeviceModel} {path other : String} {props : Properties} :
    (readBattery m path props).HasRow other ↔ m.HasRow other := by
  unfold readBattery
  split
  · exact hasRow_updateRow
  · exact hasRow_updateRow

theorem hasRow_onDeviceAdded_iff {m : DeviceModel} {path name other : String} {pid : UInt16}
    {active : Bool} :
    (m.onDeviceAdded path name pid active).HasRow other ↔ m.HasRow other ∨ other = path := by
  constructor
  · intro h
    obtain ⟨row, hrow, hpath⟩ := hasRow_iff.mp h
    rcases mem_onDeviceAdded.mp hrow with hold | ⟨-, rfl⟩
    · exact .inl (hasRow_iff.mpr ⟨row, hold, hpath⟩)
    · exact .inr hpath.symm
  · intro h
    rcases h with h | rfl
    · obtain ⟨row, hrow, hpath⟩ := hasRow_iff.mp h
      exact hasRow_iff.mpr ⟨row, mem_onDeviceAdded.mpr (.inl hrow), hpath⟩
    · exact hasRow_onDeviceAdded

/-! ## What the reply to a `GetAll` does to the rows -/

theorem hasRow_readProperties {m : DeviceModel} {path other : String} {reply : GetAllReply} :
    (readProperties m path reply).HasRow other ↔ m.HasRow other ∨ other = path := by
  cases reply with
  | properties props => exact hasRow_readBattery.trans hasRow_onDeviceAdded_iff
  | error =>
    simp only [readProperties, onBatteryChanged, onConnectionStateChanged, hasRow_updateRow]
    exact hasRow_onDeviceAdded_iff

theorem mem_readProperties_success {m : DeviceModel} {path : String} {props : Properties} {row : Row}
    (h : row ∈ (readProperties m path (.properties props)).rows) :
    ∃ old, KeepsRow old row ∧ (old ∈ m.rows ∨ ¬ m.HasRow path ∧ old = newRow path
      (props.name.getD "") (props.productId.getD 0) (props.active.getD true)) := by
  obtain ⟨old, hold, hkeeps⟩ := mem_readBattery h
  exact ⟨old, hkeeps, mem_onDeviceAdded.mp hold⟩

/-- The rows of the other paths stay. -/
theorem mem_readProperties_of_ne {m : DeviceModel} {path : String} {reply : GetAllReply} {row : Row}
    (h : row ∈ (readProperties m path reply).rows) (hpath : row.path ≠ path) :
    ∃ old ∈ m.rows, KeepsRow old row := by
  cases reply with
  | properties props =>
    obtain ⟨old, hkeeps, hold | ⟨-, rfl⟩⟩ := mem_readProperties_success h
    · exact ⟨old, hold, hkeeps⟩
    · exact absurd hkeeps.path hpath
  | error =>
    obtain ⟨old, hold, hkeeps⟩ := mem_onBatteryChanged h
    have hne : old.path ≠ path := hkeeps.path ▸ hpath
    rcases mem_updateRow.mp hold with ⟨hold, -⟩ | ⟨first, -, hfirst, rfl⟩
    · rcases mem_onDeviceAdded.mp hold with hold | ⟨-, rfl⟩
      · exact ⟨old, hold, hkeeps⟩
      · exact absurd rfl hne
    · exact absurd hfirst hne

/-- A path that has its row keeps it when the reply is a success. -/
theorem mem_readProperties_of_hasRow {m : DeviceModel} {path : String} {reply : GetAllReply}
    {row : Row} (h : row ∈ (readProperties m path reply).rows) (hreply : reply ≠ .error)
    (hrow : m.HasRow path) : ∃ old ∈ m.rows, KeepsRow old row := by
  cases reply with
  | error => exact absurd rfl hreply
  | properties props =>
    obtain ⟨old, hkeeps, hold | ⟨hnone, -⟩⟩ := mem_readProperties_success h
    · exact ⟨old, hold, hkeeps⟩
    · exact absurd hrow hnone

/-- A path without a row gets one that shows the answer. -/
theorem shows_readProperties {m : DeviceModel} {path : String} {props : Properties} {row : Row}
    (h : row ∈ (readProperties m path (.properties props)).rows) (hnone : ¬ m.HasRow path)
    (hpath : row.path = path) : Shows row props := by
  obtain ⟨old, hkeeps, hold | ⟨-, rfl⟩⟩ := mem_readProperties_success h
  · exact absurd (hasRow_iff.mpr ⟨old, hold, hkeeps.path.symm.trans hpath⟩) hnone
  · refine hkeeps.shows ⟨rfl, rfl, ?_⟩
    cases hactive : props.active.getD true <;> simp [newRow]

/-! ## Rows and proxies -/

/-- The rows, the proxies and the pending calls of `GetAll` are as they were. -/
structure SameRows (s t : Session) : Prop where
  deviceProxies : t.deviceProxies = s.deviceProxies
  model : t.model = s.model
  getAlls : t.getAlls = s.getAlls
  nextProxy : t.nextProxy = s.nextProxy

theorem sameRows_recomputePopulation (s : Session) : SameRows s s.recomputePopulation := by
  unfold recomputePopulation
  split <;> exact ⟨rfl, rfl, rfl, rfl⟩

/-- Every row is of a path that has a proxy, and every proxy has a row or its call is pending. -/
structure RowsFollow (s : Session) : Prop where
  held : ∀ row ∈ s.model.rows, s.deviceProxies.Has row.path
  shown : ∀ path proxy, s.deviceProxies.find? path = some proxy →
    (path, proxy.number) ∈ s.getAlls ∨ s.model.HasRow path

/-- In addition a proxy whose call is pending has no row, and what a call has answered is shown. -/
structure RowsAnswered (s : Session) : Prop extends RowsFollow s where
  nodup : s.getAlls.Nodup
  numbered : ∀ call ∈ s.getAlls, call.2 < s.nextProxy
  pending : ∀ path proxy, s.deviceProxies.find? path = some proxy →
    (path, proxy.number) ∈ s.getAlls → ¬ s.model.HasRow path ∧ proxy.answer = none
  answered : ∀ path proxy props, s.deviceProxies.find? path = some proxy →
    proxy.answer = some props → ∀ row ∈ s.model.rows, row.path = path → Shows row props

theorem RowsFollow.same {s t : Session} (h : RowsFollow s) (hsame : SameRows s t) : RowsFollow t := by
  obtain ⟨hproxies, hmodel, hgetAlls, -⟩ := hsame
  constructor
  · rw [hproxies, hmodel]
    exact h.held
  · rw [hproxies, hmodel, hgetAlls]
    exact h.shown

theorem RowsAnswered.same {s t : Session} (h : RowsAnswered s) (hsame : SameRows s t) :
    RowsAnswered t := by
  refine ⟨h.toRowsFollow.same hsame, ?_, ?_, ?_, ?_⟩ <;>
    obtain ⟨hproxies, hmodel, hgetAlls, hnext⟩ := hsame
  · rw [hgetAlls]
    exact h.nodup
  · rw [hgetAlls, hnext]
    exact h.numbered
  · rw [hproxies, hmodel, hgetAlls]
    exact h.pending
  · rw [hproxies, hmodel]
    exact h.answered

theorem find?_empty {path : String} {proxy : Proxy} :
    (AssocMap.empty : AssocMap String Proxy).find? path ≠ some proxy := nofun

theorem rowsFollow_teardown (s : Session) : RowsFollow s.teardownProxies where
  held := by
    intro row hrow
    cases hrow
  shown := by
    intro path proxy hfind
    exact absurd hfind find?_empty

theorem rowsAnswered_teardown {s : Session} (hnodup : s.getAlls.Nodup)
    (hnumbered : ∀ call ∈ s.getAlls, call.2 < s.nextProxy) : RowsAnswered s.teardownProxies where
  toRowsFollow := rowsFollow_teardown s
  nodup := hnodup
  numbered := hnumbered
  pending := by
    intro path proxy hfind
    exact absurd hfind find?_empty
  answered := by
    intro path proxy props hfind
    exact absurd hfind find?_empty

theorem RowsFollow.addDevice {s : Session} (h : RowsFollow s) (path : String) :
    RowsFollow (s.addDevice path) := by
  unfold Session.addDevice
  split
  · exact h
  next hguard =>
    constructor
    · intro row hrow
      exact AssocMap.has_emplace.mpr (.inl (h.held row hrow))
    · intro other proxy hfind
      rcases AssocMap.find?_of_emplace hfind with hold | ⟨rfl, rfl⟩
      · exact (h.shown other proxy hold).imp_left (List.mem_append_left _)
      · exact .inl (List.mem_append_right _ List.mem_cons_self)

theorem RowsAnswered.addDevice {s : Session} (h : RowsAnswered s) (path : String) :
    RowsAnswered (s.addDevice path) := by
  refine ⟨h.toRowsFollow.addDevice path, ?_, ?_, ?_, ?_⟩ <;> unfold Session.addDevice <;> split
  · exact h.nodup
  · refine List.nodup_append.mpr ⟨h.nodup, List.nodup_singleton _, ?_⟩
    intro call hcall new hnew heq
    rw [List.mem_singleton] at hnew
    have hlt : call.2 < s.nextProxy := h.numbered call hcall
    rw [heq, hnew] at hlt
    exact absurd hlt (Nat.lt_irrefl _)
  · exact h.numbered
  · intro call hcall
    rcases List.mem_append.mp hcall with hcall | hcall
    · exact Nat.lt_succ_of_lt (h.numbered call hcall)
    · rw [List.mem_singleton.mp hcall]
      exact Nat.lt_succ_self s.nextProxy
  · exact h.pending
  next hguard =>
    push Not at hguard
    intro other proxy hfind hcall
    rcases AssocMap.find?_of_emplace hfind with hold | ⟨rfl, rfl⟩
    · rcases List.mem_append.mp hcall with hcall | hcall
      · exact h.pending other proxy hold hcall
      · -- the new call is of a path that had no proxy
        have hother : other = path := congrArg Prod.fst (List.mem_singleton.mp hcall)
        exact absurd (AssocMap.has_of_find? (hother ▸ hold)) hguard.2
    · refine ⟨?_, rfl⟩
      intro hrow
      obtain ⟨row, hmem, hpath⟩ := hasRow_iff.mp hrow
      exact hguard.2 (hpath ▸ h.held row hmem)
  · exact h.answered
  next hguard =>
    intro other proxy props hfind hanswer
    rcases AssocMap.find?_of_emplace hfind with hold | ⟨rfl, rfl⟩
    · exact h.answered other proxy props hold hanswer
    · cases hanswer

theorem RowsFollow.foldl_addDevice (paths : List String) :
    ∀ {s : Session}, RowsFollow s → RowsFollow (paths.foldl Session.addDevice s) := by
  induction paths with
  | nil => exact fun h => h
  | cons path paths ih => exact fun h => ih (h.addDevice path)

theorem RowsAnswered.foldl_addDevice (paths : List String) :
    ∀ {s : Session}, RowsAnswered s → RowsAnswered (paths.foldl Session.addDevice s) := by
  induction paths with
  | nil => exact fun h => h
  | cons path paths ih => exact fun h => ih (h.addDevice path)

/-- The state of `removeDevice` before the recomputation. -/
def dropDevice (s : Session) (path : String) : Session :=
  { s with deviceProxies := s.deviceProxies.erase path, model := s.model.onDeviceRemoved path }

theorem RowsFollow.dropDevice {s : Session} (h : RowsFollow s) (path : String) :
    RowsFollow (dropDevice s path) := by
  constructor
  · intro row hrow
    obtain ⟨hrow, hne⟩ := mem_onDeviceRemoved.mp hrow
    exact AssocMap.has_erase.mpr ⟨h.held row hrow, hne⟩
  · intro other proxy hfind
    have hne : other ≠ path := (AssocMap.has_erase.mp (AssocMap.has_of_find? hfind)).2
    rcases h.shown other proxy (AssocMap.find?_of_erase hfind) with hcall | hrow
    · exact .inl hcall
    · obtain ⟨row, hmem, hpath⟩ := hasRow_iff.mp hrow
      exact .inr (hasRow_iff.mpr ⟨row, mem_onDeviceRemoved.mpr ⟨hmem, hpath ▸ hne⟩, hpath⟩)

theorem RowsAnswered.dropDevice {s : Session} (h : RowsAnswered s) (path : String) :
    RowsAnswered (dropDevice s path) := by
  refine ⟨h.toRowsFollow.dropDevice path, h.nodup, h.numbered, ?_, ?_⟩
  · intro other proxy hfind hcall
    obtain ⟨hnone, hanswer⟩ := h.pending other proxy (AssocMap.find?_of_erase hfind) hcall
    refine ⟨fun hrow => hnone ?_, hanswer⟩
    obtain ⟨row, hmem, hpath⟩ := hasRow_iff.mp hrow
    exact hasRow_iff.mpr ⟨row, (mem_onDeviceRemoved.mp hmem).1, hpath⟩
  · intro other proxy props hfind hanswer row hrow
    exact h.answered other proxy props (AssocMap.find?_of_erase hfind) hanswer row
      (mem_onDeviceRemoved.mp hrow).1

/-- The replies to `Enumerate` only add devices. -/
theorem sameRows_onEnumerated (s : Session) (reply : EnumerateReply) :
    ∃ paths : List String, SameRows (paths.foldl Session.addDevice s) (s.onEnumerated reply) := by
  cases reply with
  | paths paths =>
    cases paths with
    | nil => exact ⟨[], rfl, rfl, rfl, rfl⟩
    | cons path paths => exact ⟨path :: paths, sameRows_recomputePopulation _⟩
  | error name =>
    refine ⟨[], ?_⟩
    rw [onEnumerated]
    split
    · exact ⟨rfl, rfl, rfl, rfl⟩
    · exact ⟨rfl, rfl, rfl, rfl⟩

/-- A change of rows that keeps every path, and of no row otherwise than `Shows` allows. -/
theorem RowsFollow.ofModel {s t : Session} (h : RowsFollow s) (hproxies : t.deviceProxies = s.deviceProxies)
    (hgetAlls : t.getAlls = s.getAlls) (hrows : ∀ path, t.model.HasRow path ↔ s.model.HasRow path) :
    RowsFollow t := by
  constructor
  · intro row hrow
    obtain ⟨old, hold, hpath⟩ := hasRow_iff.mp ((hrows row.path).mp (hasRow_iff.mpr ⟨row, hrow, rfl⟩))
    rw [hproxies, ← hpath]
    exact h.held old hold
  · intro path proxy hfind
    rw [hproxies] at hfind
    rw [hgetAlls, hrows]
    exact h.shown path proxy hfind

theorem RowsAnswered.ofModel {s t : Session} (h : RowsAnswered s)
    (hproxies : t.deviceProxies = s.deviceProxies) (hgetAlls : t.getAlls = s.getAlls)
    (hnext : t.nextProxy = s.nextProxy)
    (hrows : ∀ path, t.model.HasRow path ↔ s.model.HasRow path)
    (hshows : ∀ row ∈ t.model.rows, ∃ old ∈ s.model.rows, old.path = row.path ∧
      ∀ props, Shows old props → Shows row props) : RowsAnswered t := by
  refine ⟨h.toRowsFollow.ofModel hproxies hgetAlls hrows, ?_, ?_, ?_, ?_⟩
  · rw [hgetAlls]
    exact h.nodup
  · rw [hgetAlls, hnext]
    exact h.numbered
  · intro path proxy hfind hcall
    rw [hproxies] at hfind
    rw [hgetAlls] at hcall
    rw [hrows]
    exact h.pending path proxy hfind hcall
  · intro path proxy props hfind hanswer row hrow hpath
    rw [hproxies] at hfind
    obtain ⟨old, hold, hsame, himp⟩ := hshows row hrow
    exact himp props (h.answered path proxy props hfind hanswer old hold (hsame.trans hpath))

/-! ## The reply to a `GetAll` -/

/-- The rows and the proxies after the reply, by the path: it has a proxy or not. -/
theorem onProperties_rows (s : Session) (path : String) (number : Nat) (reply : GetAllReply) :
    SameRows (if s.deviceProxies.Has path then
        { s.takeGetAll path number with model := readProperties s.model path reply }
      else s.takeGetAll path number)
      ((s.takeGetAll path number).onProperties path reply) := by
  unfold onProperties
  by_cases hhas : s.deviceProxies.Has path
  · rw [if_pos hhas, if_pos (show (s.takeGetAll path number).deviceProxies.Has path from hhas)]
    exact sameRows_recomputePopulation _
  · rw [if_neg hhas, if_neg (show ¬ (s.takeGetAll path number).deviceProxies.Has path from hhas)]
    cases reply with
    | properties props => exact ⟨rfl, rfl, rfl, rfl⟩
    | error => exact sameRows_recomputePopulation _

theorem RowsFollow.replied_absent {s : Session} (h : RowsFollow s) {path : String} (number : Nat)
    (hhas : ¬ s.deviceProxies.Has path) : RowsFollow (s.takeGetAll path number) := by
  refine ⟨h.held, ?_⟩
  intro other proxy hfind
  have hne : (other, proxy.number) ≠ (path, number) := by
    intro heq
    cases heq
    exact hhas (AssocMap.has_of_find? hfind)
  rcases h.shown other proxy hfind with hcall | hrow
  · exact .inl ((List.mem_erase_of_ne hne).mpr hcall)
  · exact .inr hrow

theorem RowsFollow.replied_present {s : Session} (h : RowsFollow s) {path : String} (number : Nat)
    (hhas : s.deviceProxies.Has path) (reply : GetAllReply) :
    RowsFollow { s.takeGetAll path number with model := readProperties s.model path reply } := by
  constructor
  · intro row hrow
    rcases hasRow_readProperties.mp (hasRow_iff.mpr ⟨row, hrow, rfl⟩) with hold | hpath
    · obtain ⟨old, hmem, hsame⟩ := hasRow_iff.mp hold
      exact hsame ▸ h.held old hmem
    · exact hpath ▸ hhas
  · intro other proxy hfind
    by_cases hother : other = path
    · exact .inr (hasRow_readProperties.mpr (.inr hother))
    · have hne : (other, proxy.number) ≠ (path, number) := fun heq => hother (congrArg Prod.fst heq)
      rcases h.shown other proxy hfind with hcall | hrow
      · exact .inl ((List.mem_erase_of_ne hne).mpr hcall)
      · exact .inr (hasRow_readProperties.mpr (.inl hrow))

theorem SameRows.noteAnswer {s t : Session} (h : SameRows s t) (path : String) (number : Nat)
    (reply : GetAllReply) :
    SameRows (s.noteAnswer path number reply) (t.noteAnswer path number reply) := by
  cases reply with
  | error => exact h
  | properties props =>
    obtain ⟨hproxies, hmodel, hgetAlls, hnext⟩ := h
    simp only [Session.noteAnswer, hproxies]
    split
    · split
      · exact ⟨rfl, hmodel, hgetAlls, hnext⟩
      · exact ⟨hproxies, hmodel, hgetAlls, hnext⟩
    · exact ⟨hproxies, hmodel, hgetAlls, hnext⟩

/-- The answer is noted for the proxy whose call it is, and changes nothing else. -/
theorem noteAnswer_cases (s : Session) (path : String) (number : Nat) (reply : GetAllReply) :
    s.noteAnswer path number reply = s ∧
        (∀ proxy, s.deviceProxies.find? path = some proxy → proxy.number = number →
          reply = .error) ∨
      ∃ props answer, reply = .properties props ∧
        s.deviceProxies.find? path = some ⟨number, answer⟩ ∧
        s.noteAnswer path number reply =
          { s with deviceProxies := s.deviceProxies.set path ⟨number, some props⟩ } := by
  cases reply with
  | error => exact .inl ⟨rfl, fun _ _ _ => rfl⟩
  | properties props =>
    unfold Session.noteAnswer
    cases hfind : s.deviceProxies.find? path with
    | none => exact .inl ⟨rfl, by simp⟩
    | some proxy =>
      obtain ⟨held, answer⟩ := proxy
      by_cases hnumber : held = number
      · subst hnumber
        exact .inr ⟨props, answer, rfl, rfl, if_pos rfl⟩
      · refine .inl ⟨if_neg hnumber, ?_⟩
        intro proxy hproxy heq
        cases hproxy
        exact absurd heq hnumber

theorem RowsFollow.noteAnswer {s : Session} (h : RowsFollow s) (path : String) (number : Nat)
    (reply : GetAllReply) : RowsFollow (s.noteAnswer path number reply) := by
  rcases noteAnswer_cases s path number reply with ⟨heq, -⟩ | ⟨props, answer, -, hfind, heq⟩
  · rw [heq]
    exact h
  · rw [heq]
    constructor
    · intro row hrow
      exact AssocMap.has_set.mpr (h.held row hrow)
    · intro other proxy hother
      rcases AssocMap.find?_of_set hother with ⟨-, hold⟩ | ⟨rfl, rfl⟩
      · exact h.shown other proxy hold
      · exact h.shown other ⟨number, answer⟩ hfind

/-- A reply keeps the invariant when the path itself is right afterwards. -/
theorem RowsAnswered.replied {s t : Session} {path : String} {number : Nat} (reply : GetAllReply)
    (h : RowsAnswered s) (hfollow : RowsFollow t)
    (hgetAlls : t.getAlls = s.getAlls.erase (path, number)) (hnext : t.nextProxy = s.nextProxy)
    (hmodel : t.model = readProperties s.model path reply)
    (hother : ∀ other proxy, other ≠ path → t.deviceProxies.find? other = some proxy →
      s.deviceProxies.find? other = some proxy)
    (hpath : ∀ proxy, t.deviceProxies.find? path = some proxy →
      (path, proxy.number) ∉ t.getAlls ∧ ∀ props, proxy.answer = some props →
        ∀ row ∈ t.model.rows, row.path = path → Shows row props) : RowsAnswered t := by
  refine ⟨hfollow, ?_, ?_, ?_, ?_⟩
  · rw [hgetAlls]
    exact h.nodup.erase _
  · rw [hgetAlls, hnext]
    exact fun call hcall => h.numbered call (List.mem_of_mem_erase hcall)
  · intro other proxy hfind hcall
    by_cases hne : other = path
    · subst hne
      exact absurd hcall (hpath proxy hfind).1
    · rw [hgetAlls] at hcall
      obtain ⟨hnone, hanswer⟩ := h.pending other proxy (hother other proxy hne hfind)
        (List.mem_of_mem_erase hcall)
      refine ⟨?_, hanswer⟩
      rw [hmodel, hasRow_readProperties]
      exact not_or.mpr ⟨hnone, hne⟩
  · intro other proxy props hfind hanswer row hrow hrowPath
    by_cases hne : other = path
    · subst hne
      exact (hpath proxy hfind).2 props hanswer row hrow hrowPath
    · rw [hmodel] at hrow
      obtain ⟨old, hold, hkeeps⟩ := mem_readProperties_of_ne hrow (hrowPath ▸ hne)
      exact hkeeps.shows (h.answered other proxy props (hother other proxy hne hfind) hanswer old hold
        (hkeeps.path.symm.trans hrowPath))

theorem RowsAnswered.replied_absent {s : Session} (h : RowsAnswered s) {path : String} (number : Nat)
    (hhas : ¬ s.deviceProxies.Has path) : RowsAnswered (s.takeGetAll path number) :=
  ⟨h.toRowsFollow.replied_absent number hhas, h.nodup.erase _,
    fun call hcall => h.numbered call (List.mem_of_mem_erase hcall),
    fun other proxy hfind hcall => h.pending other proxy hfind (List.mem_of_mem_erase hcall),
    h.answered⟩

/-- The reply to a `GetAll`, of the present proxy or harmless. -/
theorem RowsAnswered.properties {s : Session} (h : RowsAnswered s) {path : String} {number : Nat}
    {reply : GetAllReply} (hcall : (path, number) ∈ s.getAlls)
    (hcond : OfPresentProxy s (.properties path number reply)) :
    RowsAnswered (((s.takeGetAll path number).onProperties path reply).noteAnswer path
      number reply) := by
  refine RowsAnswered.same ?_ ((onProperties_rows s path number reply).noteAnswer path number reply)
  by_cases hhas : s.deviceProxies.Has path
  · rw [if_pos hhas]
    have hfollow := (h.toRowsFollow.replied_present number hhas reply).noteAnswer path number reply
    rcases noteAnswer_cases { s.takeGetAll path number with
        model := readProperties s.model path reply } path number reply with
      ⟨heq, hown⟩ | ⟨props, answer, rfl, hfind, heq⟩
    · rw [heq] at hfollow ⊢
      refine RowsAnswered.replied reply h hfollow rfl rfl rfl (fun _ _ _ hfind => hfind) ?_
      intro proxy hfind
      by_cases hnumber : proxy.number = number
      · -- its own call has failed
        subst hnumber
        obtain ⟨-, hanswer⟩ := h.pending path proxy hfind hcall
        refine ⟨fun hstill => (h.nodup.mem_erase_iff.mp hstill).1 rfl, ?_⟩
        intro props hsome
        rw [hanswer] at hsome
        cases hsome
      · -- the call of an earlier proxy: the row is there
        obtain ⟨hreply, hrow⟩ := (hcond proxy hfind).resolve_left hnumber
        refine ⟨fun hstill => (h.pending path proxy hfind (List.mem_of_mem_erase hstill)).1 hrow, ?_⟩
        intro props hanswer row hmem hpath
        obtain ⟨old, hold, hkeeps⟩ := mem_readProperties_of_hasRow hmem hreply hrow
        exact hkeeps.shows (h.answered path proxy props hfind hanswer old hold
          (hkeeps.path.symm.trans hpath))
    · -- its own call has succeeded
      rw [heq] at hfollow ⊢
      refine RowsAnswered.replied (.properties props) h hfollow rfl rfl rfl ?_ ?_
      · intro other proxy hne hother
        rcases AssocMap.find?_of_set hother with ⟨-, hold⟩ | ⟨hsame, -⟩
        · exact hold
        · exact absurd hsame hne
      · intro proxy hproxy
        have hset : proxy = ⟨number, some props⟩ := by
          rcases AssocMap.find?_of_set hproxy with ⟨hne, -⟩ | ⟨-, hset⟩
          · exact absurd rfl hne
          · exact hset
        subst hset
        refine ⟨fun hstill => (h.nodup.mem_erase_iff.mp hstill).1 rfl, ?_⟩
        intro props' hanswer row hmem hpath
        cases hanswer
        exact shows_readProperties hmem (h.pending path ⟨number, answer⟩ hfind hcall).1 hpath
  · rw [if_neg hhas]
    rcases noteAnswer_cases (s.takeGetAll path number) path number reply with
      ⟨heq, -⟩ | ⟨props, answer, -, hfind, -⟩
    · rw [heq]
      exact h.replied_absent number hhas
    · exact absurd (AssocMap.has_of_find? hfind) hhas

theorem RowsFollow.properties {s : Session} (h : RowsFollow s) (path : String) (number : Nat)
    (reply : GetAllReply) :
    RowsFollow (((s.takeGetAll path number).onProperties path reply).noteAnswer path
      number reply) := by
  refine RowsFollow.noteAnswer (RowsFollow.same ?_ (onProperties_rows s path number reply)) path
    number reply
  split
  next hhas => exact h.replied_present number hhas reply
  next hhas => exact h.replied_absent number hhas

/-! ## Steps and runs -/

theorem hasRow_onBatteryChanged {m : DeviceModel} {path other : String} {percent : Int}
    {charging known : Bool} :
    (m.onBatteryChanged path percent charging known).HasRow other ↔ m.HasRow other :=
  hasRow_updateRow

theorem hasRow_onStatusChanged {m : DeviceModel} {path other : String} {active : Bool} :
    (m.onStatusChanged path active).HasRow other ↔ m.HasRow other := by
  simp [onStatusChanged, onConnectionStateChanged]

/-- A change of the status shows no row as offline. -/
theorem mem_onStatusChanged {m : DeviceModel} {path : String} {active : Bool} {row : Row}
    (h : row ∈ (m.onStatusChanged path active).rows) :
    ∃ old ∈ m.rows, old.path = row.path ∧ ∀ props, Shows old props → Shows row props := by
  unfold onStatusChanged onConnectionStateChanged at h
  rcases mem_updateRow.mp h with ⟨hrow, -⟩ | ⟨old, hold, -, rfl⟩
  · exact ⟨row, hrow, rfl, fun _ hshows => hshows⟩
  · refine ⟨old, hold, rfl, fun props hshows => ⟨hshows.1, hshows.2.1, ?_⟩⟩
    cases active <;> simp

/-- What a step does to the rows, the proxies and the calls of `GetAll`. -/
inductive RowStep (s : Session) (a : Label) (t : Session) : Prop
  | added (asked : Session) (paths : List String) (hasked : SameRows s asked)
      (h : SameRows (paths.foldl Session.addDevice asked) t)
  | tornDown (h : SameRows s.teardownProxies t)
  | dropped (path : String) (h : SameRows (dropDevice s path) t)
  | replied (path : String) (number : Nat) (reply : GetAllReply)
      (ha : a = .properties path number reply) (hcall : (path, number) ∈ s.getAlls)
      (h : t = ((s.takeGetAll path number).onProperties path reply).noteAnswer path number reply)
  | changed (model : DeviceModel) (h : t = { s with model := model })
      (hrows : ∀ path, model.HasRow path ↔ s.model.HasRow path)
      (hshows : ∀ row ∈ model.rows, ∃ old ∈ s.model.rows, old.path = row.path ∧
        ∀ props, Shows old props → Shows row props)

theorem rowStep {s t : Session} {a : Label} (hstep : step s a = some t) : RowStep s a t := by
  cases a with
  | enumerated number reply =>
    simp only [step] at hstep
    split at hstep
    · cases hstep
      obtain ⟨paths, hsame⟩ := sameRows_onEnumerated (s.takeEnumerate number reply) reply
      exact .added (s.takeEnumerate number reply) paths ⟨rfl, rfl, rfl, rfl⟩ hsame
    · cases hstep
  | daemonUp =>
    cases hstep
    exact .tornDown ⟨rfl, rfl, rfl, rfl⟩
  | daemonDown =>
    cases hstep
    exact .tornDown ⟨rfl, rfl, rfl, rfl⟩
  | retry =>
    cases hstep
    exact .tornDown ⟨rfl, rfl, rfl, rfl⟩
  | deviceAdded path =>
    cases hstep
    exact .added s [path] ⟨rfl, rfl, rfl, rfl⟩ ⟨rfl, rfl, rfl, rfl⟩
  | deviceRemoved path =>
    cases hstep
    exact .dropped path (sameRows_recomputePopulation _)
  | properties path number reply =>
    simp only [step] at hstep
    split at hstep
    next hcall =>
      cases hstep
      exact .replied path number reply rfl hcall rfl
    next => cases hstep
  | statusChanged path active =>
    cases hstep
    exact .changed _ rfl (fun _ => hasRow_onStatusChanged) fun _ => mem_onStatusChanged
  | batteryChanged path percent charging known =>
    cases hstep
    refine .changed _ rfl (fun _ => hasRow_onBatteryChanged) ?_
    intro row hrow
    obtain ⟨old, hold, hkeeps⟩ := mem_onBatteryChanged hrow
    exact ⟨old, hold, hkeeps.path.symm, fun _ => hkeeps.shows⟩

theorem rowsFollow_step {s t : Session} {a : Label} (h : RowsFollow s) (hstep : step s a = some t) :
    RowsFollow t := by
  cases rowStep hstep with
  | added asked paths hasked hsame =>
    exact (RowsFollow.foldl_addDevice paths (h.same hasked)).same hsame
  | tornDown hsame => exact (rowsFollow_teardown s).same hsame
  | dropped path hsame => exact (h.dropDevice path).same hsame
  | replied path number reply ha hcall ht =>
    rw [ht]
    exact h.properties path number reply
  | changed model ht hrows hshows =>
    subst ht
    exact h.ofModel rfl rfl hrows

theorem rowsAnswered_step {s t : Session} {a : Label} (h : RowsAnswered s) (hcond : OfPresentProxy s a)
    (hstep : step s a = some t) : RowsAnswered t := by
  cases rowStep hstep with
  | added asked paths hasked hsame =>
    exact (RowsAnswered.foldl_addDevice paths (h.same hasked)).same hsame
  | tornDown hsame => exact (rowsAnswered_teardown h.nodup h.numbered).same hsame
  | dropped path hsame => exact (h.dropDevice path).same hsame
  | replied path number reply ha hcall ht =>
    subst ha
    rw [ht]
    exact h.properties hcall hcond
  | changed model ht hrows hshows =>
    subst ht
    exact h.ofModel rfl rfl rfl hrows hshows

theorem rowsAnswered_constructed : RowsAnswered constructed :=
  (rowsAnswered_teardown (s := constructed) List.nodup_nil nofun).same ⟨rfl, rfl, rfl, rfl⟩

theorem RowsFollow.rowsMatch {s : Session} (h : RowsFollow s) : s.RowsMatch := by
  intro hquiet
  refine ⟨h.held, ?_⟩
  intro path hhas
  obtain ⟨proxy, hfind⟩ := AssocMap.has_iff.mp hhas
  rcases h.shown path proxy hfind with hcall | hrow
  · rw [hquiet] at hcall
    cases hcall
  · exact count_eq_one hrow

theorem RowsAnswered.rowsShow {s : Session} (h : RowsAnswered s) : s.RowsShow := by
  intro hquiet path number props hfind
  rcases h.shown path ⟨number, some props⟩ hfind with hcall | hrow
  · rw [hquiet] at hcall
    cases hcall
  · obtain ⟨row, hmem, hpath⟩ := hasRow_iff.mp hrow
    exact ⟨row, hmem, hpath, h.answered path ⟨number, some props⟩ props hfind rfl row hmem hpath⟩

/-- After all replies each proxy has one row and nothing else has one, in every run. The row shows
what the proxy's own call has answered where no reply to the call of an earlier proxy of a path comes
before the path's row is there, and none that is a failure while the path has a proxy. -/
theorem rows_converge (as : List Label) :
    machine.Always RowsMatch constructed as ∧
      (machine.Meets OfPresentProxy constructed as → machine.Always RowsShow constructed as) := by
  constructor
  · exact Machine.always_of_invariant (fun _ => RowsFollow.rowsMatch)
      (fun _ _ _ h hstep => rowsFollow_step h hstep) rowsAnswered_constructed.toRowsFollow
  · intro hmeets
    exact Machine.always_of_meets (fun _ => RowsAnswered.rowsShow)
      (fun _ _ _ h hcond hstep => rowsAnswered_step h hcond hstep) rowsAnswered_constructed hmeets

/-- A device is there from the beginning, sleeps and is removed. -/
def oneDevice : List Label :=
  let path := "/pizza/pixl/logiops/devices/0"
  [.enumerated 1 (.paths [path]),
    .properties path 0 (.properties { name := some "MX Keys", productId := some 0xb35b }),
    .statusChanged path false, .deviceRemoved path]

theorem oneDevice_shows : machine.Always RowsShow constructed oneDevice :=
  (rows_converge oneDevice).2 (by decide)

/-- A device is removed and added again before the first reply, which is a failure. -/
def addedAgain : List Label :=
  let path := "/pizza/pixl/logiops/devices/0"
  let props : Properties :=
    { name := some "MX Keys", productId := some 0xb35b, active := some true }
  [.enumerated 1 (.paths [path]), .deviceRemoved path, .deviceAdded path,
    .properties path 0 .error, .properties path 1 (.properties props)]

theorem addedAgain_offline : ¬ machine.Always RowsShow constructed addedAgain := by
  have hrun : (machine.run constructed addedAgain).map (fun s =>
      (s.getAlls, s.model.rows.map fun row => (row.name, row.connectionState),
        s.deviceProxies.find? "/pizza/pixl/logiops/devices/0")) =
      some ([], [("", .offline)], some ⟨1, some
        { name := some "MX Keys", productId := some 0xb35b, active := some true }⟩) := by
    decide
  intro h
  obtain ⟨s, hs, heq⟩ := Option.map_eq_some_iff.mp hrun
  simp only [Prod.mk.injEq] at heq
  obtain ⟨hquiet, hrows, hfind⟩ := heq
  rw [← List.append_nil addedAgain] at h
  obtain ⟨row, hrow, -, -, -, hstate⟩ := h.of_run hs hquiet _ _ _ hfind
  have hmem := List.mem_map_of_mem (f := fun row : Row => (row.name, row.connectionState)) hrow
  rw [hrows, List.mem_singleton] at hmem
  exact hstate (congrArg Prod.snd hmem)

end Logid.Gui.DaemonConnection
