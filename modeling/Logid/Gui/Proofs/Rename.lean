import Logid.Gui.ProfilesModel
import Logid.Proofs.Profiles

/-!
# What a rename does

A rename creates the new profile empty, switches the device to it and removes the old one; nothing
copies the configuration. So it keeps what the old profile had only where that is what a new profile
gets, and it keeps the active profile only where that was the old one.
-/

namespace Logid.Gui.ProfilesModel

open Profiles (State Device DeviceConfig Outcome Reply stringLess_linear config_setConfig)

theorem inSync_names {m : ProfilesModel} {s : State} {id : Nat} {device : Device}
    {conf : DeviceConfig} (h : m.InSync s id) (hdevice : s.live.find? id = some device)
    (hconf : s.config device = some conf) (name : String) :
    name ∈ m.names ↔ name ∈ conf.profiles.keys := by
  obtain ⟨view, hview, hnames, -, -⟩ := h
  simp only [read, hdevice, hconf, Option.bind_eq_bind, Option.bind_some, Option.pure_def,
    Option.some_inj] at hview
  rw [hnames, ← hview]

theorem renameProfile_some {m m' : ProfilesModel} {oldName newName : String}
    (h : m.renameProfile oldName newName = some m') :
    oldName ≠ newName ∧ oldName ∈ m.names ∧ newName ∉ m.names := by
  unfold renameProfile at h
  split at h
  · cases h
  next hne =>
    split at h
    · cases h
    next hnames =>
      push Not at hne hnames
      exact ⟨hne.2.2, hnames.1, hnames.2⟩

/-- `SetProfile` of a name that is no profile: it creates the profile and makes it active. -/
theorem setProfile_created {s t : State} {id : Nat} {device : Device} {conf : DeviceConfig}
    {name : String} {outcome : Outcome} (hdevice : s.live.find? id = some device)
    (hconf : s.config device = some conf) (hnew : conf.profiles.find? name = none)
    (h : Profiles.setProfile s id name outcome = some (t, .ok)) :
    ∃ device' conf', t.live.find? id = some device' ∧ t.config device' = some conf' ∧
      device'.profileName = name ∧
      (∃ node, conf'.profiles.find? name = some node ∧
        node.profile = device.features.createdProfile) := by
  have hdone : outcome = .done := by
    cases outcome with
    | done => rfl
    | featureThrows left => simp [Profiles.setProfile, hdevice, hconf, Outcome.reply] at h
    | reconfigureThrows => simp [Profiles.setProfile, hdevice, hconf, Outcome.reply] at h
  subst hdone
  simp only [Profiles.setProfile, Profiles.locate, hdevice, hconf, hnew, Option.bind_eq_bind,
    Option.bind_some, Option.pure_def, Option.some_inj, Prod.mk.injEq] at h
  obtain ⟨rfl, -⟩ := h
  have hinserted := SortedMap.find?_emplace_self stringLess_linear
    (v := (⟨s.nextNode, {}⟩ : Profiles.Node)) hnew
  refine ⟨_, _, AssocMap.find?_set_self hdevice, config_setConfig _ rfl, rfl, ?_⟩
  refine ⟨_, SortedMap.find?_modify_self stringLess_linear hinserted, ?_⟩
  exact device.features.setProfile_empty

/-- The states around a rename whose calls all succeed. -/
theorem performRenameProfile_ok {s t : State} {id : Nat} {device : Device} {conf : DeviceConfig}
    {oldName newName : String} {outcome : Outcome} {view : ProfilesModel} {replies : List Reply}
    (hdevice : s.live.find? id = some device) (hconf : s.config device = some conf)
    (hne : oldName ≠ newName) (hnew : conf.profiles.find? newName = none)
    (h : performRenameProfile s id oldName newName outcome = some (t, view, replies))
    (hok : ∀ reply ∈ replies, reply = .ok) :
    ∃ device' conf', t.live.find? id = some device' ∧ t.config device' = some conf' ∧
      device'.profileName = newName ∧ conf'.profiles.find? oldName = none ∧
      (∃ node, conf'.profiles.find? newName = some node ∧
        node.profile = device.features.createdProfile) := by
  simp only [performRenameProfile, Option.bind_eq_bind, Option.bind_eq_some_iff] at h
  obtain ⟨⟨s₁, created⟩, hset, seen, hseen, h⟩ := h
  have hcreated : created = .ok := by
    split at h
    · simp only [Option.bind_eq_some_iff, Option.pure_def, Option.some_inj, Prod.mk.injEq] at h
      obtain ⟨⟨s₂, removed⟩, -, refreshed, -, -, -, rfl⟩ := h
      exact hok created List.mem_cons_self
    · cases h
      exact hok created List.mem_cons_self
  subst hcreated
  obtain ⟨device₁, conf₁, hdevice₁, hconf₁, hactive, node, hnode, hprofile⟩ :=
    setProfile_created hdevice hconf hnew hset
  have hlisted : newName ∈ seen.names := by
    simp only [read, hdevice₁, hconf₁, Option.bind_eq_bind, Option.bind_some, Option.pure_def,
      Option.some_inj] at hseen
    rw [← hseen]
    by_contra hmissing
    rw [← SortedMap.find?_eq_none_iff stringLess_linear, hnode] at hmissing
    cases hmissing
  rw [if_pos ⟨rfl, hlisted⟩] at h
  simp only [Option.bind_eq_some_iff, Option.pure_def, Option.some_inj, Prod.mk.injEq] at h
  obtain ⟨⟨s₂, removed⟩, hremove, refreshed, -, rfl, -, rfl⟩ := h
  have hremoved : removed = .ok := hok removed (by simp)
  obtain ⟨device', conf', hdevice', hconf', hcases⟩ := Profiles.removeProfile_cases hremove
  rw [hdevice₁, Option.some_inj] at hdevice'
  subst hdevice'
  rw [hconf₁, Option.some_inj] at hconf'
  subst hconf'
  rcases hcases with ⟨-, hrefused, -⟩ | ⟨-, -, -, rfl⟩
  · exact absurd hremoved hrefused
  · refine ⟨device₁, _, hdevice₁, config_setConfig _ rfl, hactive, ?_, node, ?_, hprofile⟩
    · exact SortedMap.find?_erase_self stringLess_linear
    · rw [SortedMap.find?_erase_of_ne stringLess_linear hne.symm]
      exact hnode

/-- A rename that the model accepts and whose calls all succeed keeps its promise exactly when the
active profile was the old one (or bore the new name already) and the old profile held just what a
new profile gets. -/
theorem renamePreserves_iff {s t : State} {id : Nat} {device : Device} {conf : DeviceConfig}
    {m m' : ProfilesModel} {oldName newName : String} {outcome : Outcome} {view : ProfilesModel}
    {replies : List Reply} (hdevice : s.live.find? id = some device)
    (hconf : s.config device = some conf) (hsync : m.InSync s id)
    (haccept : m.renameProfile oldName newName = some m')
    (h : performRenameProfile s id oldName newName outcome = some (t, view, replies))
    (hok : ∀ reply ∈ replies, reply = .ok) :
    RenamePreserves s t id oldName newName ↔
      (device.profileName = oldName ∨ device.profileName = newName) ∧
        ∃ node, conf.profiles.find? oldName = some node ∧
          node.profile = device.features.createdProfile := by
  obtain ⟨hne, hold, hnew⟩ := renameProfile_some haccept
  rw [inSync_names hsync hdevice hconf] at hold hnew
  rw [← SortedMap.find?_eq_none_iff stringLess_linear] at hnew
  obtain ⟨device', conf', hdevice', hconf', hactive, hgone, node', hnode', hprofile'⟩ :=
    performRenameProfile_ok hdevice hconf hne hnew h hok
  have hif : (device'.profileName =
      if device.profileName = oldName then newName else device.profileName) ↔
      (device.profileName = oldName ∨ device.profileName = newName) := by
    rw [hactive]
    by_cases heq : device.profileName = oldName
    · simp [heq]
    · simp [heq, eq_comm]
  constructor
  · intro hex
    obtain ⟨d, c, d', c', hd, hc, hd', hc', ⟨node, n', hnode, hn', heq⟩, -, hname⟩ := hex
    rw [hdevice, Option.some_inj] at hd
    subst hd
    rw [hconf, Option.some_inj] at hc
    subst hc
    rw [hdevice', Option.some_inj] at hd'
    subst hd'
    rw [hconf', Option.some_inj] at hc'
    subst hc'
    rw [hnode', Option.some_inj] at hn'
    subst hn'
    exact ⟨hif.mp hname, node, hnode, heq.symm.trans hprofile'⟩
  · intro hex
    obtain ⟨hname, node, hnode, hprofile⟩ := hex
    exact ⟨device, conf, device', conf', hdevice, hconf, hdevice', hconf',
      ⟨node, node', hnode, hnode', hprofile'.trans hprofile.symm⟩, hgone, hif.mpr hname⟩

/-- One device whose active profile is `gaming`. -/
def gamingDevice : Device :=
  { name := "MX Master", features := {}, profile := ⟨"gaming", 2⟩, profileName := "gaming" }

def gamingConfig (gaming : Config.Profile) : DeviceConfig where
  defaultProfile := "default"
  profiles := (SortedMap.empty.emplace "default" ⟨1, {}⟩).emplace "gaming" ⟨2, gaming⟩

def gamingState (gaming : Config.Profile) : State where
  devices := SortedMap.empty.emplace "MX Master" (.inl (gamingConfig gaming))
  live := AssocMap.empty.emplace 0 gamingDevice
  tasks := []
  nextNode := 3
  nextDevice := 1

def gamingModel : ProfilesModel :=
  { names := ["default", "gaming"], active := "gaming", default := "default" }

theorem inSync_of_read {m : ProfilesModel} {s : State} {id : Nat} (h : read s id = some m) :
    m.InSync s id := ⟨m, h, fun _ => Iff.rfl, rfl, rfl⟩

/-- The profile of a name on a device. -/
def profileOf (s : State) (id : Nat) (name : String) : Option Config.Profile := do
  let device ← s.live.find? id
  let conf ← s.config device
  let node ← conf.profiles.find? name
  return node.profile

theorem profileOf_of_renamePreserves {s t : State} {id : Nat} {oldName newName : String}
    (h : RenamePreserves s t id oldName newName) :
    profileOf t id newName = profileOf s id oldName := by
  obtain ⟨device, conf, device', conf', hd, hc, hd', hc', ⟨node, node', hn, hn', heq⟩, -, -⟩ := h
  simp [profileOf, hd, hc, hd', hc', hn, hn', heq]

/-- The replies to the rename of the profile, and what the new one holds. -/
def renameGaming (gaming : Config.Profile) : Option (List Reply × Option Config.Profile) :=
  (performRenameProfile (gamingState gaming) 0 "gaming" "esports" .done).map fun r =>
    (r.2.2, profileOf r.1 0 "esports")

theorem renamePreserves_gaming :
    ∃ t view, performRenameProfile (gamingState {}) 0 "gaming" "esports" .done =
        some (t, view, [.ok, .ok]) ∧
      RenamePreserves (gamingState {}) t 0 "gaming" "esports" := by
  have hrun : renameGaming {} = some ([.ok, .ok], some {}) := by decide
  obtain ⟨⟨t, view, replies⟩, hperform, heq⟩ := Option.map_eq_some_iff.mp hrun
  obtain ⟨rfl, -⟩ := Prod.mk.inj heq
  refine ⟨t, view, hperform, ?_⟩
  have hdevice : (gamingState {}).live.find? 0 = some gamingDevice := rfl
  have hconf : (gamingState {}).config gamingDevice = some (gamingConfig {}) := by decide
  have hsync : gamingModel.InSync (gamingState {}) 0 := inSync_of_read (by decide)
  exact (renamePreserves_iff hdevice hconf hsync rfl hperform (by decide)).mpr
    ⟨.inl rfl, ⟨2, {}⟩, by decide, rfl⟩

/-- The DPI of the profile is lost. -/
theorem rename_loses_dpi :
    ∃ m t view, gamingModel.InSync (gamingState { dpi := some (.inl 1600) }) 0 ∧
      gamingModel.renameProfile "gaming" "esports" = some m ∧
      performRenameProfile (gamingState { dpi := some (.inl 1600) }) 0 "gaming" "esports" .done =
        some (t, view, [.ok, .ok]) ∧
      ¬ RenamePreserves (gamingState { dpi := some (.inl 1600) }) t 0 "gaming" "esports" := by
  have hrun : renameGaming { dpi := some (.inl 1600) } = some ([.ok, .ok], some {}) := by decide
  have hold : profileOf (gamingState { dpi := some (.inl 1600) }) 0 "gaming" =
    some { dpi := some (.inl 1600) } := by decide
  obtain ⟨⟨t, view, replies⟩, hperform, heq⟩ := Option.map_eq_some_iff.mp hrun
  obtain ⟨rfl, hnew⟩ := Prod.mk.inj heq
  refine ⟨_, t, view, inSync_of_read (by decide), rfl, hperform, ?_⟩
  intro h
  have hkept := profileOf_of_renamePreserves h
  rw [hnew, hold] at hkept
  cases hkept

end Logid.Gui.ProfilesModel
