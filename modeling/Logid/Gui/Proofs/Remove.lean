import Logid.Gui.Proofs.Rename

/-!
# When a removal takes effect

The model asks for the removal before it asks for the switch, and the daemon refuses to remove the
active profile. So a removal takes effect exactly when it is not the active profile that is removed.
-/

namespace Logid.Gui.ProfilesModel

open Profiles (State Device DeviceConfig Node Outcome Reply Keeps stringLess_linear config_setConfig)

/-- What a refresh shows. -/
def shown (device : Device) (conf : DeviceConfig) : ProfilesModel :=
  { names := conf.profiles.keys, active := device.profileName, default := conf.defaultProfile }

theorem read_eq {s : State} {id : Nat} {device : Device} {conf : DeviceConfig}
    (hdevice : s.live.find? id = some device) (hconf : s.config device = some conf) :
    read s id = some (shown device conf) := by
  simp [read, shown, hdevice, hconf]

/-- The daemon's side of a model in sync. -/
theorem InSync.daemon {m : ProfilesModel} {s : State} {id : Nat} (h : m.InSync s id) :
    ∃ device conf, s.live.find? id = some device ∧ s.config device = some conf ∧
      m.active = device.profileName ∧ m.default = conf.defaultProfile := by
  obtain ⟨view, hview, -, hactive, hdefault⟩ := h
  simp only [read, Option.bind_eq_bind, Option.bind_eq_some_iff, Option.pure_def,
    Option.some_inj] at hview
  obtain ⟨device, hdevice, conf, hconf, rfl⟩ := hview
  exact ⟨device, conf, hdevice, hconf, hactive, hdefault⟩

/-- The model switches exactly when the active profile is removed, to a profile that stays. -/
theorem removeProfile_some {m m' : ProfilesModel} {name : String} {next : Option String}
    (h : m.removeProfile name = some (m', next)) :
    name ∈ m.names ∧
      (m.active ≠ name ∧ next = none ∧ m'.active = m.active ∨
        m.active = name ∧ ∃ first, next = some first ∧ m'.active = first) := by
  unfold removeProfile at h
  split at h
  · cases h
  next hguard =>
    push Not at hguard
    refine ⟨hguard.1, ?_⟩
    dsimp only at h
    split at h
    next first rest hrest =>
      split at h
      next hactive =>
        cases h
        exact .inr ⟨hactive, first, rfl, rfl⟩
      next hactive =>
        cases h
        exact .inl ⟨hactive, rfl, rfl⟩
    next hrest =>
      -- a second row is left
      have hlength : (m.names.erase name).length = m.names.length - 1 :=
        List.length_erase_of_mem hguard.1
      rw [hrest, List.length_nil] at hlength
      omega

/-- `SetProfile` takes no profile away, however it ends. -/
theorem setProfile_keeps {s : State} {id : Nat} {device : Device} {conf : DeviceConfig}
    (hdevice : s.live.find? id = some device) (hconf : s.config device = some conf) (name : String)
    (outcome : Outcome) :
    ∃ t device' conf', Profiles.setProfile s id name outcome = some (t, outcome.reply) ∧
      t.live.find? id = some device' ∧ t.config device' = some conf' ∧
      Keeps conf.profiles conf'.profiles := by
  simp only [Profiles.setProfile, hdevice, hconf, Option.bind_eq_bind, Option.bind_some,
    Option.pure_def]
  refine ⟨_, _, _, rfl, AssocMap.find?_set_self hdevice, config_setConfig _ rfl, ?_⟩
  exact (Profiles.keeps_locate _ _ _).trans (Profiles.keeps_modify _ _ _)

/-- The calls of a removal that is not of the active profile. -/
theorem performRemoveProfile_inactive {s : State} {id : Nat} {device : Device} {conf : DeviceConfig}
    {name : String} (hdevice : s.live.find? id = some device) (hconf : s.config device = some conf)
    (hactive : name ≠ device.profileName) (hdefault : name ≠ conf.defaultProfile)
    (outcome : Outcome) :
    ∃ t view, performRemoveProfile s id name none outcome = some (t, view, [.ok]) ∧
      t.live.find? id = some device ∧
      t.config device = some { conf with profiles := conf.profiles.erase name } ∧
      view.active = device.profileName := by
  let conf' : DeviceConfig := { conf with profiles := conf.profiles.erase name }
  have hremove : Profiles.removeProfile s id name = some (s.setConfig device conf', .ok) := by
    simp [conf', Profiles.removeProfile, hdevice, hconf, hactive, hdefault]
  have hlive : (s.setConfig device conf').live.find? id = some device := hdevice
  have hconf' : (s.setConfig device conf').config device = some conf' := config_setConfig conf' rfl
  refine ⟨s.setConfig device conf', shown device conf', ?_, hlive, hconf', rfl⟩
  simp only [performRemoveProfile, hremove, read_eq hlive hconf', Option.bind_eq_bind,
    Option.bind_some, Option.pure_def]

/-- The calls of a removal of the active profile: the profile stays. -/
theorem performRemoveProfile_active {s : State} {id : Nat} {device : Device} {conf : DeviceConfig}
    (hdevice : s.live.find? id = some device) (hconf : s.config device = some conf) (next : String)
    (outcome : Outcome) :
    ∃ t view device' conf',
      performRemoveProfile s id device.profileName (some next) outcome =
        some (t, view, [.invalidArgument "cannot remove active profile", outcome.reply]) ∧
      t.live.find? id = some device' ∧ t.config device' = some conf' ∧
      Keeps conf.profiles conf'.profiles := by
  have hremove : Profiles.removeProfile s id device.profileName =
      some (s, .invalidArgument "cannot remove active profile") := by
    simp [Profiles.removeProfile, hdevice, hconf]
  obtain ⟨t, device', conf', hset, hdevice', hconf', hkeeps⟩ :=
    setProfile_keeps hdevice hconf next outcome
  refine ⟨t, shown device' conf', device', conf', ?_, hdevice', hconf', hkeeps⟩
  simp only [performRemoveProfile, hremove, hset, read_eq hdevice' hconf', Option.bind_eq_bind,
    Option.bind_some, Option.pure_def]

/-- A removal that the model accepts, of a profile that is not the default, takes effect exactly when
the profile is not the active one. -/
theorem removalTakesEffect_iff {s : State} {id : Nat} {m m' : ProfilesModel} {name : String}
    {next : Option String} (hsync : m.InSync s id)
    (haccept : m.removeProfile name = some (m', next)) (hdefault : name ≠ m.default)
    (outcome : Outcome) :
    ∃ t view replies, performRemoveProfile s id name next outcome = some (t, view, replies) ∧
      (RemovalTakesEffect s t id name m' view ↔ name ≠ m.active) := by
  obtain ⟨device, conf, hdevice, hconf, hsame, hsameDefault⟩ := hsync.daemon
  obtain ⟨hname, ⟨hactive, rfl, hkept⟩ | ⟨hactive, first, rfl, hswitched⟩⟩ :=
    removeProfile_some haccept
  · have hne : name ≠ device.profileName := hsame ▸ hactive.symm
    have hnotDefault : name ≠ conf.defaultProfile := hsameDefault ▸ hdefault
    obtain ⟨t, view, hrun, hdevice', hconf', hview⟩ :=
      performRemoveProfile_inactive hdevice hconf hne hnotDefault outcome
    refine ⟨t, view, _, hrun, iff_of_true ?_ hactive.symm⟩
    refine ⟨device, conf, device, _, hdevice, hconf, hdevice', hconf', ?_, ?_, ?_, ?_⟩
    · exact SortedMap.find?_erase_self stringLess_linear
    · rw [hkept, hsame]
    · rw [hkept, hsame, hview]
    · intro other hother
      exact SortedMap.find?_erase_of_ne stringLess_linear hother
  · have heq : name = device.profileName := hactive.symm.trans hsame
    subst heq
    obtain ⟨t, view, device', conf', hrun, hdevice', hconf', hkeeps⟩ :=
      performRemoveProfile_active hdevice hconf first outcome
    refine ⟨t, view, _, hrun, iff_of_false ?_ (not_not.mpr hactive.symm)⟩
    intro h
    obtain ⟨d, c, d', c', -, -, hd', hc', hgone, -⟩ := h
    rw [hdevice', Option.some_inj] at hd'
    subst hd'
    rw [hconf', Option.some_inj] at hc'
    subst hc'
    -- the removed row was a profile of the daemon
    rw [inSync_names hsync hdevice hconf] at hname
    have hpresent : conf.profiles.find? device.profileName ≠ none := by
      intro habsent
      exact (SortedMap.find?_eq_none_iff stringLess_linear).mp habsent hname
    obtain ⟨node, hnode⟩ := Option.ne_none_iff_exists'.mp hpresent
    obtain ⟨node', hnode', -⟩ := hkeeps _ node hnode
    rw [hgone] at hnode'
    cases hnode'

/-- The daemon with the profile `gaming`, but the default one active. -/
def idleState : State :=
  { gamingState {} with
    live := AssocMap.empty.emplace 0
      { gamingDevice with profile := ⟨"default", 1⟩, profileName := "default" } }

theorem remove_idle_gaming :
    ∃ t view replies, performRemoveProfile idleState 0 "gaming" none .done =
        some (t, view, replies) ∧
      (RemovalTakesEffect idleState t 0 "gaming"
          { names := ["default"], active := "default", default := "default" } view ↔
        "gaming" ≠ "default") :=
  removalTakesEffect_iff (m := { gamingModel with active := "default" })
    (inSync_of_read (by decide)) (by decide) (by decide) .done

/-- The active profile is on the device after its removal. -/
theorem remove_active_gaming_stays :
    ∃ m next t view replies, gamingModel.InSync (gamingState {}) 0 ∧
      gamingModel.removeProfile "gaming" = some (m, next) ∧ "gaming" ≠ gamingModel.default ∧
      performRemoveProfile (gamingState {}) 0 "gaming" next .done = some (t, view, replies) ∧
      ¬ RemovalTakesEffect (gamingState {}) t 0 "gaming" m view := by
  have hrun : (performRemoveProfile (gamingState {}) 0 "gaming" (some "default") .done).map
      (fun r => (r.2.2, profileOf r.1 0 "gaming")) =
      some ([.invalidArgument "cannot remove active profile", .ok], some {}) := by decide
  obtain ⟨⟨t, view, replies⟩, hperform, heq⟩ := Option.map_eq_some_iff.mp hrun
  obtain ⟨-, hstays⟩ := Prod.mk.inj heq
  refine ⟨_, _, t, view, replies, inSync_of_read (by decide), rfl, by decide, hperform, ?_⟩
  intro h
  obtain ⟨d, c, d', c', -, -, hd', hc', hgone, -⟩ := h
  simp [profileOf, hd', hc', hgone] at hstays

end Logid.Gui.ProfilesModel
