import Logid.Profiles

/-!
# The active profile stays in the map

Inserting an entry and writing into one leave every node where it is (`Keeps`), so the iterators
stay good. The only operation that takes a node away is `RemoveProfile`: it refuses the active
profile of the device it is called on, but not that of another device with the same configuration.
-/

namespace Logid.Profiles

open Config (Profile stringLess)

theorem stringLess_linear : stringLess.Linear := KeyLess.on_linear Function.injective_id

/-- Every node of the first map is in the second, at its key. -/
def Keeps (m n : ProfileMap) : Prop :=
  ∀ key node, m.find? key = some node → ∃ node', n.find? key = some node' ∧ node'.id = node.id

theorem Keeps.refl (m : ProfileMap) : Keeps m m := fun _ node h => ⟨node, h, rfl⟩

theorem Keeps.trans {m n o : ProfileMap} (hmn : Keeps m n) (hno : Keeps n o) : Keeps m o := by
  intro key node h
  obtain ⟨node', h', heq⟩ := hmn key node h
  obtain ⟨node'', h'', heq'⟩ := hno key node' h'
  exact ⟨node'', h'', heq'.trans heq⟩

theorem keeps_modify (m : ProfileMap) (profile : String) (f : Profile → Profile) :
    Keeps m (m.modify profile (Node.write f)) := by
  intro key node h
  by_cases hkey : key = profile
  · subst hkey
    exact ⟨node.write f, SortedMap.find?_modify_self stringLess_linear h, rfl⟩
  · exact ⟨node, by rw [SortedMap.find?_modify_of_ne stringLess_linear hkey, h], rfl⟩

theorem keeps_locate (n : Nat) (m : ProfileMap) (profile : String) :
    Keeps m (locate n m profile).1 := by
  unfold locate
  split
  · exact Keeps.refl m
  · intro key node h
    exact ⟨node, SortedMap.find?_emplace_of_some stringLess_linear h, rfl⟩

theorem locate_key (n : Nat) (m : ProfileMap) (profile : String) :
    (locate n m profile).2.key = profile := by
  unfold locate
  split <;> rfl

theorem find?_locate (n : Nat) (m : ProfileMap) (profile : String) :
    ∃ node, (locate n m profile).1.find? profile = some node ∧
      node.id = (locate n m profile).2.id := by
  unfold locate
  split
  next node h => exact ⟨node, h, rfl⟩
  next h => exact ⟨⟨n, {}⟩, SortedMap.find?_emplace_self stringLess_linear h, rfl⟩

theorem Device.PointsInto.keeps {device : Device} {conf conf' : DeviceConfig}
    (h : device.PointsInto conf) (hkeeps : Keeps conf.profiles conf'.profiles) :
    device.PointsInto conf' := by
  obtain ⟨hkey, node, hfind, hid⟩ := h
  obtain ⟨node', hfind', hid'⟩ := hkeeps _ node hfind
  exact ⟨hkey, node', hfind', hid'.trans hid⟩

/-- An iterator that `locate` gives is good, also after a write. -/
theorem pointsInto_locate {device : Device} {conf : DeviceConfig} {n : Nat} {m : ProfileMap}
    {f : Profile → Profile} (hprofile : device.profile = (locate n m device.profileName).2)
    (hconf : conf.profiles =
      (locate n m device.profileName).1.modify device.profileName (Node.write f)) :
    device.PointsInto conf := by
  obtain ⟨node, hfind, hid⟩ := find?_locate n m device.profileName
  have hkeeps := keeps_modify (locate n m device.profileName).1 device.profileName f
  obtain ⟨node', hfind', hid'⟩ := hkeeps _ node hfind
  have hkey : device.profile.key = device.profileName := by rw [hprofile, locate_key]
  refine ⟨hkey, node', ?_, ?_⟩
  · rw [hkey, hconf, hfind']
  · rw [hid', hid, hprofile]

theorem config_eq_some_iff {s : State} {device : Device} {conf : DeviceConfig} :
    s.config device = some conf ↔ s.devices.find? device.name = some (.inl conf) := by
  rw [State.config, Option.bind_eq_some_iff]
  constructor
  · intro h
    obtain ⟨entry, hfind, hleft⟩ := h
    rw [hfind, Sum.getLeft?_eq_some_iff.mp hleft]
  · intro h
    exact ⟨.inl conf, h, rfl⟩

/-- Devices of one name share their configuration. -/
theorem config_setConfig {s : State} {device other : Device} (conf : DeviceConfig)
    (h : other.name = device.name) : (s.setConfig device conf).config other = some conf := by
  rw [config_eq_some_iff, h]
  exact SortedMap.find?_assign_self stringLess_linear

/-- The state after one configuration is replaced: the iterators into it are good again, the others
are as they were. -/
theorem profilesValid_of_assign {s t : State} {name : String} {conf : DeviceConfig}
    (h : s.ProfilesValid) (hdevices : t.devices = s.devices.assign name (.inl conf))
    (hlive : ∀ id device, t.live.find? id = some device →
      s.live.find? id = some device ∨ device.name = name ∧ device.PointsInto conf)
    (hinto : ∀ id device old, s.live.find? id = some device → device.name = name →
      s.config device = some old → device.PointsInto old → device.PointsInto conf) :
    t.ProfilesValid := by
  have hself : t.devices.find? name = some (.inl conf) := by
    rw [hdevices]
    exact SortedMap.find?_assign_self stringLess_linear
  intro id device hdevice
  rcases hlive id device hdevice with hold | ⟨hname, hpoints⟩
  · obtain ⟨old, hconfig, hpoints⟩ := h id device hold
    by_cases hname : device.name = name
    · refine ⟨conf, ?_, hinto id device old hold hname hconfig hpoints⟩
      rw [config_eq_some_iff, hname, hself]
    · refine ⟨old, ?_, hpoints⟩
      rw [config_eq_some_iff] at hconfig ⊢
      rw [hdevices, SortedMap.find?_assign_of_ne stringLess_linear hname, hconfig]
  · exact ⟨conf, by rw [config_eq_some_iff, hname, hself], hpoints⟩

/-- As above, for a configuration that keeps the nodes of the one it replaces. -/
theorem profilesValid_of_keeps {s t : State} {name : String} {conf : DeviceConfig}
    (h : s.ProfilesValid) (hdevices : t.devices = s.devices.assign name (.inl conf))
    (hlive : ∀ id device, t.live.find? id = some device →
      s.live.find? id = some device ∨ device.name = name ∧ device.PointsInto conf)
    (hkeeps : ∀ old, s.devices.find? name = some (.inl old) → Keeps old.profiles conf.profiles) :
    t.ProfilesValid := by
  apply profilesValid_of_assign h hdevices hlive
  intro id device old _ hname hconfig hpoints
  rw [config_eq_some_iff, hname] at hconfig
  exact hpoints.keeps (hkeeps old hconfig)

/-- As above, for the configuration of a device. -/
theorem profilesValid_of_config {s t : State} {device : Device} {old conf : DeviceConfig}
    (h : s.ProfilesValid) (hold : s.config device = some old)
    (hdevices : t.devices = s.devices.assign device.name (.inl conf))
    (hlive : ∀ id device', t.live.find? id = some device' →
      s.live.find? id = some device' ∨ device'.name = device.name ∧ device'.PointsInto conf)
    (hkeeps : Keeps old.profiles conf.profiles) : t.ProfilesValid := by
  apply profilesValid_of_keeps h hdevices hlive
  intro conf' hconf'
  rw [config_eq_some_iff, hconf', Option.some_inj, Sum.inl.injEq] at hold
  subst hold
  exact hkeeps

/-! ## The operations -/

theorem keeps_getConfig {s : State} {name : String} {old : DeviceConfig}
    (h : s.devices.find? name = some (.inl old)) :
    Keeps old.profiles (getConfig s name).profiles := by
  rw [getConfig, h, Option.getD_some]
  dsimp only
  split
  next hempty =>
    intro key node hfind
    rw [SortedMap.find?_eq_some_iff stringLess_linear, List.isEmpty_iff.mp hempty] at hfind
    cases hfind
  next => exact Keeps.refl old.profiles

theorem make_valid {s : State} (h : s.ProfilesValid) (name : String) (features : Features.Supported)
    (outcome : Outcome) : (make s name features outcome).ProfilesValid := by
  apply profilesValid_of_keeps h rfl
  · intro id device hdevice
    cases outcome with
    | done =>
      rcases AssocMap.find?_of_emplace hdevice with hold | ⟨-, hnew⟩
      · exact .inl hold
      · subst hnew
        exact .inr ⟨rfl, pointsInto_locate rfl rfl⟩
    | featureThrows left => exact .inl hdevice
    | reconfigureThrows => exact .inl hdevice
  · intro old hold
    exact (keeps_getConfig hold).trans ((keeps_locate _ _ _).trans (keeps_modify _ _ _))

theorem setProfile_valid {s t : State} {id : Nat} {profile : String} {outcome : Outcome}
    {reply : Reply} (h : s.ProfilesValid)
    (hstep : setProfile s id profile outcome = some (t, reply)) : t.ProfilesValid := by
  simp only [setProfile, Option.bind_eq_bind, Option.bind_eq_some_iff, Option.pure_def,
    Option.some_inj, Prod.mk.injEq] at hstep
  obtain ⟨device, hdevice, conf, hconf, ht, -⟩ := hstep
  subst ht
  apply profilesValid_of_config h hconf rfl
  · intro id' device' hdevice'
    rcases AssocMap.find?_of_set hdevice' with ⟨-, hold⟩ | ⟨-, hnew⟩
    · exact .inl hold
    · subst hnew
      exact .inr ⟨rfl, pointsInto_locate rfl rfl⟩
  · exact (keeps_locate _ _ _).trans (keeps_modify _ _ _)

theorem clearProfile_valid {s t : State} {id : Nat} {profile : String} {outcome : Outcome}
    {reply : Reply} (h : s.ProfilesValid)
    (hstep : clearProfile s id profile outcome = some (t, reply)) : t.ProfilesValid := by
  simp only [clearProfile, Option.bind_eq_bind, Option.bind_eq_some_iff, Option.pure_def] at hstep
  obtain ⟨device, hdevice, conf, hconf, hstep⟩ := hstep
  have hwrite : ∀ key f, (s.setConfig device
      { conf with profiles := conf.profiles.modify key (Node.write f) }).ProfilesValid := by
    intro key f
    apply profilesValid_of_config h hconf rfl
    · exact fun id' device' hdevice' => .inl hdevice'
    · exact keeps_modify _ _ _
  split at hstep
  · obtain ⟨node, -, hstep⟩ := Option.bind_eq_some_iff.mp hstep
    split at hstep
    · cases hstep
      exact hwrite _ _
    · cases hstep
  · split at hstep
    · cases hstep
      exact hwrite _ _
    · cases hstep
      exact h

theorem writeDefaultProfile_valid {s t : State} {id : Nat} {value : String} (h : s.ProfilesValid)
    (hstep : writeDefaultProfile s id value = some t) : t.ProfilesValid := by
  simp only [writeDefaultProfile, Option.bind_eq_bind, Option.bind_eq_some_iff, Option.pure_def,
    Option.some_inj] at hstep
  obtain ⟨device, hdevice, conf, hconf, ht⟩ := hstep
  subst ht
  apply profilesValid_of_config h hconf rfl
  · exact fun id' device' hdevice' => .inl hdevice'
  · exact Keeps.refl _

theorem runTask_valid {s t : State} {n : Nat} {outcome : Outcome} (h : s.ProfilesValid)
    (hstep : runTask s n outcome = some t) : t.ProfilesValid := by
  simp only [runTask, Option.bind_eq_bind, Option.bind_eq_some_iff] at hstep
  obtain ⟨task, htask, hstep⟩ := hstep
  have h' : State.ProfilesValid { s with tasks := s.tasks.eraseIdx n } := h
  split at hstep
  · obtain ⟨r, hr, rfl⟩ := Option.map_eq_some_iff.mp hstep
    exact setProfile_valid h' hr
  · cases hstep
    exact h'

/-- What `removeProfile` does: it refuses, or it erases a profile that is neither the active one of
the device nor the default. -/
theorem removeProfile_cases {s t : State} {id : Nat} {profile : String} {reply : Reply}
    (hstep : removeProfile s id profile = some (t, reply)) :
    ∃ device conf, s.live.find? id = some device ∧ s.config device = some conf ∧
      (t = s ∧ reply ≠ .ok ∧ (profile = device.profileName ∨ profile = conf.defaultProfile) ∨
        profile ≠ device.profileName ∧ profile ≠ conf.defaultProfile ∧ reply = .ok ∧
          t = s.setConfig device { conf with profiles := conf.profiles.erase profile }) := by
  simp only [removeProfile, Option.bind_eq_bind, Option.bind_eq_some_iff, Option.pure_def] at hstep
  obtain ⟨device, hdevice, conf, hconf, hstep⟩ := hstep
  refine ⟨device, conf, hdevice, hconf, ?_⟩
  split at hstep
  next hactive =>
    cases hstep
    exact .inl ⟨rfl, by simp, .inl hactive⟩
  next hactive =>
    split at hstep
    next hdefault =>
      cases hstep
      exact .inl ⟨rfl, by simp, .inr hdefault⟩
    next hdefault =>
      cases hstep
      exact .inr ⟨hactive, hdefault, rfl, rfl⟩

/-- Erasing a profile that no device has active keeps the iterators good. -/
theorem removeProfile_valid {s t : State} {id : Nat} {profile : String} {reply : Reply}
    (h : s.ProfilesValid) (hguard : NotActiveElsewhere s (.removeProfile id profile))
    (hstep : removeProfile s id profile = some (t, reply)) : t.ProfilesValid := by
  obtain ⟨device, conf, hdevice, hconf, ⟨rfl, -⟩ | ⟨hactive, hdefault, -, rfl⟩⟩ :=
    removeProfile_cases hstep
  · exact h
  · apply profilesValid_of_assign h rfl
    · exact fun id' device' hdevice' => .inl hdevice'
    · intro id' other old hother hname hold hpoints
      obtain ⟨hkey, node, hfind, hid⟩ := hpoints
      have hne : other.profile.key ≠ profile := by
        rw [hkey]
        exact hguard device conf hdevice hconf hactive hdefault id' other hother hname
      rw [config_eq_some_iff, hname, ← config_eq_some_iff, hconf, Option.some_inj] at hold
      subst hold
      exact ⟨hkey, node, by rw [SortedMap.find?_erase_of_ne stringLess_linear hne, hfind], hid⟩

/-- Erasing the active profile of another device makes its iterator dangle. -/
theorem notActiveElsewhere_of_valid {s t : State} {id : Nat} {profile : String} {reply : Reply}
    (hstep : removeProfile s id profile = some (t, reply)) (h : t.ProfilesValid) :
    NotActiveElsewhere s (.removeProfile id profile) := by
  intro device conf hdevice hconf hactive hdefault id' other hother hname heq
  obtain ⟨device', conf', hdevice', hconf', hcases⟩ := removeProfile_cases hstep
  rw [hdevice, Option.some_inj] at hdevice'
  subst hdevice'
  rw [hconf, Option.some_inj] at hconf'
  subst hconf'
  rcases hcases with ⟨-, -, hrefused⟩ | ⟨-, -, -, ht⟩
  · rcases hrefused with hrefused | hrefused
    · exact hactive hrefused
    · exact hdefault hrefused
  · subst ht
    obtain ⟨conf', hconf', hkey, node, hfind, -⟩ := h id' other hother
    rw [config_setConfig _ hname, Option.some_inj] at hconf'
    rw [← hconf', hkey, heq, SortedMap.find?_erase_self stringLess_linear] at hfind
    cases hfind

/-- From a state with good iterators, a step leads to such a state exactly if it does not erase the
active profile of another device. -/
theorem step_valid_iff {s t : State} {a : Label} (h : s.ProfilesValid) (hstep : step s a = some t) :
    t.ProfilesValid ↔ NotActiveElsewhere s a := by
  cases a with
  | removeProfile id profile =>
    obtain ⟨r, hr, rfl⟩ := Option.map_eq_some_iff.mp hstep
    exact ⟨notActiveElsewhere_of_valid hr, fun hguard => removeProfile_valid h hguard hr⟩
  | make name features outcome =>
    cases hstep
    exact iff_of_true (make_valid h name features outcome) trivial
  | destroy id =>
    cases hstep
    exact iff_of_true (fun id' device hdevice => h id' device (AssocMap.find?_of_erase hdevice))
      trivial
  | setProfile id profile outcome =>
    obtain ⟨r, hr, rfl⟩ := Option.map_eq_some_iff.mp hstep
    exact iff_of_true (setProfile_valid h hr) trivial
  | clearProfile id profile outcome =>
    obtain ⟨r, hr, rfl⟩ := Option.map_eq_some_iff.mp hstep
    exact iff_of_true (clearProfile_valid h hr) trivial
  | writeDefaultProfile id value => exact iff_of_true (writeDefaultProfile_valid h hstep) trivial
  | setProfileDelayed id profile =>
    obtain ⟨device, -, ht⟩ := Option.bind_eq_some_iff.mp hstep
    cases ht
    exact iff_of_true h trivial
  | runTask n outcome => exact iff_of_true (runTask_valid h hstep) trivial

theorem loaded_valid (config : Config.Config) : (loaded config).ProfilesValid := by
  intro id device hdevice
  cases hdevice

/-- Whatever configuration is loaded, the profile of every device stays an entry of its map at its
`ActiveProfile` exactly in the runs where no accepted `RemoveProfile` names the active profile of
another device with the same configuration. -/
theorem profilesValid_iff (config : Config.Config) (as : List Label) :
    (machine config).Always State.ProfilesValid (loaded config) as ↔
      (machine config).Meets NotActiveElsewhere (loaded config) as := by
  have hstep : ∀ s a t, True → s.ProfilesValid → (machine config).step s a = some t →
      (t.ProfilesValid ↔ NotActiveElsewhere s a) := fun s a t _ h hst => step_valid_iff h hst
  exact Machine.always_iff_meets (fun _ _ _ _ _ _ _ => trivial) hstep trivial (loaded_valid config)

/-- Two devices of one name: one switches to a profile that the other then removes. -/
def removedByTwin : List Label := [
  .make "MX Master" {} .done, .make "MX Master" {} .done,
  .setProfile 0 "gaming" .done, .removeProfile 1 "gaming"]

/-- The key of the first device's iterator, and whether it is in the map after the run. -/
def activeOfFirst (as : List Label) : Option (String × Bool) := do
  let s ← (machine {}).run (loaded {}) as
  let device ← s.live.find? 0
  let conf ← s.config device
  return (device.profile.key, (conf.profiles.find? device.profile.key).isSome)

theorem removedByTwin_dangles :
    ¬ (machine {}).Always State.ProfilesValid (loaded {}) removedByTwin := by
  have hrun : activeOfFirst removedByTwin = some ("gaming", false) := by decide
  intro h
  rw [activeOfFirst, Option.bind_eq_bind, Option.bind_eq_some_iff] at hrun
  obtain ⟨s, hs, hrun⟩ := hrun
  have hvalid : s.ProfilesValid := by
    rw [← List.append_nil removedByTwin] at h
    exact h.of_run hs
  simp only [Option.bind_eq_bind, Option.bind_eq_some_iff, Option.pure_def, Option.some_inj] at hrun
  obtain ⟨device, hdevice, conf, hconf, heq⟩ := hrun
  obtain ⟨conf', hconf', -, node, hfind, -⟩ := hvalid 0 device hdevice
  rw [hconf, Option.some_inj] at hconf'
  subst hconf'
  simp [hfind] at heq

end Logid.Profiles
