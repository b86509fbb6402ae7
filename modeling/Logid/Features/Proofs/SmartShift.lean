import Logid.Features.SmartShift

/-!
# What SmartShift transmits

The bus methods clip what they write, and so does the constructor in the default profile. A value that
is out of range when a profile is switched to has been loaded with the profile.
-/

namespace Logid.Features.SmartShift

open Backend.Hidpp20.SmartShift (Version Status setStatusParams)

/-! ## One request -/

/-- What `configure` sends is in range exactly if the configuration is, cut to bytes. -/
theorem inRange_settings_iff (version : Version) (conf : Config.SmartShift) :
    Sent.InRange version { status := settings conf, config := some conf } ↔
      FitsByte version conf := by
  have hthreshold : ∀ threshold, conf.threshold = some threshold →
      (setStatusParams version (settings conf)).autoDisengage = threshold.toUInt8 := by
    intro threshold h
    simp [setStatusParams, settings, h]
  have htorque : ∀ torque, version = .v2 → conf.torque = some torque →
      (setStatusParams version (settings conf)).torque = torque.toUInt8 := by
    rintro torque rfl h
    simp [setStatusParams, settings, h]
  constructor
  · intro hrange
    constructor
    · intro threshold h hzero
      apply (hrange.threshold threshold (by simp [settings, h]) h).1
      rw [hthreshold threshold h]
      exact UInt8.toNat_inj.mp ((UInt32.toNat_toUInt8 threshold).trans hzero)
    · intro torque hversion h
      have hbyte := hrange.torque torque hversion (by simp [settings, h]) h
      rwa [htorque torque hversion h, UInt32.toNat_toUInt8] at hbyte
  · intro hfits
    constructor
    · intro threshold _ h
      rw [hthreshold threshold h]
      refine ⟨?_, fun _ hbyte => ?_⟩
      · intro hzero
        apply hfits.threshold threshold h
        exact (UInt32.toNat_toUInt8 threshold).symm.trans (congrArg UInt8.toNat hzero)
      · rw [UInt32.toNat_toUInt8]
        omega
    · intro torque hversion _ h
      rw [htorque torque hversion h, UInt32.toNat_toUInt8]
      exact hfits.torque torque hversion h

/-- The constructor leaves a configuration out of range only where the threshold is cut to 0. -/
theorem fitsByte_clip_iff (version : Version) (conf : Config.SmartShift) :
    FitsByte version conf.clip ↔
      ∀ threshold, conf.threshold = some threshold → threshold ≠ 0 → threshold.toNat % 256 ≠ 0 := by
  constructor
  · intro hfits threshold h hne
    exact hfits.threshold threshold (by simp [Config.SmartShift.clip, h, hne])
  · intro hcond
    constructor
    · intro threshold h
      obtain ⟨t, ht, rfl⟩ := Option.map_eq_some_iff.mp h
      split
      next => decide
      next hne => exact hcond t ht hne
    · intro torque _ h
      obtain ⟨t, -, rfl⟩ := Option.map_eq_some_iff.mp h
      split
      next => decide
      next hne =>
        split
        next => decide
        next hle =>
          have hpos : t.toNat ≠ 0 := fun heq => hne (UInt32.toNat_inj.mp heq)
          have hle : t.toNat ≤ 100 := UInt32.not_lt.mp hle
          omega

/-! ## One step -/

@[simp] theorem State.config_edit (s : State) (config : Option Config.SmartShift) :
    (s.edit config).config = config := Function.update_self _ _ _

/-- Every profile is in range, and so is what has been sent. -/
structure Fits (version : Version) (s : State) : Prop where
  profiles : ∀ profile conf, s.profiles profile = some conf → FitsByte version conf
  sent : SendsInRange version s

section Steps

variable {version : Version} {s : State}

theorem Fits.update (hs : Fits version s) {config : Option Config.SmartShift}
    (hconfig : ∀ conf, config = some conf → FitsByte version conf) (profile : String) :
    Fits version { s with profiles := Function.update s.profiles profile config } := by
  refine ⟨?_, hs.sent⟩
  intro other conf h
  by_cases heq : other = profile
  · subst heq
    exact hconfig conf ((Function.update_self other config s.profiles).symm.trans h)
  · exact hs.profiles other conf ((Function.update_of_ne heq config s.profiles).symm.trans h)

theorem Fits.edit (hs : Fits version s) {config : Option Config.SmartShift}
    (hconfig : ∀ conf, config = some conf → FitsByte version conf) :
    Fits version (s.edit config) := hs.update hconfig s.profile

theorem Fits.setStatus (hs : Fits version s) {status : Status}
    (hrange : Sent.InRange version { status, config := s.config }) :
    Fits version (s.setStatus status) := by
  refine ⟨hs.profiles, ?_⟩
  intro e he
  rcases List.mem_cons.mp he with rfl | he
  · exact hrange
  · exact hs.sent e he

theorem Fits.configure (hs : Fits version s) (reached : Bool) :
    Fits version (s.configure reached) := by
  rw [State.configure]
  cases hconfig : s.config with
  | none => exact hs
  | some conf =>
    cases reached with
    | false => exact hs
    | true =>
      refine hs.setStatus ?_
      rw [hconfig, inRange_settings_iff]
      exact hs.profiles s.profile conf hconfig

theorem Fits.edit_setStatus (hs : Fits version s) {config : Option Config.SmartShift}
    {status : Status} (hconfig : ∀ conf, config = some conf → FitsByte version conf)
    (hrange : Sent.InRange version { status, config }) :
    Fits version ((s.edit config).setStatus status) := by
  refine (hs.edit hconfig).setStatus ?_
  rw [State.config_edit]
  exact hrange

theorem Fits.config_getD (hs : Fits version s) : FitsByte version (s.config.getD {}) := by
  cases hconfig : s.config with
  | none => exact ⟨nofun, nofun⟩
  | some conf => exact hs.profiles s.profile conf hconfig

theorem Fits.switchTo (hs : Fits version s) (profile : String) (switched reached : Bool) :
    Fits version (switchTo profile switched reached s) := by
  have hprofile : Fits version { s with profile := profile } := ⟨hs.profiles, hs.sent⟩
  rw [SmartShift.switchTo]
  cases switched with
  | false => exact hs
  | true => exact hprofile.configure reached

/-! ### The bus methods -/

theorem Fits.setActive (hs : Fits version s) (active clear : Bool) :
    Fits version (setActive active clear s) := by
  rw [SmartShift.setActive]
  split
  next =>
    refine hs.edit ?_
    intro conf h
    obtain ⟨old, hold, rfl⟩ := Option.map_eq_some_iff.mp h
    have hfits := hs.profiles s.profile old hold
    exact ⟨hfits.threshold, hfits.torque⟩
  next =>
    refine hs.edit_setStatus ?_ ⟨(fun _ h => nomatch h), (fun _ _ h => nomatch h)⟩
    intro conf h
    obtain rfl := Option.some_inj.mp h
    exact ⟨hs.config_getD.threshold, hs.config_getD.torque⟩

theorem clipped_threshold (threshold : UInt8) : (if threshold = 0 then 1 else threshold) ≠ 0 := by
  split
  next => decide
  next hne => exact hne

theorem clipped_torque (torque : UInt8) :
    1 ≤ (if torque = 0 then 1 else if torque > 100 then 100 else torque).toNat ∧
      (if torque = 0 then 1 else if torque > 100 then 100 else torque).toNat ≤ 100 := by
  split
  next => decide
  next hne =>
    split
    next => decide
    next hle =>
      have hpos : torque.toNat ≠ 0 := fun heq => hne (UInt8.toNat_inj.mp heq)
      have hle : torque.toNat ≤ 100 := UInt8.not_lt.mp hle
      omega

theorem Fits.setThreshold (hs : Fits version s) (device : Device) (threshold : UInt8)
    (clear : Bool) : Fits version (setThreshold device threshold clear s) := by
  have hclip := clipped_threshold threshold
  rw [SmartShift.setThreshold]
  generalize (if threshold = 0 then 1 else threshold) = threshold at hclip ⊢
  have hbyte : threshold.toNat ≠ 0 := fun heq => hclip (UInt8.toNat_inj.mp heq)
  dsimp only
  split
  next =>
    refine hs.edit_setStatus ?_ ⟨?_, (fun _ _ h => nomatch h)⟩
    · intro conf h
      obtain ⟨old, hold, rfl⟩ := Option.map_eq_some_iff.mp h
      exact ⟨nofun, (hs.profiles s.profile old hold).torque⟩
    · intro threshold _ h
      cases hconfig : s.config <;> simp [hconfig] at h
  next =>
    refine hs.edit_setStatus ?_ ⟨?_, (fun _ _ h => nomatch h)⟩
    · intro conf h
      obtain rfl := Option.some_inj.mp h
      refine ⟨?_, hs.config_getD.torque⟩
      intro t ht
      obtain rfl := Option.some_inj.mp ht
      have hlt := threshold.toNat_lt
      rw [UInt8.toNat_toUInt32]
      omega
    · intro t _ ht
      obtain rfl := Option.some_inj.mp ht
      exact ⟨hclip, fun _ _ => (UInt8.toNat_toUInt32 threshold).symm⟩

theorem Fits.setTorque (hs : Fits version s) (device : Device) (torque : UInt8) (clear : Bool) :
    Fits version (setTorque device torque clear s) := by
  have hclip := clipped_torque torque
  rw [SmartShift.setTorque]
  generalize (if torque = 0 then 1 else if torque > 100 then 100 else torque) = torque at hclip ⊢
  dsimp only
  split
  next =>
    split
    next =>
      refine hs.edit_setStatus ?_ ⟨(fun _ h => nomatch h), ?_⟩
      · intro conf h
        obtain ⟨old, hold, rfl⟩ := Option.map_eq_some_iff.mp h
        exact ⟨(hs.profiles s.profile old hold).threshold, nofun⟩
      · intro t _ _ h
        cases hconfig : s.config <;> simp [hconfig] at h
    next =>
      refine hs.edit_setStatus ?_ ⟨(fun _ h => nomatch h), ?_⟩
      · intro conf h
        obtain rfl := Option.some_inj.mp h
        refine ⟨hs.config_getD.threshold, ?_⟩
        intro t _ ht
        obtain rfl := Option.some_inj.mp ht
        rw [UInt8.toNat_toUInt32]
        omega
      · rintro t rfl _ _
        exact hclip
  next => exact hs

theorem Fits.step (hs : Fits version s) (device : Device) (label : Label) :
    Fits version (step device s label) := by
  cases label with
  | setProfile profile switched reached =>
    have hnamed : Fits version { s with profileName := profile } := ⟨hs.profiles, hs.sent⟩
    exact hnamed.switchTo profile switched reached
  | clearProfile profile switched reached =>
    have hcleared : Fits version
        { s with profiles := Function.update s.profiles profile none } := by
      refine hs.update ?_ profile
      intro conf h
      cases h
    simp only [SmartShift.step, clearProfile]
    split
    next => exact hcleared.switchTo profile switched reached
    next => exact hcleared
  | wakeup reached => exact hs.configure reached
  | setActive active clear => exact hs.setActive active clear
  | setThreshold threshold clear => exact hs.setThreshold device threshold clear
  | setTorque torque clear => exact hs.setTorque device torque clear

end Steps

/-! ## Runs -/

/-- A configuration that is sent is in range. -/
theorem fitsByte_of_configure {version : Version} {s : State} {conf : Config.SmartShift}
    (hconfig : s.config = some conf) (hsent : SendsInRange version (s.configure true)) :
    FitsByte version conf := by
  rw [State.configure, hconfig] at hsent
  have hrange := hsent _ List.mem_cons_self
  rw [hconfig] at hrange
  exact (inRange_settings_iff version conf).mp hrange

/-- The constructor clips the default profile only. -/
theorem construct_profiles (profiles : String → Option Config.SmartShift)
    (defaultProfile profile : String) :
    (construct profiles defaultProfile).profiles profile =
      if profile = defaultProfile then (profiles profile).map Config.SmartShift.clip
      else profiles profile := by
  change Function.update profiles defaultProfile _ profile = _
  rw [Function.update_apply]
  split
  next heq => rw [heq]
  next => rfl

@[simp] theorem State.profiles_configure (s : State) (reached : Bool) :
    (s.configure reached).profiles = s.profiles := by
  rw [State.configure]
  cases s.config with
  | none => rfl
  | some conf => cases reached <;> rfl

theorem fits_construct {version : Version} {profiles : String → Option Config.SmartShift}
    {defaultProfile : String} (hloaded : LoadedInRange version profiles defaultProfile) :
    Fits version (construct profiles defaultProfile) := by
  refine ⟨?_, fun _ h => nomatch h⟩
  intro profile conf h
  rw [construct_profiles] at h
  split at h
  next heq =>
    obtain ⟨old, hold, rfl⟩ := Option.map_eq_some_iff.mp h
    have hrange := hloaded profile old hold
    rw [if_pos heq] at hrange
    exact (fitsByte_clip_iff version old).mpr hrange
  next hne =>
    have hrange := hloaded profile conf h
    rwa [if_neg hne] at hrange

/-- Every request of every run is in range exactly if the loaded profiles are. -/
theorem sendsInRange_iff_loaded (device : Device)
    (profiles : String → Option Config.SmartShift) (defaultProfile : String) :
    (∀ labels, (machine device profiles defaultProfile).Always (SendsInRange device.version)
        (machine device profiles defaultProfile).init labels) ↔
      LoadedInRange device.version profiles defaultProfile := by
  constructor
  · intro hall profile conf hconf
    have hthere := construct_profiles profiles defaultProfile profile
    rw [hconf] at hthere
    split
    next heq =>
      -- the default profile is sent at once
      subst heq
      rw [if_pos rfl] at hthere
      exact (fitsByte_clip_iff device.version conf).mp
        (fitsByte_of_configure hthere (hall []).head)
    next hne =>
      -- any other one is sent when it is switched to
      rw [if_neg hne] at hthere
      refine fitsByte_of_configure ?_ ((hall [.setProfile profile true true]).2 _ rfl).head
      rw [State.config]
      exact (congrFun (State.profiles_configure _ true) profile).trans hthere
  · intro hloaded labels
    refine Machine.always_of_invariant (fun s hs => hs.sent) ?_ ((fits_construct hloaded).configure true)
    intro s label t hs h
    cases h
    exact hs.step device label

/-- A profile beside the default one, with a threshold of 0. -/
def gamingProfiles (profile : String) : Option Config.SmartShift :=
  if profile = "gaming" then some { threshold := some 0 } else none

/-- Switching to it sends the 0. -/
theorem switched_profile_not_clipped :
    ¬∀ (device : Device) (profiles : String → Option Config.SmartShift) (defaultProfile : String)
      (labels : List Label),
        (machine device profiles defaultProfile).Always (SendsInRange device.version)
          (machine device profiles defaultProfile).init labels := by
  intro h
  have hsent := ((h ⟨.v1, false, ⟨10, 0⟩⟩ gamingProfiles "default"
    [.setProfile "gaming" true true]).2 _ rfl).head
  have hconfig : gamingProfiles "gaming" = some { threshold := some 0 } := if_pos rfl
  have hthere := construct_profiles gamingProfiles "default" "gaming"
  rw [if_neg (by decide), hconfig, ← State.profiles_configure _ true] at hthere
  have hfits := @fitsByte_of_configure .v1
    { (construct gamingProfiles "default").configure true with
      profile := "gaming"
      profileName := "gaming" } _ hthere hsent
  exact hfits.threshold 0 rfl rfl

end Logid.Features.SmartShift
