import Logid.Config.Proofs.Load
import Logid.Proofs.Profiles

/-!
# The profiles of an entry of the configuration

An entry of `devices` is read as a device or, where that throws, as a profile, which takes every
group. So it depends on the other mandatory member of a device, `default_profile`, whether the list
of profiles that stands in the entry is read at all.
-/

namespace Logid.Config

open Setting
open Profiles (stringLess_linear)

variable {β : Type} {keyName : String} {value : ConfigIo β}

/-! ## Maps with names as their keys -/

theorem stringIo_get_iff {s : Setting} {k : String} : stringIo.get s = .ok k ↔ s = .string k := by
  cases s <;> simp [stringIo, primitiveIo]

theorem lookup_eq_ok_iff {s child : Setting} {name : String} :
    s.lookup name = .ok child ↔ s.lookup? name = some child := by
  rw [lookup]
  cases s.lookup? name <;> simp

theorem member_getIn {s child : Setting} {name : String} (io : ConfigIo β)
    (h : s.lookup? name = some child) : io.member.getIn s name = io.get child := by
  simp only [ConfigIo.member, lookup, h]
  rfl

theorem stringIo_getIn_iff {s : Setting} {name k : String} :
    stringIo.member.getIn s name = .ok k ↔ s.lookup? name = some (.string k) := by
  cases h : s.lookup? name with
  | none => simp [ConfigIo.member, lookup, h, bind, Except.bind]
  | some child => rw [member_getIn stringIo h, stringIo_get_iff, Option.some_inj]

theorem bind_eq_ok_iff {α γ : Type} {x : Except SettingException α}
    {f : α → Except SettingException γ} {c : γ} :
    (x >>= f) = .ok c ↔ ∃ a, x = .ok a ∧ f a = .ok c := by
  cases x <;> simp [bind, Except.bind]

theorem getEntry_eq_ok_iff {e : Setting} {k : String} {v : β} :
    getEntry keyName stringIo value e = .ok (k, v) ↔
      e.lookup? keyName = some (.string k) ∧ value.get e = .ok v := by
  simp only [getEntry, bind_eq_ok_iff, pure, Except.pure, Except.ok.injEq, Prod.mk.injEq,
    stringIo_get_iff, lookup_eq_ok_iff]
  constructor
  · intro h
    obtain ⟨child, hlookup, k', hkey, v', hvalue, rfl, rfl⟩ := h
    rw [← hkey]
    exact ⟨hlookup, hvalue⟩
  · intro h
    obtain ⟨hlookup, hvalue⟩ := h
    exact ⟨_, hlookup, k, rfl, v, hvalue, rfl, rfl⟩

/-- What `mapIo` finds in the children of a setting. -/
def findEntry (keyName : String) (value : ConfigIo β) (elems : List Setting) (k : String) :
    Option β :=
  ((elems.filterMap fun e => (getEntry keyName stringIo value e).toOption).find?
    fun e => SortedMap.equiv stringLess k e.1).map Prod.snd

theorem find?_mapIo (keyName : String) (value : ConfigIo β) (s : Setting) :
    ∃ m : SortedMap String β stringLess, (mapIo keyName stringIo value).get s = .ok m ∧
      ∀ k, m.find? k = findEntry keyName value s.elems k := by
  refine ⟨_, rfl, fun k => ?_⟩
  rw [SortedMap.find?_foldl_emplace stringLess_linear.weak]
  rfl

/-- Only the first entry of a name counts. -/
theorem findEntry_of_first {before after : List Setting} {e : Setting} {k : String} {v : β}
    (hbefore : ∀ b ∈ before, b.lookup? keyName ≠ some (.string k))
    (he : getEntry keyName stringIo value e = .ok (k, v)) :
    findEntry keyName value (before ++ e :: after) k = some v := by
  rw [findEntry]
  induction before with
  | nil =>
    have hself : SortedMap.equiv stringLess k k = true :=
      (SortedMap.equiv_iff stringLess_linear).mpr rfl
    simp [he, Except.toOption, hself]
  | cons b before ih =>
    have hrest := ih fun b' hb' => hbefore b' (List.mem_cons_of_mem b hb')
    rw [List.cons_append, List.filterMap_cons]
    cases hb : getEntry keyName stringIo value b with
    | error err => exact hrest
    | ok x =>
      obtain ⟨k', v'⟩ := x
      have hne : k ≠ k' := by
        intro heq
        subst heq
        exact hbefore b List.mem_cons_self (getEntry_eq_ok_iff.mp hb).1
      simp only [Except.toOption, List.find?_cons, SortedMap.equiv_of_ne stringLess_linear hne]
      exact hrest

theorem exists_of_findEntry {elems : List Setting} {k : String} {v : β}
    (h : findEntry keyName value elems k = some v) :
    ∃ e ∈ elems, getEntry keyName stringIo value e = .ok (k, v) := by
  obtain ⟨⟨k', v'⟩, hfind, hv⟩ := Option.map_eq_some_iff.mp h
  have hmem := List.mem_of_find?_eq_some hfind
  have hequiv : SortedMap.equiv stringLess k k' = true := by
    simpa only using List.find?_some hfind
  have hk : k = k' := (SortedMap.equiv_iff stringLess_linear).mp hequiv
  obtain ⟨e, he, hdecoded⟩ := List.mem_filterMap.mp hmem
  refine ⟨e, he, ?_⟩
  cases hget : getEntry keyName stringIo value e with
  | error err => simp [hget, Except.toOption] at hdecoded
  | ok x =>
    rw [hget] at hdecoded
    cases hdecoded
    rw [hk, ← hv]

/-- Where no two children have one name, each that can be read is found. -/
theorem findEntry_eq_some_iff {elems : List Setting}
    (hdistinct : (elems.map fun e => e.lookup? keyName).Nodup) {k : String} {v : β} :
    findEntry keyName value elems k = some v ↔
      ∃ e ∈ elems, getEntry keyName stringIo value e = .ok (k, v) := by
  refine ⟨exists_of_findEntry, ?_⟩
  intro h
  obtain ⟨e, he, hget⟩ := h
  obtain ⟨before, after, rfl⟩ := List.append_of_mem he
  apply findEntry_of_first _ hget
  intro b hb heq
  rw [List.map_append, List.map_cons, List.nodup_append] at hdistinct
  apply hdistinct.2.2 (b.lookup? keyName) (List.mem_map_of_mem hb) (e.lookup? keyName)
    List.mem_cons_self
  rw [heq, (getEntry_eq_ok_iff.mp hget).1]

end Logid.Config

namespace Logid.Profiles

open Config (Setting ConfigIo Profile stringLess stringIo keys.name)
open Config.Setting (member?)

/-- A group of the list `devices` with a well-formed list `profiles`. -/
structure DeviceEntry where
  members : List (String × Setting)
  name : String
  profiles : List Setting
  name_eq : member? members keys.name = some (.string name)
  profiles_eq : member? members "profiles" = some (.list profiles)
  nonempty : profiles ≠ []
  groups : ∀ e ∈ profiles, ∃ ms k, e = .group ms ∧ member? ms keys.name = some (.string k)
  distinct : (profiles.map fun e => e.lookup? keys.name).Nodup

/-- One profile for each element of the list, under its name and as the element is read, and no
other. -/
def ProfilesOf (list : List Setting) (profiles : SortedMap String Profile stringLess) : Prop :=
  ∀ k p, profiles.find? k = some p ↔
    ∃ e ∈ list, Config.getEntry keys.name stringIo Profile.group.io e = .ok (k, p)

def DeviceConfig.values (conf : DeviceConfig) : SortedMap String Profile stringLess :=
  conf.profiles.mapValues fun _ node => node.profile

namespace DeviceEntry

/-- The configuration is loaded and `_getConfig` finds the profiles of the list. -/
def KeepsProfiles (entry : DeviceEntry) (root : Setting) : Prop :=
  ∃ config, Config.Config.group.io.get root = .ok config ∧
    ProfilesOf entry.profiles (getConfig (loaded config) entry.name).values

/-- `default_profile` is there and is a string. -/
def HasDefault (entry : DeviceEntry) : Prop :=
  ∃ profile, member? entry.members "default_profile" = some (.string profile)

/-- The list is one profile named `default`, and what a profile reads from it could also be read
from the entry itself. -/
def RepeatsDefault (entry : DeviceEntry) : Prop :=
  ∃ e, entry.profiles = [e] ∧ e.lookup? keys.name = some (.string "default") ∧
    ∀ m ∈ Profile.group.members, m.io.getIn e m.name = m.io.getIn (.group entry.members) m.name

/-- A profile has no mandatory member, and each field is what its member reads. -/
theorem profile_get_ok (s : Setting) :
    ∃ p, Profile.group.io.get s = .ok p ∧
      ∀ m ∈ Profile.group.members, m.io.getIn s m.name = .ok (m.field p) := by
  obtain ⟨dpi, hdpi⟩ := Config.optionalIo_getIn_ok Config.dpiIo s "dpi"
  obtain ⟨presets, hpresets⟩ :=
    Config.optionalIo_getIn_ok (Config.listIo Config.DpiPreset.group.io) s "dpi_presets"
  obtain ⟨smartshift, hsmartshift⟩ :=
    Config.optionalIo_getIn_ok Config.SmartShift.group.io s "smartshift"
  obtain ⟨hiresscroll, hhiresscroll⟩ :=
    Config.optionalIo_getIn_ok Config.hiresscrollIo s "hiresscroll"
  obtain ⟨buttons, hbuttons⟩ := Config.optionalIo_getIn_ok Config.remapButtonIo s "buttons"
  obtain ⟨thumbwheel, hthumbwheel⟩ :=
    Config.optionalIo_getIn_ok Config.ThumbWheel.group.io s "thumbwheel"
  refine ⟨⟨dpi, presets, smartshift, hiresscroll, thumbwheel, buttons⟩, ?_, ?_⟩
  · show Config.groupGet _ Profile.group.members _ = _
    simp only [Profile.group, Config.groupGet, hdpi, hpresets, hsmartshift, hhiresscroll, hbuttons,
      hthumbwheel]
  · simp only [Profile.group, List.forall_mem_cons]
    exact ⟨hdpi, hpresets, hsmartshift, hhiresscroll, hbuttons, hthumbwheel,
      fun _ h => nomatch h⟩

theorem profile_get_eq_iff {s s' : Setting} :
    Profile.group.io.get s = Profile.group.io.get s' ↔
      ∀ m ∈ Profile.group.members, m.io.getIn s m.name = m.io.getIn s' m.name := by
  constructor
  · intro h m hm
    obtain ⟨p, hp, hread⟩ := profile_get_ok s
    obtain ⟨p', hp', hread'⟩ := profile_get_ok s'
    rw [hp, hp', Except.ok.injEq] at h
    rw [hread m hm, hread' m hm, h]
  · intro h
    exact Config.groupGet_congr h {}

variable (entry : DeviceEntry)

theorem exists_getEntry {e : Setting} (he : e ∈ entry.profiles) :
    ∃ k p, Config.getEntry keys.name stringIo Profile.group.io e = .ok (k, p) := by
  obtain ⟨ms, k, rfl, hname⟩ := entry.groups e he
  obtain ⟨p, hp, -⟩ := profile_get_ok (.group ms)
  exact ⟨k, p, Config.getEntry_eq_ok_iff.mpr ⟨hname, hp⟩⟩

theorem entries_ne_nil {profiles : SortedMap String Profile stringLess}
    (h : ProfilesOf entry.profiles profiles) : profiles.entries ≠ [] := by
  intro hnil
  obtain ⟨e, he⟩ := List.exists_mem_of_ne_nil _ entry.nonempty
  obtain ⟨k, p, hget⟩ := entry.exists_getEntry he
  have hfind : profiles.find? k = some p := (h k p).mpr ⟨e, he, hget⟩
  rw [SortedMap.find?, hnil] at hfind
  cases hfind

theorem device_get_of_hasDefault (h : entry.HasDefault) :
    ∃ conf, Config.Device.group.io.get (.group entry.members) = .ok conf ∧
      ProfilesOf entry.profiles conf.profiles := by
  obtain ⟨profile, hdefault⟩ := h
  obtain ⟨m, hget, hfind⟩ :=
    Config.find?_mapIo keys.name Profile.group.io (.list entry.profiles)
  have hprofile : stringIo.member.getIn (.group entry.members) "default_profile" = .ok profile :=
    Config.stringIo_getIn_iff.mpr hdefault
  have hprofiles : Config.profilesIo.member.getIn (.group entry.members) "profiles" = .ok m :=
    (Config.member_getIn (s := .group entry.members) _ entry.profiles_eq).trans hget
  refine ⟨{ defaultProfile := profile, profiles := m }, ?_, ?_⟩
  · show Config.groupGet _ Config.Device.group.members _ = _
    simp only [Config.Device.group, Config.groupGet, hprofile, hprofiles]
  · intro k p
    rw [hfind]
    exact Config.findEntry_eq_some_iff entry.distinct

theorem device_get_of_not (h : ¬ entry.HasDefault) :
    ∃ err, Config.Device.group.io.get (.group entry.members) = .error err := by
  refine ⟨.type, ?_⟩
  show Config.groupGet _ Config.Device.group.members _ = _
  simp only [Config.Device.group, Config.groupGet]
  cases hprofile : stringIo.member.getIn (.group entry.members) "default_profile" with
  | error err => rfl
  | ok profile => exact absurd ⟨profile, Config.stringIo_getIn_iff.mp hprofile⟩ h

end DeviceEntry

/-! ## From the file to the daemon -/

theorem load_devices {root devices : Setting} (hroot : root.lookup? "devices" = some devices) :
    ∃ config m, Config.Config.group.io.get root = .ok config ∧ config.devices = some m ∧
      ∀ k, m.find? k = Config.findEntry keys.name
        (Config.variantIo Config.Device.group.io Profile.group.io) devices.elems k := by
  obtain ⟨m, hget, hfind⟩ := Config.find?_mapIo keys.name
    (Config.variantIo Config.Device.group.io Profile.group.io) devices
  have hdevices : (Config.optionalIo Config.devicesIo).getIn root "devices" = .ok (some m) := by
    simp only [Config.optionalIo, hroot, Config.devicesIo, hget]
    rfl
  obtain ⟨ignore, hignore⟩ := Config.optionalIo_getIn_ok Config.ignoreIo root "ignore"
  obtain ⟨timeout, htimeout⟩ := Config.optionalIo_getIn_ok Config.doubleIo root "io_timeout"
  obtain ⟨workers, hworkers⟩ := Config.optionalIo_getIn_ok Config.intIo root "workers"
  refine ⟨⟨some m, ignore, timeout, workers⟩, m, ?_, rfl, hfind⟩
  show Config.groupGet _ Config.Config.group.members _ = _
  simp only [Config.Config.group, Config.groupGet, hdevices, hignore, htimeout, hworkers]

section Loaded

variable {config : Config.Config} {devices : Config.Devices} {name : String}

theorem values_of_device (hdevices : config.devices = some devices) {conf : Config.Device}
    (hfind : devices.find? name = some (.inl conf)) (hsome : conf.profiles.entries ≠ []) :
    (getConfig (loaded config) name).values = conf.profiles := by
  simp only [getConfig, loaded, hdevices, Option.getD_some, SortedMap.find?_mapValues, hfind,
    Option.map_some, Sum.map_inl]
  rw [if_neg]
  · apply SortedMap.ext
    simp [DeviceConfig.values, SortedMap.mapValues, Function.comp_def]
  · simpa [SortedMap.mapValues] using hsome

theorem values_of_profile (hdevices : config.devices = some devices) {profile : Profile}
    (hfind : devices.find? name = some (.inr profile)) :
    (getConfig (loaded config) name).values = SortedMap.empty.emplace "default" profile := by
  simp only [getConfig, loaded, hdevices, Option.getD_some, SortedMap.find?_mapValues, hfind,
    Option.map_some, Sum.map_inr]
  rfl

end Loaded

namespace DeviceEntry

/-- Profiles that all have one name are one profile. -/
theorem eq_singleton (entry : DeviceEntry) {k : String}
    (h : ∀ e ∈ entry.profiles, e.lookup? keys.name = some (.string k)) :
    ∃ e, entry.profiles = [e] := by
  have hdistinct := entry.distinct
  obtain ⟨e, rest, hlist⟩ := List.exists_cons_of_ne_nil entry.nonempty
  rw [hlist] at h hdistinct
  cases rest with
  | nil => exact ⟨e, hlist⟩
  | cons e' rest =>
    have he := h e (by simp)
    have he' := h e' (by simp)
    simp [he, he'] at hdistinct

/-- The one profile that the entry is without `default_profile` is its list, where that is no more. -/
theorem profilesOf_single_iff (entry : DeviceEntry) {profile : Profile}
    (hprofile : Profile.group.io.get (.group entry.members) = .ok profile) :
    ProfilesOf entry.profiles (SortedMap.empty.emplace "default" profile) ↔
      entry.RepeatsDefault := by
  constructor
  · intro h
    have hall : ∀ e ∈ entry.profiles, e.lookup? keys.name = some (.string "default") ∧
        Profile.group.io.get e = .ok profile := by
      intro e he
      obtain ⟨k, p, hget⟩ := entry.exists_getEntry he
      have hfind := (h k p).mpr ⟨e, he, hget⟩
      obtain ⟨rfl, rfl⟩ := (SortedMap.find?_single_iff stringLess_linear).mp hfind
      exact Config.getEntry_eq_ok_iff.mp hget
    obtain ⟨e, hlist⟩ := entry.eq_singleton fun e he => (hall e he).1
    obtain ⟨hname, hget⟩ := hall e (by simp [hlist])
    exact ⟨e, hlist, hname, profile_get_eq_iff.mp (hget.trans hprofile.symm)⟩
  · intro h k p
    obtain ⟨e, hlist, hname, hread⟩ := h
    have hget : Profile.group.io.get e = .ok profile :=
      (profile_get_eq_iff.mpr hread).trans hprofile
    rw [SortedMap.find?_single_iff stringLess_linear, hlist]
    constructor
    · intro h
      obtain ⟨rfl, rfl⟩ := h
      exact ⟨e, List.mem_singleton_self e, Config.getEntry_eq_ok_iff.mpr ⟨hname, hget⟩⟩
    · intro h
      obtain ⟨e', he', hentry⟩ := h
      rw [List.mem_singleton.mp he'] at hentry
      obtain ⟨hname', hget'⟩ := Config.getEntry_eq_ok_iff.mp hentry
      rw [hname, Option.some_inj, Setting.string.injEq] at hname'
      rw [hget, Except.ok.injEq] at hget'
      exact ⟨hname'.symm, hget'.symm⟩

/-- The profiles of an entry are kept exactly when `default_profile` is a string beside them, or the
list is no more than what the entry is as a profile. -/
theorem keepsProfiles_iff (entry : DeviceEntry) {root devices : Setting}
    {before after : List Setting} (hroot : root.lookup? "devices" = some devices)
    (hentry : devices.elems = before ++ .group entry.members :: after)
    (hfirst : ∀ e ∈ before, e.lookup? keys.name ≠ some (.string entry.name)) :
    entry.KeepsProfiles root ↔ entry.HasDefault ∨ entry.RepeatsDefault := by
  obtain ⟨config, m, hload, hdevices, hfind⟩ := load_devices hroot
  have hkeeps : entry.KeepsProfiles root ↔
      ProfilesOf entry.profiles (getConfig (loaded config) entry.name).values := by
    constructor
    · intro h
      obtain ⟨config', hload', hprofiles⟩ := h
      rw [hload, Except.ok.injEq] at hload'
      rw [hload']
      exact hprofiles
    · intro h
      exact ⟨config, hload, h⟩
  have hread : ∀ value : Config.Device ⊕ Profile,
      (Config.variantIo Config.Device.group.io Profile.group.io).get (.group entry.members) =
        .ok value → m.find? entry.name = some value := by
    intro value hvalue
    rw [hfind, hentry]
    apply Config.findEntry_of_first hfirst
    exact Config.getEntry_eq_ok_iff.mpr ⟨entry.name_eq, hvalue⟩
  rw [hkeeps]
  by_cases hdefault : entry.HasDefault
  · obtain ⟨conf, hget, hprofiles⟩ := entry.device_get_of_hasDefault hdefault
    have hvalue := hread (.inl conf) (by simp only [Config.variantIo, hget])
    rw [values_of_device hdevices hvalue]
    · exact iff_of_true hprofiles (.inl hdefault)
    · exact entry.entries_ne_nil hprofiles
  · obtain ⟨err, herr⟩ := entry.device_get_of_not hdefault
    obtain ⟨profile, hprofile, -⟩ := profile_get_ok (.group entry.members)
    have hvalue := hread (.inr profile) (by simp only [Config.variantIo, herr, hprofile]; rfl)
    rw [values_of_profile hdevices hvalue, profilesOf_single_iff entry hprofile,
      or_iff_right hdefault]

/-- A file with nothing but the entry. -/
def file (entry : DeviceEntry) : Setting := .group [("devices", .list [.group entry.members])]

def gaming : Setting := .group [("name", .string "gaming"), ("dpi", .int 800)]

/-- One profile, and after it the members that are given. -/
def mouseWith (rest : List (String × Setting)) : DeviceEntry where
  members := [("name", .string "MX Master 3"), ("profiles", .list [gaming])] ++ rest
  name := "MX Master 3"
  profiles := [gaming]
  name_eq := rfl
  profiles_eq := rfl
  nonempty := by simp
  groups := by
    intro e he
    rw [List.mem_singleton.mp he]
    exact ⟨_, "gaming", rfl, rfl⟩
  distinct := by simp

theorem keepsProfiles_gaming :
    (mouseWith [("default_profile", .string "gaming")]).KeepsProfiles
      (mouseWith [("default_profile", .string "gaming")]).file := by
  refine (keepsProfiles_iff (mouseWith _) rfl (List.nil_append _).symm ?_).mpr (.inl ⟨"gaming", rfl⟩)
  exact fun _ h => nomatch h

/-- `default_profile` is missing. -/
theorem gaming_lost : ¬ (mouseWith []).KeepsProfiles (mouseWith []).file := by
  have hlost : (Config.Config.group.io.get (mouseWith []).file).toOption.map
      (fun config => (getConfig (loaded config) "MX Master 3").values.find? "gaming") =
        some none := by decide
  intro h
  obtain ⟨config, hload, hprofiles⟩ := h
  rw [hload] at hlost
  have hgaming : Config.getEntry keys.name stringIo Profile.group.io gaming =
      .ok ("gaming", { dpi := some (.inl 800) }) := rfl
  have hfind := (hprofiles _ _).mpr ⟨gaming, List.mem_singleton_self _, hgaming⟩
  rw [show (mouseWith []).name = "MX Master 3" from rfl] at hfind
  simp [Except.toOption, hfind] at hlost

end DeviceEntry

end Logid.Profiles
