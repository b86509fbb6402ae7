import Logid.Config.Schema
import Logid.Config.Proofs.Codec
import Logid.Configuration

/-!
# The configuration is read back as it was written

Every record of the schema has a lawful codec (`Codec`), so what is written into a new place is read
back. What is there before matters in one place only: the codecs of maps and sets keep an array
under their name, where they mean to keep a list, and an array takes no groups.
-/

namespace Logid.Config

open Setting

/-! ## The schema -/

theorem NoAction.lawful :
    LawfulGroup NoAction.group.io NoAction.group.names NoAction.group.Signed :=
  Group.lawful trivial (by decide) fun _ => rfl

theorem keysIo_lawful : LawfulOn keysIo (OfType [.string, .int, .list]) := by
  have hkey : LawfulOn (variantIo uintIo stringIo) (OfType [.int, .string]) :=
    variantIo_lawful_types uintIo_lawful stringIo_lawful (uintIo_rejects (by decide))
  have hrest : LawfulOn (variantIo uintIo (listIo (variantIo uintIo stringIo)))
      (OfType [.int, .list]) :=
    variantIo_lawful_types uintIo_lawful (listIo_lawful hkey) (uintIo_rejects (by decide))
  exact variantIo_lawful_types stringIo_lawful hrest (stringIo_rejects (by decide))

theorem KeypressAction.lawful : LawfulGroup KeypressAction.group.io KeypressAction.group.names
    KeypressAction.group.Signed :=
  Group.lawful (optionalIo_lawful keysIo_lawful) (by decide) fun _ => rfl

theorem ToggleSmartShift.lawful : LawfulGroup ToggleSmartShift.group.io
    ToggleSmartShift.group.names ToggleSmartShift.group.Signed :=
  Group.lawful trivial (by decide) fun _ => rfl

theorem ToggleHiresScroll.lawful : LawfulGroup ToggleHiresScroll.group.io
    ToggleHiresScroll.group.names ToggleHiresScroll.group.Signed :=
  Group.lawful trivial (by decide) fun _ => rfl

theorem CycleDPI.lawful :
    LawfulGroup CycleDPI.group.io CycleDPI.group.names CycleDPI.group.Signed :=
  Group.lawful ⟨optionalIo_lawful (listIo_lawful intIo_lawful), optionalIo_lawful intIo_lawful⟩
    (by decide) fun _ => rfl

theorem ChangeDPI.lawful :
    LawfulGroup ChangeDPI.group.io ChangeDPI.group.names ChangeDPI.group.Signed :=
  Group.lawful ⟨optionalIo_lawful intIo_lawful, optionalIo_lawful intIo_lawful⟩
    (by decide) fun _ => rfl

theorem ChangeHost.lawful :
    LawfulGroup ChangeHost.group.io ChangeHost.group.names ChangeHost.group.Signed := by
  have hhost : LawfulOn (variantIo intIo stringIo) (OfType [.int, .string]) :=
    variantIo_lawful_types intIo_lawful stringIo_lawful (intIo_rejects (by decide))
  exact Group.lawful (optionalIo_lawful hhost) (by decide) fun _ => rfl

theorem ChangeProfile.lawful :
    LawfulGroup ChangeProfile.group.io ChangeProfile.group.names ChangeProfile.group.Signed :=
  Group.lawful (optionalIo_lawful stringIo_lawful) (by decide) fun _ => rfl

theorem BasicAction.io_lawful : LawfulOn BasicAction.io (OfType [.group]) := by
  have hprofile := Group.tagged rfl ChangeProfile.lawful
  have hhost := variantIo_lawful_signed rfl ChangeHost.lawful hprofile (by decide)
  have hchange := variantIo_lawful_signed rfl ChangeDPI.lawful hhost (by decide)
  have hcycle := variantIo_lawful_signed rfl CycleDPI.lawful hchange (by decide)
  have hhires := variantIo_lawful_signed rfl ToggleHiresScroll.lawful hcycle (by decide)
  have hshift := variantIo_lawful_signed rfl ToggleSmartShift.lawful hhires (by decide)
  have hkeypress := variantIo_lawful_signed rfl KeypressAction.lawful hshift (by decide)
  have hnone := variantIo_lawful_signed rfl NoAction.lawful hkeypress (by decide)
  exact reinterpretIo_lawful hnone.lawfulOn ofAlternatives_toAlternatives

theorem AxisGesture.lawful :
    LawfulGroup AxisGesture.group.io AxisGesture.group.names AxisGesture.group.Signed := by
  have haxis : LawfulOn (variantIo stringIo uintIo) (OfType [.string, .int]) :=
    variantIo_lawful_types stringIo_lawful uintIo_lawful (stringIo_rejects (by decide))
  exact Group.lawful ⟨optionalIo_lawful intIo_lawful, optionalIo_lawful haxis,
    optionalIo_lawful doubleIo_lawful⟩ (by decide) fun _ => rfl

theorem IntervalGesture.lawful (name : String) : LawfulGroup (groupNamed name).io
    (groupNamed name).names (groupNamed name).Signed :=
  Group.lawful ⟨optionalIo_lawful intIo_lawful, optionalIo_lawful BasicAction.io_lawful,
    optionalIo_lawful intIo_lawful⟩
    (show ["mode", "threshold", "action", "interval"].Nodup by decide) fun _ => rfl

theorem ReleaseGesture.lawful :
    LawfulGroup ReleaseGesture.group.io ReleaseGesture.group.names ReleaseGesture.group.Signed :=
  Group.lawful ⟨optionalIo_lawful intIo_lawful, optionalIo_lawful BasicAction.io_lawful⟩
    (by decide) fun _ => rfl

theorem ThresholdGesture.lawful : LawfulGroup ThresholdGesture.group.io
    ThresholdGesture.group.names ThresholdGesture.group.Signed :=
  Group.lawful ⟨optionalIo_lawful intIo_lawful, optionalIo_lawful BasicAction.io_lawful⟩
    (by decide) fun _ => rfl

theorem NoGesture.lawful :
    LawfulGroup NoGesture.group.io NoGesture.group.names NoGesture.group.Signed :=
  Group.lawful (optionalIo_lawful intIo_lawful) (by decide) fun _ => rfl

/-- The names that the codec of a gesture looks at; the key of the map is not one of them. -/
theorem Gesture.io_lawful : ∃ names P, keys.direction ∉ names ∧
    LawfulGroup Gesture.io names P := by
  have hthreshold := Group.tagged rfl ThresholdGesture.lawful
  have hrelease := variantIo_lawful_signed rfl ReleaseGesture.lawful hthreshold (by decide)
  have hfew := variantIo_lawful_signed rfl (IntervalGesture.lawful "OnFewPixels") hrelease
    (by decide)
  have hinterval := variantIo_lawful_signed rfl (IntervalGesture.lawful "OnInterval") hfew
    (by decide)
  have haxis := variantIo_lawful_signed rfl AxisGesture.lawful hinterval (by decide)
  have hnone := variantIo_lawful_signed rfl NoGesture.lawful haxis (by decide)
  refine ⟨_, _, ?_, reinterpretIo_lawfulGroup hnone ofAlternatives_toAlternatives⟩
  decide

theorem Gesture.io_lawfulOn : LawfulOn Gesture.io (OfType [.group]) := by
  obtain ⟨_, _, _, hlawful⟩ := Gesture.io_lawful
  exact hlawful.lawfulOn

theorem GestureAction.lawful :
    LawfulGroup GestureAction.group.io GestureAction.group.names GestureAction.group.Signed := by
  obtain ⟨_, _, hkey, hgesture⟩ := Gesture.io_lawful
  exact Group.lawful (optionalIo_lawful (mapIo_lawful stringIo_lawful hgesture hkey))
    (by decide) fun _ => rfl

theorem Action.io_lawful : LawfulOn Action.io (OfType [.group]) := by
  have hgesture := Group.tagged rfl GestureAction.lawful
  have hprofile := variantIo_lawful_signed rfl ChangeProfile.lawful hgesture (by decide)
  have hhost := variantIo_lawful_signed rfl ChangeHost.lawful hprofile (by decide)
  have hchange := variantIo_lawful_signed rfl ChangeDPI.lawful hhost (by decide)
  have hcycle := variantIo_lawful_signed rfl CycleDPI.lawful hchange (by decide)
  have hhires := variantIo_lawful_signed rfl ToggleHiresScroll.lawful hcycle (by decide)
  have hshift := variantIo_lawful_signed rfl ToggleSmartShift.lawful hhires (by decide)
  have hkeypress := variantIo_lawful_signed rfl KeypressAction.lawful hshift (by decide)
  have hnone := variantIo_lawful_signed rfl NoAction.lawful hkeypress (by decide)
  exact reinterpretIo_lawful hnone.lawfulOn ofAlternatives_toAlternatives

theorem Button.lawful : LawfulGroup Button.group.io Button.group.names Button.group.Signed :=
  Group.lawful (optionalIo_lawful Action.io_lawful) (by decide) fun _ => rfl

theorem SmartShift.lawful :
    LawfulGroup SmartShift.group.io SmartShift.group.names SmartShift.group.Signed :=
  Group.lawful ⟨optionalIo_lawful boolIo_lawful, optionalIo_lawful uintIo_lawful,
    optionalIo_lawful uintIo_lawful⟩ (by decide) fun _ => rfl

theorem HiresScroll.lawful :
    LawfulGroup HiresScroll.group.io HiresScroll.group.names HiresScroll.group.Signed :=
  Group.lawful ⟨optionalIo_lawful boolIo_lawful, optionalIo_lawful boolIo_lawful,
    optionalIo_lawful boolIo_lawful, optionalIo_lawful Gesture.io_lawfulOn,
    optionalIo_lawful Gesture.io_lawfulOn⟩ (by decide) fun _ => rfl

theorem DpiPreset.lawful :
    LawfulGroup DpiPreset.group.io DpiPreset.group.names DpiPreset.group.Signed :=
  Group.lawful ⟨intIo.member_lawful intIo_lawful, optionalIo_lawful stringIo_lawful⟩
    (by decide) fun _ => rfl

theorem ThumbWheel.lawful :
    LawfulGroup ThumbWheel.group.io ThumbWheel.group.names ThumbWheel.group.Signed :=
  Group.lawful ⟨optionalIo_lawful boolIo_lawful, optionalIo_lawful boolIo_lawful,
    optionalIo_lawful Gesture.io_lawfulOn, optionalIo_lawful Gesture.io_lawfulOn,
    optionalIo_lawful BasicAction.io_lawful, optionalIo_lawful BasicAction.io_lawful,
    optionalIo_lawful BasicAction.io_lawful⟩ (by decide) fun _ => rfl

theorem Profile.lawful :
    LawfulGroup Profile.group.io Profile.group.names Profile.group.Signed := by
  have hdpi : LawfulOn dpiIo (OfType [.int, .list]) :=
    variantIo_lawful_types intIo_lawful (listIo_lawful intIo_lawful) (intIo_rejects (by decide))
  have hhires : LawfulOn hiresscrollIo (OfType [.boolean, .group]) :=
    variantIo_lawful_types boolIo_lawful HiresScroll.lawful.lawfulOn (boolIo_rejects (by decide))
  have hbuttons : LawfulOn remapButtonIo (OfType [.list]) :=
    mapIo_lawful uint16Io_lawful Button.lawful (by decide)
  exact Group.lawful ⟨optionalIo_lawful hdpi,
    optionalIo_lawful (listIo_lawful DpiPreset.lawful.lawfulOn),
    optionalIo_lawful SmartShift.lawful.lawfulOn, optionalIo_lawful hhires,
    optionalIo_lawful hbuttons, optionalIo_lawful ThumbWheel.lawful.lawfulOn⟩
    (by decide) fun _ => rfl

theorem Device.lawful : LawfulGroup Device.group.io Device.group.names Device.group.Signed := by
  have hprofiles : LawfulOn profilesIo (OfType [.list]) :=
    mapIo_lawful stringIo_lawful Profile.lawful (by decide)
  exact Group.lawful ⟨stringIo.member_lawful stringIo_lawful, profilesIo.member_lawful hprofiles⟩
    (by decide) fun _ => rfl

/-- A bare profile is not taken for a device: it has no default profile. -/
theorem deviceOrProfile_lawful : LawfulGroup (variantIo Device.group.io Profile.group.io)
    (Device.group.names ++ Profile.group.names) fun _ => True := by
  have hprofile : LawfulGroup Profile.group.io Profile.group.names
      fun ms => member? ms "default_profile" = none := by
    intro t
    obtain ⟨ms, -, henc⟩ := Profile.lawful t
    refine ⟨ms, member?_eq_none.mpr ?_, henc⟩
    intro hmem
    obtain ⟨m, hm, heq⟩ := List.mem_map.mp hmem
    have hname := henc.keys m hm
    rw [heq] at hname
    exact absurd hname (by decide)
  refine variantIo_lawfulGroup Device.lawful hprofile ?_ (fun _ _ => trivial) fun _ _ => trivial
  intro ms ms' hms hagree
  have hnone : member? ms' "default_profile" = none := by
    rw [hagree "default_profile" (by decide), hms]
  refine ⟨.type, ?_⟩
  show groupGet (.group ms') Device.group.members _ = _
  simp only [Device.group, groupGet, ConfigIo.member, lookup, lookup?, hnone, bind, Except.bind]

/-! ## The members of the root -/

/-- Saved under its name into the group, the value is read back. -/
def RoundTrips {α : Type} (io : MemberIo α) (root : List (String × Setting)) (name : String)
    (t : α) : Prop :=
  ∃ root', io.setIn (.group root) name t = .ok root' ∧ io.getIn root' name = .ok t

theorem optionalIo_getIn_some {α : Type} {io : ConfigIo α} {ms : List (String × Setting)}
    {name : String} {x : Setting} {t : α} (hm : member? ms name = some x) (hget : io.get x = .ok t) :
    (optionalIo io).getIn (.group ms) name = .ok (some t) := by
  simp only [optionalIo, lookup?, hm, hget]
  rfl

/-- An array keeps out the group that `setEntry` adds. -/
theorem setEntry_array {κ β : Type} (keyName : String) (key : ConfigIo κ) (value : ConfigIo β)
    (x : κ × β) : setEntry keyName key value (.array []) x = .error .type := rfl

theorem mapIo_roundTrips_iff {κ β : Type} {less : KeyLess κ} {keyName : String} {key : ConfigIo κ}
    {value : ConfigIo β} {names : List String} {P : Setting → Prop}
    {Q : List (String × Setting) → Prop} (hkey : LawfulOn key P)
    (hvalue : LawfulGroup value names Q) (hname : keyName ∉ names) (t : SortedMap κ β less)
    (root : List (String × Setting)) (name : String) :
    RoundTrips (optionalIo (mapIo keyName key value)) root name (some t) ↔
      (∀ elems, member? root name ≠ some (.array elems)) ∨ t = .empty := by
  by_cases harray : ∃ elems, member? root name = some (.array elems)
  · obtain ⟨elems, hm⟩ := harray
    have hset : (optionalIo (mapIo keyName key value)).setIn (.group root) name (some t) =
        (t.entries.foldlM (setEntry keyName key value) (.array [])).map fun child =>
          .group (root.map fun m => if m.1 = name then (name, child) else m) :=
      setMember_keep hm rfl
    cases hentries : t.entries with
    | nil =>
      have hempty : t = .empty := SortedMap.ext hentries
      refine ⟨fun _ => .inr hempty, fun _ => ?_⟩
      refine ⟨.group (root.map fun m => if m.1 = name then (name, .array []) else m), ?_, ?_⟩
      · rw [hset, hentries]
        rfl
      · rw [hempty]
        exact optionalIo_getIn_some (member?_replace_self hm) rfl
    | cons x rest =>
      constructor
      · intro h
        obtain ⟨root', hroot', _⟩ := h
        rw [hset, hentries, List.foldlM_cons, setEntry_array] at hroot'
        cases hroot'
      · intro h
        rcases h with hnot | hempty
        · exact absurd hm (hnot elems)
        · rw [hempty] at hentries
          cases hentries
  · have hnot : ∀ elems, member? root name ≠ some (.array elems) :=
      fun elems hm => harray ⟨elems, hm⟩
    refine ⟨fun _ => .inl hnot, fun _ => ?_⟩
    obtain ⟨xs, hset, hget⟩ := foldlM_entries_encodes hkey hvalue hname t.entries
    have hkeep : ∀ child, member? root name = some child → child.isArray = false := by
      intro child hm
      cases child with
      | array elems => exact absurd hm (hnot elems)
      | _ => rfl
    refine ⟨.group ((root.filter fun m => m.1 ≠ name) ++ [(name, .list xs)]), ?_, ?_⟩
    · have happend : setMember (.group root) name .list _
          (fun s => t.entries.foldlM (setEntry keyName key value) s.clear) = _ :=
        setMember_append hkeep
      rw [show (fresh .list).clear = .list [] from rfl, hset []] at happend
      exact happend
    · apply optionalIo_getIn_some
      · rw [member?_append not_mem_filter, member?_cons_self]
      · simp only [mapIo, elems, hget, SortedMap.foldl_emplace]

/-- The devices survive saving exactly where the tree has no array in their place. -/
theorem devices_roundTrip_iff (devices : Devices) (root : List (String × Setting)) :
    RoundTrips (optionalIo devicesIo) root "devices" (some devices) ↔
      (∀ elems, member? root "devices" ≠ some (.array elems)) ∨ devices = .empty :=
  mapIo_roundTrips_iff stringIo_lawful deviceOrProfile_lawful (by decide) devices root "devices"

/-- A file with `devices = [];`, in which a device is configured later. -/
theorem devices_lost_in_array : ¬ RoundTrips (optionalIo devicesIo) [("devices", .array [])]
    "devices" (some (SortedMap.empty.emplace "MX Master 3" (.inl {}))) := by
  intro h
  obtain ⟨_, hset, _⟩ := h
  cases hset

/-! ## The ignore list -/

theorem ignore_setIn_empty (root : List (String × Setting)) :
    ∃ ms, (optionalIo ignoreIo).setIn (.group root) "ignore" (some .empty) = .ok (.group ms) ∧
      (optionalIo ignoreIo).getIn (.group ms) "ignore" = .ok (some .empty) := by
  have hset : ∃ ms x, (optionalIo ignoreIo).setIn (.group root) "ignore" (some .empty) =
      .ok (.group ms) ∧ member? ms "ignore" = some x ∧ ignoreIo.get x = .ok .empty := by
    apply setMember_ok
    · intro child hkeep
      cases child with
      | array elems => exact ⟨.array [], rfl, rfl⟩
      | _ => cases hkeep
    · exact ⟨.list [], rfl, rfl⟩
  obtain ⟨ms, x, hset, hm, hget⟩ := hset
  exact ⟨ms, hset, optionalIo_getIn_some hm hget⟩

/-- The codec adds a group for a product id and then assigns an integer to it. -/
theorem ignore_setIn_nonempty {t : SortedMap UInt16 Unit uint16Less} (ht : t ≠ .empty)
    (root : List (String × Setting)) :
    (optionalIo ignoreIo).setIn (.group root) "ignore" (some t) = .error .type := by
  obtain ⟨entries, sorted⟩ := t
  cases entries with
  | nil => exact absurd rfl ht
  | cons x rest =>
    apply setMember_error
    · intro child hkeep
      cases child with
      | array elems => rfl
      | _ => cases hkeep
    · rfl

/-- A set of product ids survives saving exactly if it is empty. -/
theorem ignore_roundTrips_iff (t : SortedMap UInt16 Unit uint16Less)
    (root : List (String × Setting)) :
    RoundTrips (optionalIo ignoreIo) root "ignore" (some t) ↔ t = .empty := by
  constructor
  · intro h
    obtain ⟨root', hset, _⟩ := h
    by_contra ht
    rw [ignore_setIn_nonempty ht root] at hset
    cases hset
  · intro ht
    subst ht
    obtain ⟨ms, hset, hget⟩ := ignore_setIn_empty root
    exact ⟨.group ms, hset, hget⟩

/-- An optional scalar is written into any group, and nothing else changes. -/
theorem optional_primitive_setIn {α : Type} (type : SettingType) (read : Setting → Option α)
    (write : α → Setting) (hfresh : (fresh type).getType = type) (t : Option α)
    (root : List (String × Setting)) (name : String) :
    ∃ ms, (optionalIo (primitiveIo type read write)).setIn (.group root) name t =
      .ok (.group ms) ∧ ∀ other, other ≠ name → member? ms other = member? root other := by
  cases t with
  | none => exact ⟨root, rfl, fun _ _ => rfl⟩
  | some t =>
    have hok : ∃ ms x, (optionalIo (primitiveIo type read write)).setIn (.group root) name
        (some t) = .ok (.group ms) ∧ member? ms name = some x ∧ x = write t := by
      apply setMember_ok
      · intro child hkeep
        exact ⟨write t, if_pos (of_decide_eq_true hkeep), rfl⟩
      · exact ⟨write t, if_pos hfresh, rfl⟩
    obtain ⟨ms, _, hms, _, _⟩ := hok
    refine ⟨ms, hms, ?_⟩
    intro other hother
    obtain ⟨ms', hms', hframe⟩ := setMember_frame hms hother
    cases hms'
    exact hframe

/-- What is left to save once the devices are in the tree. -/
theorem setConfig_devices {config : Config} {root : List (String × Setting)} {s : Setting}
    (hdevices : (optionalIo devicesIo).setIn (.group root) "devices" config.devices = .ok s) :
    ∃ ms, member? ms "ignore" = member? root "ignore" ∧
      ((∃ e, (optionalIo ignoreIo).setIn (.group ms) "ignore" config.ignore = .error e ∧
        setConfig (.group root) config = .error e) ∨
      ∃ ms' ms'', (optionalIo ignoreIo).setIn (.group ms) "ignore" config.ignore =
          .ok (.group ms') ∧ setConfig (.group root) config = .ok (.group ms'') ∧
        member? ms'' "ignore" = member? ms' "ignore") := by
  have hms : ∃ ms, s = .group ms ∧ member? ms "ignore" = member? root "ignore" := by
    cases hd : config.devices with
    | none =>
      rw [hd] at hdevices
      cases hdevices
      exact ⟨root, rfl, rfl⟩
    | some devices =>
      rw [hd] at hdevices
      exact setMember_frame hdevices (by decide)
  obtain ⟨ms, rfl, hframe⟩ := hms
  have hsave : setConfig (.group root) config = (do
      let s₁ ← (optionalIo ignoreIo).setIn (.group ms) "ignore" config.ignore
      let s₂ ← (optionalIo doubleIo).setIn s₁ "io_timeout" config.ioTimeout
      (optionalIo intIo).setIn s₂ "workers" config.workers) := by
    show groupSet config Config.group.members (.group root) = _
    simp only [Config.group, groupSet, hdevices, bind, Except.bind]
    cases (optionalIo ignoreIo).setIn (.group ms) "ignore" config.ignore with
    | error e => rfl
    | ok s₁ =>
      simp only
      cases (optionalIo doubleIo).setIn s₁ "io_timeout" config.ioTimeout with
      | error e => rfl
      | ok s₂ =>
        simp only
        cases (optionalIo intIo).setIn s₂ "workers" config.workers <;> rfl
  refine ⟨ms, hframe, ?_⟩
  cases hignore : (optionalIo ignoreIo).setIn (.group ms) "ignore" config.ignore with
  | error e =>
    refine .inl ⟨e, rfl, ?_⟩
    rw [hsave, hignore]
    rfl
  | ok s₁ =>
    have hgroup : ∃ ms', s₁ = .group ms' := by
      cases hi : config.ignore with
      | none =>
        rw [hi] at hignore
        cases hignore
        exact ⟨ms, rfl⟩
      | some t =>
        by_cases ht : t = .empty
        · subst ht
          rw [hi] at hignore
          obtain ⟨ms', hset, _⟩ := ignore_setIn_empty ms
          rw [hset] at hignore
          cases hignore
          exact ⟨ms', rfl⟩
        · rw [hi, ignore_setIn_nonempty ht ms] at hignore
          cases hignore
    obtain ⟨ms', rfl⟩ := hgroup
    have hfloat : ∃ ms₂, (optionalIo doubleIo).setIn (.group ms') "io_timeout" config.ioTimeout =
        .ok (.group ms₂) ∧ ∀ other, other ≠ "io_timeout" → member? ms₂ other = member? ms' other :=
      optional_primitive_setIn .float _ .float rfl config.ioTimeout ms' "io_timeout"
    obtain ⟨ms₂, hset₂, hframe₂⟩ := hfloat
    have hint : ∃ ms₃, (optionalIo intIo).setIn (.group ms₂) "workers" config.workers =
        .ok (.group ms₃) ∧ ∀ other, other ≠ "workers" → member? ms₃ other = member? ms₂ other :=
      optional_primitive_setIn .int _ .int rfl config.workers ms₂ "workers"
    obtain ⟨ms₃, hset₃, hframe₃⟩ := hint
    refine .inr ⟨ms', ms₃, rfl, ?_, ?_⟩
    · rw [hsave, hignore]
      show ((optionalIo doubleIo).setIn (.group ms') "io_timeout" config.ioTimeout >>= _) = _
      rw [hset₂]
      exact hset₃
    · rw [hframe₃ "ignore" (by decide), hframe₂ "ignore" (by decide)]

theorem ignore_getIn_eq_none_iff {ms : List (String × Setting)} :
    (optionalIo ignoreIo).getIn (.group ms) "ignore" = .ok none ↔ member? ms "ignore" = none := by
  cases hm : member? ms "ignore" with
  | none => simp [optionalIo, lookup?, hm]
  | some x =>
    have hread : ∃ t, ignoreIo.get x = .ok t := ⟨_, rfl⟩
    obtain ⟨t, ht⟩ := hread
    simp [optionalIo, lookup?, hm, ht, Except.toOption]

theorem save_authorized {caller : String} (hcaller : caller ≠ "") (root : Setting)
    (config : Config) : save caller true true root config =
      match setConfig root config with
      | .error e => .error (.setting e)
      | .ok root' => .ok root' := by
  have hempty : caller.isEmpty = false := by simpa using hcaller
  rw [save, hempty]
  cases setConfig root config <;> rfl

/-- An authorised save goes through and keeps the ignore list exactly if the list is empty, or if
neither the configuration nor the tree has one. -/
theorem ignore_saved_iff {caller : String} {config : Config} {root : List (String × Setting)}
    {s : Setting} (hcaller : caller ≠ "")
    (hdevices : (optionalIo devicesIo).setIn (.group root) "devices" config.devices = .ok s) :
    (∃ root', save caller true true (.group root) config = .ok root' ∧
        (optionalIo ignoreIo).getIn root' "ignore" = .ok config.ignore) ↔
      config.ignore = some .empty ∨
        (config.ignore = none ∧ member? root "ignore" = none) := by
  obtain ⟨ms, hframe, hset⟩ := setConfig_devices hdevices
  rw [save_authorized hcaller]
  cases hi : config.ignore with
  | none =>
    rw [hi] at hset
    rcases hset with ⟨e, he, _⟩ | ⟨ms', ms'', hms', hconfig, hm⟩
    · cases he
    · cases hms'
      have hread : (optionalIo ignoreIo).getIn (.group ms'') "ignore" = .ok none ↔
          member? root "ignore" = none := by
        rw [ignore_getIn_eq_none_iff, hm, hframe]
      rw [hconfig]
      simpa using hread
  | some t =>
    rw [hi] at hset
    by_cases ht : t = .empty
    · subst ht
      obtain ⟨ms₁, hset₁, hget₁⟩ := ignore_setIn_empty ms
      rcases hset with ⟨e, he, _⟩ | ⟨ms', ms'', hms', hconfig, hm⟩
      · rw [hset₁] at he
        cases he
      · rw [hset₁] at hms'
        cases hms'
        refine iff_of_true ⟨.group ms'', ?_, ?_⟩ (.inl rfl)
        · rw [hconfig]
        · rw [← hget₁]
          simp only [optionalIo, lookup?, hm]
    · have herror := ignore_setIn_nonempty ht ms
      rcases hset with ⟨e, _, hconfig⟩ | ⟨ms', ms'', hms', _, _⟩
      · rw [hconfig]
        simp [ht]
      · rw [herror] at hms'
        cases hms'

theorem ignore_saved_empty :
    (∃ root', save ":1.42" true true (.group []) { ignore := some .empty } = .ok root' ∧
        (optionalIo ignoreIo).getIn root' "ignore" = .ok (some .empty)) ↔
      ((some .empty : Option (SortedMap UInt16 Unit uint16Less)) = some .empty ∨
        (some .empty : Option (SortedMap UInt16 Unit uint16Less)) = none ∧
          member? [] "ignore" = none) := by
  have hdevices : (optionalIo devicesIo).setIn (.group [])
      "devices" ({ ignore := some .empty } : Config).devices = .ok (.group []) := rfl
  exact ignore_saved_iff (by decide) hdevices

/-- Saving a configuration that ignores the product c534 fails, whatever the tree holds of it. -/
theorem ignore_save_fails :
    save ":1.42" true true (.group []) { ignore := some (SortedMap.empty.emplace 0xc534 ()) } =
        .error (.setting .type) ∧
      ¬ RoundTrips (optionalIo ignoreIo) [] "ignore"
        (some (SortedMap.empty.emplace 0xc534 ())) := by
  refine ⟨rfl, ?_⟩
  intro h
  obtain ⟨_, hset, _⟩ := h
  cases hset

end Logid.Config
