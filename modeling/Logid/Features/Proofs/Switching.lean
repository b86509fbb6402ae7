import Logid.Features.Settings
import Logid.Proofs.Profiles

/-!
# Switching profiles leaves traces

Each `configure` makes the partial assignment that `program` reads off the profile, so a switch from
one profile to another is two of them after one another, and the traces of the first are what the
second does not write.
-/

namespace Logid.Features

open Backend.Hidpp20 (Hardware SensorDPIList)
open Config (Profile)

/-! ## The settings determine the hardware -/

theorem eq_of_toNat_eq {a b : Bool} (h : a.toNat = b.toNat) : a = b := by
  cases a <;> cases b <;> first | rfl | cases h

theorem bitOf_injective {a b : UInt8} (h : ∀ bit, bitOf a bit = bitOf b bit) : a = b := by
  apply UInt8.toBitVec_inj.mp
  apply BitVec.eq_of_getLsbD_eq
  intro i hi
  exact eq_of_toNat_eq (h ⟨i, hi⟩)

theorem settings_injective {hw hw' : Hardware} (h : settings hw = settings hw') : hw = hw' := by
  have hdpi : hw.dpi = hw'.dpi := by
    funext sensor
    exact UInt16.toNat_inj.mp (congrFun h (.dpi sensor))
  have hwheel : hw.wheelMode = hw'.wheelMode := UInt8.toNat_inj.mp (congrFun h .wheelMode)
  have hauto : hw.autoDisengage = hw'.autoDisengage :=
    UInt8.toNat_inj.mp (congrFun h .autoDisengage)
  have htorque : hw.torque = hw'.torque := UInt8.toNat_inj.mp (congrFun h .torque)
  have hscroll : hw.scrollMode = hw'.scrollMode :=
    bitOf_injective fun bit => congrFun h (.scrollMode bit)
  have hdivert : hw.thumbDiverted = hw'.thumbDiverted :=
    eq_of_toNat_eq (congrFun h .thumbDiverted)
  have hinvert : hw.thumbInverted = hw'.thumbInverted :=
    eq_of_toNat_eq (congrFun h .thumbInverted)
  cases hw
  cases hw'
  simp_all

/-! ## DPI -/

theorem dpiLists_eq_take {info : Info} (lists : DpiLists info) :
    lists.1 = info.sensorLists.take lists.1.length := List.prefix_iff_eq_take.mp lists.2

theorem dpiLists_length_le {info : Info} (lists : DpiLists info) :
    lists.1.length ≤ info.sensorLists.length := lists.2.length_le

/-- The loop reads as many more lists as the device has, and fails when it has too few. -/
theorem fillLoop_spec {info : Info} (n : Nat) (lists : DpiLists info) :
    (fillLoop n lists).1.1 = info.sensorLists.take (lists.1.length + n) ∧
      ((fillLoop n lists).2 = true ↔ n = 0 ∨ lists.1.length + n ≤ info.sensorLists.length) := by
  induction n generalizing lists with
  | zero =>
    rw [fillLoop, Nat.add_zero]
    exact ⟨dpiLists_eq_take lists, by simp⟩
  | succ n ih =>
    rw [fillLoop]
    split
    next list h =>
      have hlt : lists.1.length < info.sensorLists.length := (List.getElem?_eq_some_iff.mp h).1
      have hih := ih ⟨lists.1 ++ [list], prefix_concat lists.2 h⟩
      simp only [List.length_append, List.length_singleton] at hih
      have hcomm : lists.1.length + 1 + n = lists.1.length + (n + 1) := by omega
      rw [hcomm] at hih
      refine ⟨hih.1, hih.2.trans ?_⟩
      omega
    next h =>
      have hge : info.sensorLists.length ≤ lists.1.length := List.getElem?_eq_none_iff.mp h
      refine ⟨?_, ?_⟩
      · rw [List.take_of_length_le (by omega), dpiLists_eq_take lists]
        exact List.take_of_length_le hge
      · simp only [Bool.false_eq_true, false_iff]
        omega

theorem fillDPILists_spec {info : Info} (lists : DpiLists info) (dpis : List Int32)
    (h : dpis ≠ []) :
    (fillDPILists lists (UInt8.ofNat (dpis.length - 1))).1.1 =
        listsFor info lists.1.length dpis ∧
      ((fillDPILists lists (UInt8.ofNat (dpis.length - 1))).2 = true ↔ CanFill info dpis) := by
  have hneeded : (UInt8.ofNat (dpis.length - 1)).toNat + 1 = needed dpis := by
    rw [UInt8.toNat_ofNat', needed]
  have hle := dpiLists_length_le lists
  have hspec := fillLoop_spec (needed dpis - lists.1.length) lists
  rw [fillDPILists, hneeded, listsFor, CanFill]
  refine ⟨?_, hspec.2.trans ?_⟩
  · rw [hspec.1]
    congr 1
    omega
  · rw [or_iff_right h]
    omega

/-- The value at the head is the one of the first sensor. -/
theorem dpiProgram_cons (lists : List SensorDPIList) (dpi : Int32) (dpis : List Int32)
    (start sensor : Nat) :
    dpiProgram lists (dpi :: dpis) start sensor =
      if sensor = start then
        (lists[start]?).bind fun list => if dpi = 0 then none else getClosestDPI list (toUInt16 dpi)
      else dpiProgram lists dpis (start + 1) sensor := by
  rcases Nat.lt_trichotomy sensor start with hlt | heq | hgt
  · rw [dpiProgram, if_pos hlt, if_neg (by omega), dpiProgram, if_pos (by omega)]
  · subst heq
    rw [dpiProgram, if_neg (by omega), if_pos rfl, Nat.sub_self]
    rfl
  · obtain ⟨k, hk⟩ : ∃ k, sensor - start = k + 1 := ⟨sensor - start - 1, by omega⟩
    have hk' : sensor - (start + 1) = k := by omega
    rw [dpiProgram, if_neg (by omega), if_neg (by omega), dpiProgram, if_neg (by omega), hk, hk',
      List.getElem?_cons_succ]

/-- Only sensors that have a list are programmed. -/
theorem dpiProgram_eq_none {lists : List SensorDPIList} {dpis : List Int32} {start sensor : Nat}
    (h : lists.length ≤ sensor) : dpiProgram lists dpis start sensor = none := by
  rw [dpiProgram]
  split
  · rfl
  · rw [List.getElem?_eq_none h]
    cases dpis[sensor - start]? <;> rfl

/-- The loop from the value for sensor `i`: it sets the sensors that have a list, and returns if all
values but zero have one. -/
theorem setDPIs_spec {lists : List SensorDPIList} (hlen : lists.length ≤ 256) {dpis : List Int32}
    {i : Nat} {hw hw' : Hardware} {done : Bool}
    (h : setDPIs lists dpis i hw = some (hw', done)) :
    hw' = { hw with dpi := hw'.dpi } ∧
      (∀ sensor : UInt8,
        hw'.dpi sensor = (dpiProgram lists dpis i sensor.toNat).getD (hw.dpi sensor)) ∧
      (done = true ↔ ∀ e ∈ dpis.zipIdx i, e.1 ≠ 0 → e.2 < lists.length) := by
  induction dpis generalizing i hw with
  | nil =>
    cases h
    refine ⟨rfl, ?_, by simp⟩
    intro sensor
    simp [dpiProgram]
  | cons dpi dpis ih =>
    rw [setDPIs] at h
    simp only [dpiProgram_cons, List.zipIdx_cons, List.forall_mem_cons]
    split at h
    next hzero =>
      obtain ⟨hframe, hdpi, hdone⟩ := ih h
      refine ⟨hframe, ?_, hdone.trans (by simp [hzero])⟩
      intro sensor
      rw [hdpi sensor]
      split
      next heq => simp [dpiProgram, heq]
      next => rfl
    next hnonzero =>
      split at h
      next hnone =>
        have hge : lists.length ≤ i := List.getElem?_eq_none_iff.mp hnone
        cases h
        refine ⟨rfl, ?_, ?_⟩
        · intro sensor
          split
          next => simp [hnone]
          next hne =>
            by_cases hlt : sensor.toNat < i + 1
            · simp [dpiProgram, hlt]
            · rw [dpiProgram_eq_none (by omega), Option.getD_none]
        · simp only [Bool.false_eq_true, false_iff, not_and]
          intro hlt
          exact absurd (hlt hnonzero) (by omega)
      next list hlist =>
        have hlt : i < lists.length := (List.getElem?_eq_some_iff.mp hlist).1
        obtain ⟨closest, hclosest, h⟩ := Option.bind_eq_some_iff.mp h
        obtain ⟨hframe, hdpi, hdone⟩ := ih h
        refine ⟨hframe, ?_, hdone.trans (by simp [hlt])⟩
        intro sensor
        rw [hdpi sensor]
        split
        next heq =>
          have hsensor : sensor = UInt8.ofNat i := by
            rw [← heq]
            exact (UInt8.ofNat_toNat).symm
          have hearly : dpiProgram lists dpis (i + 1) sensor.toNat = none := by
            simp [dpiProgram, heq]
          rw [hearly, hlist]
          simp [hsensor, hclosest, Backend.Hidpp20.AdjustableDPI.setSensorDPI]
        next hne =>
          have hsensor : sensor ≠ UInt8.ofNat i := by
            intro heq
            rw [heq, UInt8.toNat_ofNat', Nat.mod_eq_of_lt (by omega)] at hne
            exact hne rfl
          simp [Backend.Hidpp20.AdjustableDPI.setSensorDPI, Function.update_of_ne hsensor]

theorem listsFor_length_le (info : Info) (known : Nat) (dpis : List Int32) :
    (listsFor info known dpis).length ≤ 256 :=
  (List.length_take_le' _ _).trans info.sensorLists_length

theorem dpiProgram_nil (lists : List SensorDPIList) (start sensor : Nat) :
    dpiProgram lists [] start sensor = none := by
  simp [dpiProgram]

/-- What `DPI::configure` leaves: the DPI of the sensors, and the lists it has read. -/
structure DPIConfigured {info : Info} (dpis : List Int32) (c c' : Control info) (done : Bool) :
    Prop where
  frame : c'.hardware = { c.hardware with dpi := c'.hardware.dpi }
  dpi : ∀ sensor : UInt8, c'.hardware.dpi sensor =
    (if CanFill info dpis then
      dpiProgram (listsFor info c.dpiLists.1.length dpis) dpis 0 sensor.toNat
    else none).getD (c.hardware.dpi sensor)
  done : done = true ↔ Completes info c.dpiLists.1.length dpis
  lists : c'.dpiLists.1.length =
    if dpis.isEmpty then c.dpiLists.1.length
    else min info.sensorLists.length (max c.dpiLists.1.length (needed dpis))

theorem dpiConfigured_nil {info : Info} (c : Control info) : DPIConfigured [] c c true where
  frame := rfl
  dpi := by simp [dpiProgram_nil]
  done := by simp [Completes, CanFill]
  lists := rfl

theorem dpi_configure_spec {info : Info} {config : Option Config.DPI} {c c' : Control info}
    {done : Bool} (h : DPI.configure config c = some (c', done)) :
    DPIConfigured (config.elim [] dpiValues) c c' done := by
  unfold DPI.configure at h
  cases config with
  | none =>
    cases h
    exact dpiConfigured_nil c
  | some value =>
    dsimp only [Option.elim_some] at h ⊢
    generalize dpiValues value = dpis at h ⊢
    split at h
    next hempty =>
      cases h
      rw [List.isEmpty_iff.mp hempty]
      exact dpiConfigured_nil c
    next hne =>
      rw [List.isEmpty_iff] at hne
      obtain ⟨hlists, hfilled⟩ := fillDPILists_spec c.dpiLists dpis hne
      have hlength : (fillDPILists c.dpiLists (UInt8.ofNat (dpis.length - 1))).1.1.length =
          if dpis.isEmpty then c.dpiLists.1.length
          else min info.sensorLists.length (max c.dpiLists.1.length (needed dpis)) := by
        rw [if_neg (by simpa using hne), hlists, listsFor, List.length_take, Nat.min_comm]
      split at h
      next hfill =>
        have hcan : CanFill info dpis := hfilled.mp hfill
        simp only [Option.bind_eq_bind, Option.bind_eq_some_iff, Option.pure_def,
          Option.some_inj, Prod.mk.injEq] at h
        obtain ⟨⟨hw, ok⟩, hset, rfl, rfl⟩ := h
        rw [hlists] at hset
        obtain ⟨hframe, hdpi, hdone⟩ := setDPIs_spec (listsFor_length_le _ _ _) hset
        exact {
          frame := hframe
          dpi := by simpa only [if_pos hcan] using hdpi
          done := hdone.trans (by rw [Completes, and_iff_right hcan])
          lists := hlength }
      next hfill =>
        have hcannot : ¬ CanFill info dpis := fun hcan => hfill (hfilled.mpr hcan)
        cases h
        exact {
          frame := rfl
          dpi := by simp [if_neg hcannot]
          done := by simp [Completes, hcannot]
          lists := hlength }

/-! ## The other features -/

theorem masked_bool (old mask mode : Bool) :
    (old && !mask || mode && mask).toNat = if mask.toNat = 1 then mode.toNat else old.toNat := by
  cases mask <;> simp

/-- The bits of the mask are those of the mode, the others stay. -/
theorem bitOf_masked (old mask mode : UInt8) (bit : Fin 8) :
    bitOf ((old &&& ~~~mask) ||| (mode &&& mask)) bit =
      if bitOf mask bit = 1 then bitOf mode bit else bitOf old bit := by
  simp only [bitOf, UInt8.toBitVec_or, UInt8.toBitVec_and, UInt8.toBitVec_not, BitVec.getLsbD_or,
    BitVec.getLsbD_and, BitVec.getLsbD_not, bit.isLt, decide_true, Bool.true_and]
  exact masked_bool _ _ _

theorem store_param (old : UInt8) (option : Option UInt32) :
    (Backend.Hidpp20.SmartShift.store old
        (if option.isSome then (option.getD 0).toUInt8 else 0)).toNat =
      (option.bind nonzero).getD old.toNat := by
  cases option with
  | none => rfl
  | some value =>
    simp only [Option.isSome_some, if_true, Option.getD_some, Option.bind_some, nonzero,
      Backend.Hidpp20.SmartShift.store]
    split <;> rfl

theorem store_active (old : UInt8) (option : Option Bool) :
    (Backend.Hidpp20.SmartShift.store old
        (if option.isSome then (if option.getD false then 1 else 0) + 1 else 0)).toNat =
      (option.map fun on => if on then 2 else 1).getD old.toNat := by
  cases option with
  | none => rfl
  | some on => cases on <;> rfl

theorem hiresScroll_settings (config : Option (Bool ⊕ Config.HiresScroll)) (hw : Hardware) :
    settings (HiresScroll.configure config hw) = Override.apply (fun
      | .scrollMode bit =>
        if bitOf (HiresScroll.maskMode config).1 bit = 1 then
          some (bitOf (HiresScroll.maskMode config).2 bit)
        else none
      | _ => none) (settings hw) := by
  funext setting
  cases setting with
  | scrollMode bit =>
    have hmasked := bitOf_masked hw.scrollMode (HiresScroll.maskMode config).1
      (HiresScroll.maskMode config).2 bit
    refine hmasked.trans ?_
    by_cases h : bitOf (HiresScroll.maskMode config).1 bit = 1
    · simp only [Override.apply, if_pos h, Option.getD_some]
    · simp only [Override.apply, if_neg h, Option.getD_none, settings]
  | _ => rfl

theorem smartShift_settings (version : Backend.Hidpp20.SmartShift.Version)
    (config : Option Config.SmartShift) (hw : Hardware) :
    settings (SmartShift.configure version config hw) = Override.apply (fun
      | .wheelMode => (config.bind (·.on)).map fun on => if on then 2 else 1
      | .autoDisengage => (config.bind (·.threshold)).bind nonzero
      | .torque => if version = .v2 then (config.bind (·.torque)).bind nonzero else none
      | _ => none) (settings hw) := by
  funext setting
  cases config with
  | none =>
    cases setting with
    | torque => cases version <;> rfl
    | _ => rfl
  | some conf =>
    cases setting with
    | wheelMode => exact store_active hw.wheelMode conf.on
    | autoDisengage => exact store_param hw.autoDisengage conf.threshold
    | torque =>
      cases version with
      | v1 => rfl
      | v2 => exact store_param hw.torque conf.torque
    | _ => rfl

theorem thumbWheel_settings (config : Option Config.ThumbWheel) (hw : Hardware) :
    settings (ThumbWheel.configure config hw) = Override.apply (fun
      | .thumbDiverted => config.map fun value => (value.divert.getD false).toNat
      | .thumbInverted => config.map fun value => (value.invert.getD false).toNat
      | _ => none) (settings hw) := by
  funext setting
  cases config <;> cases setting <;> rfl

theorem configureOthers_settings (info : Info) (profile : Profile) (hw : Hardware) :
    settings (configureOthers info profile hw) =
      (otherProgram info profile).apply (settings hw) := by
  have hscroll : settings (configureHiresScroll info profile hw) = Override.apply (fun
      | .scrollMode bit => otherProgram info profile (.scrollMode bit)
      | _ => none) (settings hw) := by
    funext setting
    unfold configureHiresScroll
    split
    next h =>
      rw [hiresScroll_settings]
      cases setting <;> simp [Override.apply, otherProgram, h]
    next h => cases setting <;> simp [Override.apply, otherProgram, h]
  have hshift : settings (configureSmartShift info profile (configureHiresScroll info profile hw)) =
      Override.apply (fun
        | .thumbDiverted => none
        | .thumbInverted => none
        | setting => otherProgram info profile setting) (settings hw) := by
    funext setting
    unfold configureSmartShift
    cases h : info.smartShift with
    | none =>
      dsimp only
      rw [hscroll]
      cases setting <;> simp [Override.apply, otherProgram, h]
    | some version =>
      dsimp only
      rw [smartShift_settings, hscroll]
      cases setting <;> simp [Override.apply, otherProgram, h]
  funext setting
  unfold configureOthers configureThumbWheel
  split
  next h =>
    rw [thumbWheel_settings, hshift]
    cases setting <;> simp [Override.apply, otherProgram, h]
  next h =>
    rw [hshift]
    cases setting <;> simp [Override.apply, otherProgram, h]

/-! ## One switch -/

/-- Without a `Reset`, configuring a profile is its partial assignment. -/
theorem reconfigure_spec {info : Info} {profile : Profile} {c c' : Control info} {done : Bool}
    (hreset : info.reset = none) (h : reconfigure profile c = some (c', done)) :
    settings c'.hardware =
        (program info c.dpiLists.1.length profile).apply (settings c.hardware) ∧
      c'.dpiLists.1.length = knownAfter info c.dpiLists.1.length profile := by
  have hstart : reset info c.hardware = c.hardware := by rw [reset, hreset]; rfl
  simp only [reconfigure, hstart, Option.bind_eq_bind, Option.bind_eq_some_iff, Option.pure_def] at h
  obtain ⟨⟨c₁, done₁⟩, hdpi, h⟩ := h
  have hspec : DPIConfigured (dpiOption info profile) c c₁ done₁ := by
    rw [configureDPI] at hdpi
    cases hsensors : info.sensors with
    | none =>
      rw [hsensors] at hdpi
      cases hdpi
      rw [dpiOption, hsensors]
      exact dpiConfigured_nil c
    | some lists =>
      rw [hsensors] at hdpi
      have hoption : dpiOption info profile = profile.dpi.elim [] dpiValues := by
        rw [dpiOption, hsensors]
        cases profile.dpi <;> rfl
      rw [hoption]
      exact dpi_configure_spec hdpi
  have hbefore : ∀ setting, (∀ sensor, setting ≠ .dpi sensor) →
      settings c₁.hardware setting = settings c.hardware setting := by
    intro setting hne
    rw [hspec.frame]
    cases setting with
    | dpi sensor => exact absurd rfl (hne sensor)
    | _ => rfl
  have hsensor : ∀ sensor, settings c₁.hardware (.dpi sensor) =
      (program info c.dpiLists.1.length profile).apply (settings c.hardware) (.dpi sensor) := by
    intro sensor
    rw [settings, hspec.dpi sensor, Override.apply, program]
    split
    · cases dpiProgram _ _ _ _ <;> rfl
    · rfl
  split at h
  next hdone =>
    cases h
    have hcompletes := hspec.done.mp hdone
    refine ⟨?_, hspec.lists⟩
    rw [configureOthers_settings]
    funext setting
    cases setting with
    | dpi sensor => exact hsensor sensor
    | _ =>
      rw [Override.apply, hbefore _ (by simp), Override.apply, program, if_pos hcompletes]
      simp
  next hdone =>
    cases h
    have hcompletes : ¬ Completes info c.dpiLists.1.length (dpiOption info profile) :=
      fun hc => hdone (hspec.done.mpr hc)
    refine ⟨?_, hspec.lists⟩
    funext setting
    cases setting with
    | dpi sensor => exact hsensor sensor
    | _ =>
      rw [hbefore _ (by simp), Override.apply, program, if_neg hcompletes, Option.getD_none]
      simp

theorem maskMode_adopt (config : Option (Bool ⊕ Config.HiresScroll)) :
    HiresScroll.maskMode (config.map fun c => .inr (Config.HiresScroll.adopt c)) =
      HiresScroll.maskMode config := by
  cases config with
  | none => rfl
  | some config => cases config <;> rfl

theorem maskMode_setProfile (features : Supported) (profile : Profile) :
    HiresScroll.maskMode (features.setProfile profile).hiresscroll =
      HiresScroll.maskMode profile.hiresscroll := by
  unfold Supported.setProfile
  dsimp only
  split
  · exact maskMode_adopt profile.hiresscroll
  · rfl

theorem thumbwheel_setProfile (features : Supported) (profile : Profile) :
    ((features.setProfile profile).thumbwheel.map fun value => (value.divert, value.invert)) =
      profile.thumbwheel.map fun value => (value.divert, value.invert) := by
  unfold Supported.setProfile
  dsimp only
  split
  · rw [Option.map_map]
    rfl
  · rfl

/-- What the features write into a profile does not change what it programs. -/
theorem program_setProfile (info : Info) (known : Nat) (profile : Profile) :
    program info known (info.supported.setProfile profile) = program info known profile := by
  have hthumb := fun f : Option Bool × Option Bool → Nat =>
    congrArg (Option.map f) (thumbwheel_setProfile info.supported profile)
  simp only [Option.map_map] at hthumb
  have hother : otherProgram info (info.supported.setProfile profile) =
      otherProgram info profile := by
    funext setting
    cases setting with
    | scrollMode bit => simp only [otherProgram, maskMode_setProfile]
    | thumbDiverted =>
      exact ite_congr rfl (fun _ => hthumb fun v => (v.1.getD false).toNat) fun _ => rfl
    | thumbInverted =>
      exact ite_congr rfl (fun _ => hthumb fun v => (v.2.getD false).toNat) fun _ => rfl
    | _ => rfl
  have hdpi : dpiOption info (info.supported.setProfile profile) = dpiOption info profile := rfl
  funext setting
  cases setting with
  | dpi sensor => simp only [program, hdpi]
  | _ => simp only [program, hdpi, hother]

theorem dpiProgram_mono {lists lists' : List SensorDPIList}
    (h : ∀ (i : Nat) list, lists[i]? = some list → lists'[i]? = some list) {dpis : List Int32}
    {start sensor : Nat} {dpi : UInt16} (hdpi : dpiProgram lists dpis start sensor = some dpi) :
    dpiProgram lists' dpis start sensor = some dpi := by
  rw [dpiProgram] at hdpi ⊢
  split at hdpi
  next => cases hdpi
  next hstart =>
    obtain ⟨value, hvalue, hdpi⟩ := Option.bind_eq_some_iff.mp hdpi
    obtain ⟨list, hlist, hclosest⟩ := Option.bind_eq_some_iff.mp hdpi
    rw [if_neg hstart]
    apply Option.bind_eq_some_iff.mpr
    exact ⟨value, hvalue, Option.bind_eq_some_iff.mpr ⟨list, h sensor list hlist, hclosest⟩⟩

/-- With more DPI lists known, a profile programs what it did before. -/
theorem program_mono (info : Info) {known known' : Nat} (h : known ≤ known') (profile : Profile) :
    (program info known profile).Le (program info known' profile) := by
  have hlists : ∀ (dpis : List Int32) (i : Nat) list, (listsFor info known dpis)[i]? = some list →
      (listsFor info known' dpis)[i]? = some list := by
    intro dpis i list hlist
    rw [listsFor, List.getElem?_take] at hlist ⊢
    split at hlist
    next hlt =>
      rw [if_pos (by omega)]
      exact hlist
    next => cases hlist
  have hlength : ∀ dpis, (listsFor info known dpis).length ≤ (listsFor info known' dpis).length := by
    intro dpis
    rw [listsFor, listsFor, List.length_take, List.length_take]
    omega
  have hcompletes : ∀ dpis, Completes info known dpis → Completes info known' dpis := by
    intro dpis hc
    refine ⟨hc.1, ?_⟩
    intro e he hne
    exact (hc.2 e he hne).trans_le (hlength dpis)
  intro setting value hvalue
  cases setting with
  | dpi sensor =>
    simp only [program] at hvalue ⊢
    split at hvalue
    next hcan =>
      rw [if_pos hcan]
      obtain ⟨dpi, hprogram, rfl⟩ := Option.map_eq_some_iff.mp hvalue
      rw [dpiProgram_mono (hlists _) hprogram]
      rfl
    next => cases hvalue
  | _ =>
    simp only [program] at hvalue ⊢
    split at hvalue
    next hc =>
      rw [if_pos (hcompletes _ hc)]
      exact hvalue
    next => cases hvalue

theorem le_knownAfter (info : Info) (lists : DpiLists info) (profile : Profile) :
    lists.1.length ≤ knownAfter info lists.1.length profile := by
  have hle := dpiLists_length_le lists
  dsimp only [knownAfter]
  split
  · exact Nat.le_refl _
  · omega

theorem setProfile_spec {info : Info} {s s' : State info} {name : String} {done : Bool}
    (hreset : info.reset = none) (h : setProfile s name = some (s', done)) :
    settings s'.control.hardware = (program info s.control.dpiLists.1.length (s.profile name)).apply
        (settings s.control.hardware) ∧
      s'.control.dpiLists.1.length =
        knownAfter info s.control.dpiLists.1.length (s.profile name) ∧
      ∀ other known, program info known (s'.profile other) =
        program info known (s.profile other) := by
  simp only [setProfile, Option.bind_eq_bind, Option.bind_eq_some_iff, Option.pure_def,
    Option.some_inj, Prod.mk.injEq] at h
  obtain ⟨⟨control, ok⟩, hconfigure, rfl, -⟩ := h
  obtain ⟨hsettings, hknown⟩ := reconfigure_spec hreset hconfigure
  rw [program_setProfile] at hsettings
  refine ⟨hsettings, hknown, ?_⟩
  intro other known
  by_cases hother : other = name
  · subst hother
    rw [State.profile, SortedMap.find?_assign_self Profiles.stringLess_linear, Option.getD_some,
      program_setProfile]
  · rw [State.profile, SortedMap.find?_assign_of_ne Profiles.stringLess_linear hother]
    rfl

/-- On a device without `Reset`, switching to `a` and then to `b` leaves the settings that switching
to `b` alone leaves exactly when `b` covers what `a` programs. -/
theorem switch_eq_iff {info : Info} (hreset : info.reset = none) {s s₁ s₂ s₃ : State info}
    {a b : String} {done₁ done₂ done₃ : Bool} (ha : setProfile s a = some (s₁, done₁))
    (hab : setProfile s₁ b = some (s₂, done₂)) (hb : setProfile s b = some (s₃, done₃)) :
    s₂.control.hardware = s₃.control.hardware ↔ Covers s a b := by
  obtain ⟨hfirst, hknown, hprograms⟩ := setProfile_spec hreset ha
  obtain ⟨hsecond, -, -⟩ := setProfile_spec hreset hab
  obtain ⟨halone, -, -⟩ := setProfile_spec hreset hb
  rw [hknown, hprograms, hfirst] at hsecond
  have hle := program_mono info (le_knownAfter info s.control.dpiLists (s.profile a)) (s.profile b)
  rw [Covers, ← Override.apply_then_eq_iff (settings s.control.hardware) hle, ← hsecond, ← halone]
  exact ⟨fun h => by rw [h], settings_injective⟩

/-- A mouse with `SmartShift` only, in ratchet mode. -/
def ratchetMouse : Info := { smartShift := some .v1 }

def ratchetState : State ratchetMouse where
  profiles := ((SortedMap.empty.emplace "loud" { smartshift := some { on := some true } }).emplace
    "plain" {}).emplace "quiet" { smartshift := some { on := some false } }
  control := {
    hardware := {
      dpi := fun _ => 0, wheelMode := 2, autoDisengage := 10, torque := 0, scrollMode := 0
      thumbDiverted := false, thumbInverted := false }
    dpiLists := ⟨[], List.nil_prefix⟩ }

/-- The wheel mode after switches to the profiles, one after another. -/
def wheelModeAfter (s : State ratchetMouse) : List String → Option UInt8
  | [] => some s.control.hardware.wheelMode
  | name :: names => (setProfile s name).bind fun r => wheelModeAfter r.1 names

theorem exists_of_wheelModeAfter {s : State ratchetMouse} {name : String} {names : List String}
    {mode : UInt8} (h : wheelModeAfter s (name :: names) = some mode) :
    ∃ s' done, setProfile s name = some (s', done) ∧ wheelModeAfter s' names = some mode := by
  obtain ⟨r, hr, h⟩ := Option.bind_eq_some_iff.mp h
  exact ⟨r.1, r.2, hr, h⟩

/-- The runs of `switch_eq_iff`, with the wheel modes they end in. -/
theorem exists_switches {s : State ratchetMouse} {a b : String} {mode mode' : UInt8}
    (hab : wheelModeAfter s [a, b] = some mode) (hb : wheelModeAfter s [b] = some mode') :
    ∃ s₁ s₂ s₃ done₁ done₂ done₃, setProfile s a = some (s₁, done₁) ∧
      setProfile s₁ b = some (s₂, done₂) ∧ setProfile s b = some (s₃, done₃) ∧
      s₂.control.hardware.wheelMode = mode ∧ s₃.control.hardware.wheelMode = mode' := by
  obtain ⟨s₁, done₁, h₁, hab⟩ := exists_of_wheelModeAfter hab
  obtain ⟨s₂, done₂, h₂, hab⟩ := exists_of_wheelModeAfter hab
  obtain ⟨s₃, done₃, h₃, hb⟩ := exists_of_wheelModeAfter hb
  exact ⟨s₁, s₂, s₃, done₁, done₂, done₃, h₁, h₂, h₃, Option.some_inj.mp hab,
    Option.some_inj.mp hb⟩

theorem covers_quiet_loud : Covers ratchetState "quiet" "loud" := by
  have hloud : ratchetState.profile "loud" = { smartshift := some { on := some true } } := by decide
  have hquiet : ratchetState.profile "quiet" = { smartshift := some { on := some false } } := by
    decide
  intro setting hnone value hsome
  rw [hloud] at hnone
  rw [hquiet, hloud] at hsome
  cases setting with
  | wheelMode => exact absurd hnone (by decide)
  | autoDisengage => exact absurd hsome (by simp [Override.andThen, program, otherProgram])
  | torque => exact absurd hsome (by simp [Override.andThen, program, otherProgram, ratchetMouse])
  | scrollMode bit =>
    exact absurd hsome (by simp [Override.andThen, program, otherProgram, ratchetMouse])
  | thumbDiverted =>
    exact absurd hsome (by simp [Override.andThen, program, otherProgram, ratchetMouse])
  | thumbInverted =>
    exact absurd hsome (by simp [Override.andThen, program, otherProgram, ratchetMouse])
  | dpi sensor =>
    exact absurd hsome (by
      simp [Override.andThen, program, dpiOption, dpiProgram_nil, ratchetMouse])

theorem switch_quiet_loud :
    ∃ s₁ s₂ s₃ done₁ done₂ done₃, setProfile ratchetState "quiet" = some (s₁, done₁) ∧
      setProfile s₁ "loud" = some (s₂, done₂) ∧ setProfile ratchetState "loud" = some (s₃, done₃) ∧
      s₂.control.hardware = s₃.control.hardware := by
  have hab : wheelModeAfter ratchetState ["quiet", "loud"] = some 2 := by decide
  have hb : wheelModeAfter ratchetState ["loud"] = some 2 := by decide
  obtain ⟨s₁, s₂, s₃, done₁, done₂, done₃, h₁, h₂, h₃, -, -⟩ := exists_switches hab hb
  exact ⟨s₁, s₂, s₃, done₁, done₂, done₃, h₁, h₂, h₃,
    (switch_eq_iff rfl h₁ h₂ h₃).mpr covers_quiet_loud⟩

/-- The profile `plain` says nothing about the wheel, so free spin outlives the switch. -/
theorem switch_keeps_free_spin :
    ∃ s₁ s₂ s₃ done₁ done₂ done₃, ratchetMouse.reset = none ∧
      setProfile ratchetState "quiet" = some (s₁, done₁) ∧
      setProfile s₁ "plain" = some (s₂, done₂) ∧ setProfile ratchetState "plain" = some (s₃, done₃) ∧
      s₂.control.hardware ≠ s₃.control.hardware := by
  have hab : wheelModeAfter ratchetState ["quiet", "plain"] = some 1 := by decide
  have hb : wheelModeAfter ratchetState ["plain"] = some 2 := by decide
  obtain ⟨s₁, s₂, s₃, done₁, done₂, done₃, h₁, h₂, h₃, hfree, hratchet⟩ := exists_switches hab hb
  refine ⟨s₁, s₂, s₃, done₁, done₂, done₃, rfl, h₁, h₂, h₃, ?_⟩
  intro heq
  rw [heq, hratchet] at hfree
  cases hfree

end Logid.Features
