import Logid.Features.DPIConfig
import Logid.Features.Proofs.ClosestDPI
import Logid.Features.Proofs.Switching

/-!
# Requests and what they program

`configure` reaches its end where each value has a list whose chooser is defined; what it programs then
is the nearest value exactly if the request is near the grid.
-/

namespace Logid.Features

open Backend.Hidpp20 (Hardware SensorDPIList)
open IsNearest

/-! ## One request -/

/-- The conversion is modulo 65536. -/
theorem toNat_toUInt16 (dpi : Int32) : ((toUInt16 dpi).toNat : Int) = dpi.toInt % 65536 := by
  have hint : dpi.toInt = dpi.toUInt32.toBitVec.toInt := rfl
  have hnat : (toUInt16 dpi).toNat = dpi.toUInt32.toBitVec.toNat % 65536 := by
    rw [toUInt16, UInt32.toNat_toUInt16]
    rfl
  rw [hint, hnat, BitVec.toInt_eq_toNat_cond]
  split <;> omega

theorem answersAt_iff {list : SensorDPIList} {value : UInt16} (hvalue : value ∈ list.dpis)
    (dpi : UInt16) : AnswersAt list value dpi ↔ getClosestDPI list dpi = some value := by
  rw [AnswersAt, ← getClosestDPI_isSome_iff list dpi]
  cases hclosest : getClosestDPI list dpi with
  | none => simp
  | some closest =>
    have hchooses : ChoosesValue list := by
      rw [← getClosestDPI_isSome_iff list dpi, hclosest]
      rfl
    have hside := answersOnSide_iff (List.ne_nil_of_mem hvalue) (fun hrange => (hchooses hrange).2)
      hclosest (fun _ => hvalue)
    simp only [Option.isSome_some, true_and, hside, Option.some_inj]
    constructor
    · intro hall
      exact UInt16.le_antisymm (hall .atMost) (hall .atLeast)
    · rintro rfl side
      cases side <;> exact UInt16.le_refl _

/-- A value of a list that is not empty is requested: the result is nearest to it. -/
theorem nearest_request_iff {list : SensorDPIList} (hlist : list.dpis ≠ []) (dpi : Int32) :
    (∃ closest, getClosestDPI list (toUInt16 dpi) = some closest ∧
      IsNearest (supported list) dpi.toInt closest.toNat) ↔ RequestNear list dpi := by
  obtain ⟨first, rest, hdpis⟩ := List.exists_cons_of_ne_nil hlist
  have hmin := isLeast_supported hdpis
  have hmax := isGreatest_supported hdpis
  rw [RequestNear]
  split
  next hneg =>
    constructor
    · rintro ⟨closest, hclosest, hnear⟩
      have heq := eq_of_isLeast hmin (by omega) hnear
      obtain rfl : closest = lowest first rest := UInt16.toNat_inj.mp (Int.ofNat_inj.mp heq)
      obtain ⟨hlo, hleast⟩ := lowest_spec first rest
      rw [← hdpis] at hlo hleast
      exact ⟨_, hlo, hleast, (answersAt_iff hlo _).mpr hclosest⟩
    · rintro ⟨lo, hlomem, hall, hanswers⟩
      have hclosest := (answersAt_iff hlomem _).mp hanswers
      exact ⟨lo, hclosest, of_isLeast (isLeast_supported_of_mem hlomem hall) (by omega)⟩
  next hnonneg =>
    split
    next hbig =>
      constructor
      · rintro ⟨closest, hclosest, hnear⟩
        have hmaxlt := (highest first rest).toNat_lt
        have heq := eq_of_isGreatest hmax (by omega) hnear
        obtain rfl : closest = highest first rest := UInt16.toNat_inj.mp (Int.ofNat_inj.mp heq)
        obtain ⟨hhi, hgreatest⟩ := highest_spec first rest
        rw [← hdpis] at hhi hgreatest
        exact ⟨_, hhi, hgreatest, (answersAt_iff hhi _).mpr hclosest⟩
      · rintro ⟨hi, himem, hall, hanswers⟩
        have hclosest := (answersAt_iff himem _).mp hanswers
        have hhilt := hi.toNat_lt
        exact ⟨hi, hclosest, of_isGreatest (isGreatest_supported_of_mem himem hall) (by omega)⟩
    next hsmall =>
      have hsame : ((toUInt16 dpi).toNat : Int) = dpi.toInt := by
        rw [toNat_toUInt16]
        omega
      rw [← choosesNearest_iff, ChoosesNearest, hsame]
      simp only [forall_prop_of_true (show (supported list).Nonempty from ⟨_, hmin.1⟩)]

/-! ## All requests -/

/-- The loop comes to its end exactly if each value but zero has a list, whose chooser is defined. -/
theorem setDPIs_done_iff {lists : List SensorDPIList} {dpis : List Int32} {i : Nat} {hw : Hardware} :
    (∃ hw', setDPIs lists dpis i hw = some (hw', true)) ↔
      ∀ e ∈ dpis.zipIdx i, e.1 ≠ 0 →
        ∃ list, lists[e.2]? = some list ∧ (getClosestDPI list (toUInt16 e.1)).isSome := by
  induction dpis generalizing i hw with
  | nil => simp [setDPIs]
  | cons dpi dpis ih =>
    rw [setDPIs, List.zipIdx_cons, List.forall_mem_cons]
    split
    next hzero => rw [ih, and_iff_right (fun hne => absurd hzero hne)]
    next hnonzero =>
      split
      next hnone =>
        constructor
        · rintro ⟨hw', h⟩
          cases h
        · rintro ⟨hhead, -⟩
          obtain ⟨list, hlist, -⟩ := hhead hnonzero
          rw [hnone] at hlist
          cases hlist
      next list hlist =>
        cases hclosest : getClosestDPI list (toUInt16 dpi) with
        | none =>
          constructor
          · rintro ⟨hw', h⟩
            cases h
          · rintro ⟨hhead, -⟩
            obtain ⟨list', hlist', hsome⟩ := hhead hnonzero
            obtain rfl := Option.some_inj.mp (hlist.symm.trans hlist')
            rw [hclosest] at hsome
            cases hsome
        | some closest =>
          rw [Option.bind_eq_bind, Option.bind_some, ih, and_iff_right]
          intro _
          exact ⟨list, hlist, by rw [hclosest]; rfl⟩

theorem configure_done_iff {info : Info} (value : Config.DPI) (c : Control info) :
    (∃ c', DPI.configure (some value) c = some (c', true)) ↔
      CanFill info (dpiValues value) ∧ ∀ e ∈ (dpiValues value).zipIdx, e.1 ≠ 0 →
        ∃ list, (listsFor info c.dpiLists.1.length (dpiValues value))[e.2]? = some list ∧
          (getClosestDPI list (toUInt16 e.1)).isSome := by
  unfold DPI.configure
  dsimp only
  generalize dpiValues value = dpis
  split
  next hempty =>
    rw [List.isEmpty_iff.mp hempty]
    simp [CanFill]
  next hne =>
    rw [List.isEmpty_iff] at hne
    obtain ⟨hlists, hfilled⟩ := fillDPILists_spec c.dpiLists dpis hne
    split
    next hfill =>
      rw [and_iff_right (hfilled.mp hfill), ← @setDPIs_done_iff _ _ _ c.hardware, hlists]
      constructor
      · rintro ⟨c', h⟩
        obtain ⟨⟨hw, done⟩, hset, h⟩ := Option.bind_eq_some_iff.mp h
        cases h
        exact ⟨hw, hset⟩
      · rintro ⟨hw, hset⟩
        rw [hset]
        exact ⟨_, rfl⟩
    next hfill =>
      constructor
      · rintro ⟨c', h⟩
        cases h
      · rintro ⟨hcan, -⟩
        exact absurd (hfilled.mpr hcan) hfill

/-- A sensor with a list for the values has it from the device. -/
theorem getElem?_of_listsFor {info : Info} {known i : Nat} {dpis : List Int32} {list : SensorDPIList}
    (h : (listsFor info known dpis)[i]? = some list) :
    info.sensorLists[i]? = some list ∧ (UInt8.ofNat i).toNat = i := by
  have hlt : i < (listsFor info known dpis).length := (List.getElem?_eq_some_iff.mp h).1
  have hmax := listsFor_length_le info known dpis
  constructor
  · rw [listsFor, List.getElem?_take] at h
    split at h
    · exact h
    · cases h
  · rw [UInt8.toNat_ofNat']
    omega

/-- When `configure` returns, a value that is not zero has been programmed. -/
theorem configure_programs {info : Info} {value : Config.DPI} {c c' : Control info}
    (h : DPI.configure (some value) c = some (c', true)) {i : Nat} {dpi : Int32}
    (hi : (dpiValues value)[i]? = some dpi) (hdpi : dpi ≠ 0) :
    ∃ list closest, info.sensorLists[i]? = some list ∧
      getClosestDPI list (toUInt16 dpi) = some closest ∧
      c'.hardware.dpi (UInt8.ofNat i) = closest := by
  obtain ⟨hcan, hdefined⟩ := (configure_done_iff value c).mp ⟨c', h⟩
  obtain ⟨list, hlist, hsome⟩ :=
    hdefined (dpi, i) (List.mk_mem_zipIdx_iff_getElem?.mpr hi) hdpi
  obtain ⟨closest, hclosest⟩ := Option.isSome_iff_exists.mp hsome
  obtain ⟨hsensor, hbyte⟩ := getElem?_of_listsFor hlist
  refine ⟨list, closest, hsensor, hclosest, ?_⟩
  have hspec : DPIConfigured (dpiValues value) c c' true := dpi_configure_spec h
  rw [hspec.dpi, if_pos hcan, dpiProgram, if_neg (Nat.not_lt_zero _), hbyte, Nat.sub_zero, hi, hlist]
  simp [hdpi, hclosest]

theorem configure_leaves {info : Info} {value : Config.DPI} {c c' : Control info} {done : Bool}
    (h : DPI.configure (some value) c = some (c', done)) {i : Nat}
    (hi : (dpiValues value)[i]? = some 0) (hbyte : i < 256) :
    c'.hardware.dpi (UInt8.ofNat i) = c.hardware.dpi (UInt8.ofNat i) := by
  have hspec : DPIConfigured (dpiValues value) c c' done := dpi_configure_spec h
  have hsensor : (UInt8.ofNat i).toNat = i := by
    rw [UInt8.toNat_ofNat']
    omega
  rw [hspec.dpi]
  split
  · rw [dpiProgram, if_neg (Nat.not_lt_zero _), hsensor, Nat.sub_zero, hi]
    cases (listsFor info c.dpiLists.1.length (dpiValues value))[i]? <;> rfl
  · rfl

/-- On a device whose lists are not empty `configure` returns and programs the nearest values exactly if
each value but zero has a list, and is near its grid or cut to a request for its end. -/
theorem configuresNearest_iff {info : Info} (hlists : ∀ list ∈ info.sensorLists, list.dpis ≠ [])
    (value : Config.DPI) (c : Control info) :
    ConfiguresNearest value c ↔ RequestsNear info c.dpiLists.1.length (dpiValues value) := by
  constructor
  · rintro ⟨c', h, hall⟩
    refine ⟨(dpi_configure_spec h).done.mp rfl, ?_⟩
    intro i dpi list hi hdpi hlist
    obtain ⟨list', hlist', hnear⟩ := (hall i dpi hi).1 hdpi
    obtain ⟨list'', closest, hlist'', hclosest, hprogrammed⟩ := configure_programs h hi hdpi
    obtain rfl := Option.some_inj.mp (hlist.symm.trans hlist')
    obtain rfl := Option.some_inj.mp (hlist.symm.trans hlist'')
    rw [hprogrammed] at hnear
    exact (nearest_request_iff (hlists list (List.mem_of_getElem? hlist)) dpi).mp
      ⟨closest, hclosest, hnear⟩
  · rintro ⟨hcompletes, hrequests⟩
    have hnearest : ∀ (i : Nat) (dpi : Int32) list, (dpiValues value)[i]? = some dpi → dpi ≠ 0 →
        info.sensorLists[i]? = some list →
        ∃ closest, getClosestDPI list (toUInt16 dpi) = some closest ∧
          IsNearest (supported list) dpi.toInt closest.toNat := by
      intro i dpi list hi hdpi hlist
      exact (nearest_request_iff (hlists list (List.mem_of_getElem? hlist)) dpi).mpr
        (hrequests i dpi list hi hdpi hlist)
    have hdone : ∃ c', DPI.configure (some value) c = some (c', true) := by
      refine (configure_done_iff value c).mpr ⟨hcompletes.1, ?_⟩
      intro e he hdpi
      have hlt := hcompletes.2 e he hdpi
      have hlist := List.getElem?_eq_getElem hlt
      obtain ⟨closest, hclosest, -⟩ := hnearest e.2 e.1 _
        (List.mk_mem_zipIdx_iff_getElem?.mp he) hdpi (getElem?_of_listsFor hlist).1
      exact ⟨_, hlist, by rw [hclosest]; rfl⟩
    obtain ⟨c', h⟩ := hdone
    refine ⟨c', h, ?_⟩
    intro i dpi hi
    constructor
    · intro hdpi
      obtain ⟨list, closest, hlist, hclosest, hprogrammed⟩ := configure_programs h hi hdpi
      obtain ⟨closest', hclosest', hnear⟩ := hnearest i dpi list hi hdpi hlist
      obtain rfl := Option.some_inj.mp (hclosest.symm.trans hclosest')
      exact ⟨list, hlist, by rw [hprogrammed]; exact hnear⟩
    · rintro rfl hbyte
      exact configure_leaves h hi hbyte

/-! ## A mouse with two sensors -/

def threeValues : SensorDPIList := { dpis := [400, 800, 1600] }

def twoSensors : Info := { sensors := some [threeValues, threeValues] }

theorem twoSensors_nonempty : ∀ list ∈ twoSensors.sensorLists, list.dpis ≠ [] := by
  intro list hlist
  obtain rfl : list = threeValues := by simpa [twoSensors, Info.sensorLists] using hlist
  exact List.cons_ne_nil _ _

/-- No list has been read. -/
def twoSensorsControl : Control twoSensors where
  hardware := {
    dpi := fun _ => 800, wheelMode := 2, autoDisengage := 10, torque := 0, scrollMode := 0
    thumbDiverted := false, thumbInverted := false }
  dpiLists := ⟨[], List.nil_prefix⟩

theorem configuresNearest_twoSensors :
    ConfiguresNearest (.inr [0, 1000]) twoSensorsControl := by
  apply (configuresNearest_iff twoSensors_nonempty (.inr [0, 1000]) twoSensorsControl).mpr
  refine ⟨by decide, ?_⟩
  intro i dpi list hi hdpi hlist
  have hmem : dpi ∈ [0, 1000] := List.mem_of_getElem? hi
  have hplain : list = threeValues := by
    simpa [twoSensors, Info.sensorLists] using List.mem_of_getElem? hlist
  rcases List.mem_cons.mp hmem with rfl | hmem
  · exact absurd rfl hdpi
  · rw [List.mem_singleton.mp hmem, hplain, RequestNear, if_neg (by decide), if_neg (by decide)]
    intro hrange
    cases hrange

/-- 65936 is cut to 400, but 1600 is nearest to it. -/
theorem configure_cuts_request :
    ¬∀ (info : Info), (∀ list ∈ info.sensorLists, list.dpis ≠ []) →
      ∀ (value : Config.DPI) (c : Control info), ConfiguresNearest value c := by
  intro h
  obtain ⟨c', hconfigure, hall⟩ := h twoSensors twoSensors_nonempty (.inl 65936) twoSensorsControl
  obtain ⟨list, hlist, hnear⟩ := (hall 0 65936 rfl).1 (by decide)
  obtain ⟨list', closest, hlist', hclosest, hprogrammed⟩ :=
    configure_programs hconfigure (i := 0) rfl (by decide)
  obtain rfl : list = threeValues := (Option.some_inj.mp hlist).symm
  obtain rfl : list' = threeValues := (Option.some_inj.mp hlist').symm
  rw [hprogrammed] at hnear
  have hrequest := (nearest_request_iff (List.cons_ne_nil _ _) 65936).mp ⟨closest, hclosest, hnear⟩
  rw [RequestNear, if_neg (by decide), if_pos (by decide)] at hrequest
  obtain ⟨hi, himem, hgreatest, hanswers⟩ := hrequest
  obtain rfl : 400 = hi := Option.some_inj.mp ((answersAt_iff himem _).mp hanswers)
  exact absurd (hgreatest 1600 (by decide)) (by decide)

end Logid.Features
