import Logid.Actions.ChangeDPI
import Logid.Features.Proofs.DPIConfig

/-!
# Requests that are cut

The chooser keeps the order of a list of values, so a request moves the DPI the wrong way only where
the sum has been cut to 16 bits; in a range also where rounding passes the last value.
-/

namespace Logid.Actions.ChangeDPI

open Backend.Hidpp20 (Hardware SensorDPIList)
open Features (Info AnswersOnSide getClosestDPI supported)
open IsNearest

/-! ## A press -/

/-- A press with a sensor and a sum that are there requests the sum. -/
theorem effect_eq {info : Info} {hw : Hardware} {inc : Int32} {sensor : UInt8} {list : SensorDPIList}
    (hlist : info.sensorLists[sensor.toNat]? = some list) {dpi : UInt16}
    (hdpi : request (hw.dpi sensor) inc = some dpi) :
    (Press.changeDPI inc sensor).effect info hw =
      if dpi = 0 then some hw
      else (getClosestDPI list dpi).map fun closest =>
        Backend.Hidpp20.AdjustableDPI.setSensorDPI hw sensor closest := by
  have hsensor : sensor.toNat < info.sensorLists.length := (List.getElem?_eq_some_iff.mp hlist).1
  have hsum : UInt16.ofInt ((hw.dpi sensor).toNat + inc.toInt) = dpi := by
    rw [request] at hdpi
    split at hdpi
    · exact Option.some_inj.mp hdpi
    · cases hdpi
  rw [Press.effect, Press.readSetting, if_pos hsensor]
  simp only [PressTask.write, Backend.Hidpp20.AdjustableDPI.getSensorDPI, hsum, hlist,
    Option.bind_some]

/-- On a list of values or a range with a step, a press from a supported DPI is defined and moves it as
asked exactly if the sum is no overflow and the list answers the request that it is cut to on the side
asked for. -/
theorem movesAsAsked_iff {info : Info} {hw : Hardware} {sensor : UInt8} {list : SensorDPIList}
    (hlist : info.sensorLists[sensor.toNat]? = some list) (hvalues : list.dpis ≠ [])
    (hstep : list.isRange = true → list.dpiStep ≠ 0)
    (hlast : ((hw.dpi sensor).toNat : Int) ∈ supported list) (inc : Int32) :
    MovesAsAsked info hw inc sensor ↔ RequestOnSide list inc (hw.dpi sensor) := by
  rw [MovesAsAsked, RequestOnSide]
  cases hdpi : request (hw.dpi sensor) inc with
  | none => simp
  | some dpi =>
    rw [effect_eq hlist hdpi]
    simp only [Option.isSome_some, true_and, Option.some_inj, exists_eq_left']
    by_cases hzero : dpi = 0
    · -- `setDPI` returns at once
      rw [if_pos hzero]
      refine iff_of_true ⟨hw, rfl, ?_⟩ fun hne => absurd hzero hne
      exact ⟨fun _ => UInt16.le_refl _, fun _ => UInt16.le_refl _⟩
    · obtain ⟨closest, hclosest⟩ := Option.isSome_iff_exists.mp
        ((Features.getClosestDPI_isSome_iff list dpi).mpr fun hrange => ⟨hvalues, hstep hrange⟩)
      have hmem : list.isRange = false → hw.dpi sensor ∈ list.dpis := by
        intro hplain
        rw [Features.supported_of_plain hplain] at hlast
        obtain ⟨value, hvalue, heq⟩ := hlast
        rwa [Features.toNat_injective heq]
      have hside := Features.answersOnSide_iff hvalues hstep hclosest hmem
      rw [if_neg hzero, forall_prop_of_true hzero, hclosest, hside, hside]
      simp [Backend.Hidpp20.AdjustableDPI.setSensorDPI, Features.Side.Holds]

/-- On a list of values the wrong direction comes from the cut alone. -/
theorem requestOnSide_of_values {list : SensorDPIList} (hplain : list.isRange = false)
    {inc : Int32} {last : UInt16} (hlow : 0 ≤ last.toNat + inc.toInt)
    (hhigh : last.toNat + inc.toInt ≤ 65535) : RequestOnSide list inc last := by
  have hrequest : request last inc = some (UInt16.ofInt (last.toNat + inc.toInt)) :=
    if_pos (hhigh.trans (by decide))
  have hsum : ((UInt16.ofInt (last.toNat + inc.toInt)).toNat : Int) = last.toNat + inc.toInt := by
    rw [UInt16.ofInt, UInt16.toNat_ofNat']
    omega
  -- a value on the other side of the last one is farther
  have hfar : ∀ value : UInt16, Precedes list.dpis (fun value => (value.toNat : Int))
      (UInt16.ofInt (last.toNat + inc.toInt)).toNat value last →
      |(last.toNat + inc.toInt) - (value.toNat : Int)| ≤
        |(last.toNat + inc.toInt) - (last.toNat : Int)| := by
    intro value hprecedes
    rw [← hsum]
    rcases hprecedes with h | ⟨h, -⟩
    · exact h.le
    · exact h.le
  refine ⟨_, hrequest, fun _ => ⟨?_, ?_⟩⟩
  · intro hneg
    simp only [AnswersOnSide, hplain]
    intro value _ hside hprecedes
    have hinc : inc.toInt < 0 := Int32.lt_iff_toInt_lt.mp hneg
    have hvalue : last.toNat < value.toNat := UInt16.not_le.mp hside
    have hdist := hfar value hprecedes
    rw [abs_of_nonpos (by omega), abs_of_nonpos (by omega)] at hdist
    omega
  · intro hpos
    simp only [AnswersOnSide, hplain]
    intro value _ hside hprecedes
    have hinc : 0 < inc.toInt := Int32.lt_iff_toInt_lt.mp hpos
    have hvalue : value.toNat < last.toNat := UInt16.not_le.mp hside
    have hdist := hfar value hprecedes
    rw [abs_of_nonneg (by omega), abs_of_nonneg (by omega)] at hdist
    omega

/-! ## A mouse at 800 -/

open Features (twoSensors twoSensorsControl threeValues)

theorem movesAsAsked_up : MovesAsAsked twoSensors twoSensorsControl.hardware 300 0 := by
  have hlist : twoSensors.sensorLists[(0 : UInt8).toNat]? = some threeValues := rfl
  refine (movesAsAsked_iff hlist (by decide) (by decide) (.inl ⟨800, by decide, rfl⟩) 300).mpr ?_
  refine ⟨1100, by decide, fun _ => ⟨fun hneg => absurd hneg (by decide), fun _ => ?_⟩⟩
  intro value hvalue hside hprecedes
  -- only 400 is below, and it is farther from 1100
  have hvalue : value ∈ [400, 800, 1600] := hvalue
  simp only [List.mem_cons, List.not_mem_nil, or_false] at hvalue
  rcases hvalue with rfl | rfl | rfl
  · revert hprecedes
    decide
  · exact hside (show (800 : UInt16) ≤ 800 by decide)
  · exact hside (show (800 : UInt16) ≤ 1600 by decide)

/-- 1000 below 800 is cut to 65336, whose nearest value is the greatest. -/
theorem press_down_moves_up :
    ¬∀ (info : Info) (hw : Hardware) (sensor : UInt8) (list : SensorDPIList),
      info.sensorLists[sensor.toNat]? = some list → list.dpis ≠ [] →
        (list.isRange = true → list.dpiStep ≠ 0) →
          ((hw.dpi sensor).toNat : Int) ∈ supported list →
            ∀ inc : Int32, MovesAsAsked info hw inc sensor := by
  intro h
  obtain ⟨-, hw', heffect, hside, -⟩ := h twoSensors twoSensorsControl.hardware 0 threeValues rfl
    (by decide) (by decide) (.inl ⟨800, by decide, rfl⟩) (-1000)
  obtain rfl : Backend.Hidpp20.AdjustableDPI.setSensorDPI twoSensorsControl.hardware 0 1600 = hw' :=
    Option.some_inj.mp heffect
  exact absurd (hside (by decide)) (by decide)

end Logid.Actions.ChangeDPI
