import Logid.Features.ClosestDPI

/-!
# When the chosen value is the nearest

`std::min_element` finds a nearest value of a list. In a range the result is on the grid, above the
greatest value where the request is nearer to the grid point there than to one in the range.
-/

namespace Logid.Features

open Backend.Hidpp20 (SensorDPIList)
open IsNearest

/-! ## The values of a list -/

theorem lowest_spec (first : UInt16) (rest : List UInt16) :
    lowest first rest ∈ first :: rest ∧ ∀ a ∈ first :: rest, lowest first rest ≤ a := by
  have hargmin := List.argmin_cons_eq_foldl UInt16.toNat first rest
  exact ⟨List.argmin_mem hargmin, fun a ha => List.le_of_mem_argmin ha hargmin⟩

theorem highest_spec (first : UInt16) (rest : List UInt16) :
    highest first rest ∈ first :: rest ∧ ∀ a ∈ first :: rest, a ≤ highest first rest := by
  have hargmin := List.argmin_cons_eq_foldl (fun a : UInt16 => OrderDual.toDual a.toNat) first rest
  exact ⟨List.argmin_mem hargmin, fun a ha => List.le_of_mem_argmin ha hargmin⟩

/-- `std::min_element` finds the first of the nearest values. -/
theorem finds_nearest (dpi best : UInt16) (l : List UInt16) :
    Finds (best :: l) (fun value => (value.toNat : Int)) dpi.toNat (nearest dpi best l) := by
  have hfold : nearest dpi best l =
      l.foldl (fun m a => if dpiDistance dpi a < dpiDistance dpi m then a else m) best := by
    induction l generalizing best with
    | nil => rfl
    | cons a l ih =>
      have hlt : ((dpi.toNat - a.toNat : Int).natAbs < (dpi.toNat - best.toNat : Int).natAbs) ↔
          dpiDistance dpi a < dpiDistance dpi best := by
        rw [dpiDistance, dpiDistance, Int.abs_eq_natAbs, Int.abs_eq_natAbs, Int.ofNat_lt]
      rw [nearest, List.foldl_cons]
      split
      next h => rw [if_pos (hlt.mp h), ih]
      next h => rw [if_neg fun hdist => h (hlt.mpr hdist), ih]
  rw [hfold]
  exact Finds.foldl best l _ _

theorem nearest_spec (dpi best : UInt16) (l : List UInt16) :
    nearest dpi best l ∈ best :: l ∧
      ∀ a ∈ best :: l, dpiDistance dpi (nearest dpi best l) ≤ dpiDistance dpi a :=
  ⟨(finds_nearest dpi best l).mem, fun _ ha => (finds_nearest dpi best l).dist_le ha⟩

theorem mem_supported_of_mem {list : SensorDPIList} {dpi : UInt16} (h : dpi ∈ list.dpis) :
    (dpi.toNat : Int) ∈ supported list := .inl ⟨dpi, h, rfl⟩

/-- The ends of the list are the ends of what it supports. -/
theorem isLeast_supported_of_mem {list : SensorDPIList} {lo : UInt16} (hlo : lo ∈ list.dpis)
    (hleast : ∀ value ∈ list.dpis, lo ≤ value) : IsLeast (supported list) lo.toNat := by
  refine ⟨mem_supported_of_mem hlo, ?_⟩
  rintro v (⟨dpi, hdpi, rfl⟩ | ⟨-, lo', hlo', -, -, -, k, rfl, -⟩)
  · exact Int.ofNat_le.mpr (hleast dpi hdpi)
  · have hle : lo.toNat ≤ lo'.toNat := hleast lo' hlo'
    have hmul : (0 : Int) ≤ k * list.dpiStep.toNat :=
      mul_nonneg (Int.natCast_nonneg k) (Int.natCast_nonneg _)
    omega

theorem isGreatest_supported_of_mem {list : SensorDPIList} {hi : UInt16} (hhi : hi ∈ list.dpis)
    (hgreatest : ∀ value ∈ list.dpis, value ≤ hi) : IsGreatest (supported list) hi.toNat := by
  refine ⟨mem_supported_of_mem hhi, ?_⟩
  rintro v (⟨dpi, hdpi, rfl⟩ | ⟨-, -, -, hi', hhi', -, k, -, hle⟩)
  · exact Int.ofNat_le.mpr (hgreatest dpi hdpi)
  · exact hle.trans (Int.ofNat_le.mpr (hgreatest hi' hhi'))

/-! ## A list of values -/

theorem supported_of_plain {list : SensorDPIList} (hplain : list.isRange = false) :
    supported list = {v : Int | ∃ dpi ∈ list.dpis, v = dpi.toNat} := by
  ext v
  simp [supported, hplain]

/-- A request that is in the list is at distance 0, so it is found as well. -/
theorem getClosestDPI_of_plain {list : SensorDPIList} {first : UInt16} {rest : List UInt16}
    (hplain : list.isRange = false) (hdpis : list.dpis = first :: rest) (dpi : UInt16) :
    getClosestDPI list dpi = some (nearest dpi first rest) := by
  rw [getClosestDPI, hplain, if_neg Bool.false_ne_true, hdpis]
  split
  next hmem =>
    have hle := (nearest_spec dpi first rest).2 dpi hmem
    simp only [dpiDistance, sub_self, abs_zero, abs_nonpos_iff, sub_eq_zero, Int.ofNat_inj] at hle
    rw [← UInt16.toNat_inj.mp hle]
  next => rfl

theorem choosesNearest_plain {list : SensorDPIList} (hplain : list.isRange = false)
    (dpi : UInt16) : ChoosesNearest list dpi := by
  cases hdpis : list.dpis with
  | nil =>
    refine ⟨0, by simp [getClosestDPI, hplain, hdpis], ?_⟩
    rintro ⟨v, hv⟩
    rw [supported_of_plain hplain, hdpis] at hv
    obtain ⟨_, hv, _⟩ := hv
    cases hv
  | cons first rest =>
    obtain ⟨hin, hnear⟩ := nearest_spec dpi first rest
    rw [← hdpis] at hin hnear
    refine ⟨_, getClosestDPI_of_plain hplain hdpis dpi, fun _ => ⟨mem_supported_of_mem hin, ?_⟩⟩
    intro v hv
    rw [supported_of_plain hplain] at hv
    obtain ⟨value, hvalue, rfl⟩ := hv
    exact hnear value hvalue

/-! ## A range -/

section Range

variable {list : SensorDPIList} {first : UInt16} {rest : List UInt16}

theorem mem_supported_range (hrange : list.isRange = true) (hdpis : list.dpis = first :: rest)
    {v : Int} : v ∈ supported list ↔ (∃ dpi ∈ list.dpis, v = dpi.toNat) ∨
      ∃ k : Nat, v = (lowest first rest).toNat + k * list.dpiStep.toNat ∧
        v ≤ (highest first rest).toNat := by
  obtain ⟨hlo, hleast⟩ := lowest_spec first rest
  obtain ⟨hhi, hgreatest⟩ := highest_spec first rest
  rw [← hdpis] at hlo hleast hhi hgreatest
  constructor
  · rintro (hv | ⟨-, lo, hlomem, hi, himem, hall, k, hk, hle⟩)
    · exact .inl hv
    · have hloeq : lo = lowest first rest :=
        UInt16.le_antisymm (hall _ hlo).1 (hleast lo hlomem)
      have hhieq : hi = highest first rest :=
        UInt16.le_antisymm (hgreatest hi himem) (hall _ hhi).2
      subst hloeq hhieq
      exact .inr ⟨k, hk, hle⟩
  · rintro (hv | ⟨k, hk, hle⟩)
    · exact .inl hv
    · exact .inr ⟨hrange, _, hlo, _, hhi, fun a ha => ⟨hleast a ha, hgreatest a ha⟩, k, hk, hle⟩

theorem isLeast_supported (hdpis : list.dpis = first :: rest) :
    IsLeast (supported list) (lowest first rest).toNat := by
  obtain ⟨hlo, hleast⟩ := lowest_spec first rest
  rw [← hdpis] at hlo hleast
  exact isLeast_supported_of_mem hlo hleast

theorem isGreatest_supported (hdpis : list.dpis = first :: rest) :
    IsGreatest (supported list) (highest first rest).toNat := by
  obtain ⟨hhi, hgreatest⟩ := highest_spec first rest
  rw [← hdpis] at hhi hgreatest
  exact isGreatest_supported_of_mem hhi hgreatest

theorem getClosestDPI_of_range (hrange : list.isRange = true) (hdpis : list.dpis = first :: rest)
    (dpi : UInt16) : getClosestDPI list dpi =
      if list.dpiStep = 0 then none
      else if (dpi.toNat - (lowest first rest).toNat : Int) % list.dpiStep.toNat = 0 ∧
          lowest first rest ≤ dpi ∧ dpi ≤ highest first rest then some dpi
      else if highest first rest < dpi then some (highest first rest)
      else if dpi < lowest first rest then some (lowest first rest)
      else some (UInt16.ofNat ((lowest first rest).toNat +
        (2 * (dpi.toNat - (lowest first rest).toNat) + list.dpiStep.toNat) /
          (2 * list.dpiStep.toNat) * list.dpiStep.toNat)) := by
  rw [getClosestDPI, hrange, if_pos rfl, hdpis]
  rfl

theorem toNat_pos_of_ne_zero {step : UInt16} (h : step ≠ 0) : (0 : Int) < step.toNat := by
  have hne : step.toNat ≠ 0 := fun heq => h (UInt16.toNat_inj.mp heq)
  omega

/-- `round` in the natural numbers is the rounding on the grid. -/
theorem natRound_eq_gridRound {lo dpi : UInt16} (step : Nat) (hlo : lo ≤ dpi) :
    ((lo.toNat + (2 * (dpi.toNat - lo.toNat) + step) / (2 * step) * step : Nat) : Int) =
      gridRound lo.toNat step dpi.toNat := by
  have hle : lo.toNat ≤ dpi.toNat := hlo
  rw [gridRound]
  push_cast [Nat.cast_sub hle]
  rfl

/-- A request between the ends, on the grid or not, becomes the one that it is rounded to, cut to
16 bits. -/
theorem getClosestDPI_between (hrange : list.isRange = true) (hdpis : list.dpis = first :: rest)
    (hstep : list.dpiStep ≠ 0) {dpi : UInt16} (hlo : lowest first rest ≤ dpi)
    (hhi : dpi ≤ highest first rest) :
    ∃ k : Nat, (∀ j : Nat, RoundsTo list.dpiStep.toNat dpi.toNat
        ((lowest first rest).toNat + j * list.dpiStep.toNat) ↔ j = k) ∧
      getClosestDPI list dpi =
        some (UInt16.ofNat ((lowest first rest).toNat + k * list.dpiStep.toNat)) := by
  have hpos := toNat_pos_of_ne_zero hstep
  have hround := natRound_eq_gridRound list.dpiStep.toNat hlo
  refine ⟨(2 * (dpi.toNat - (lowest first rest).toNat) + list.dpiStep.toNat) /
    (2 * list.dpiStep.toNat), ?_, ?_⟩
  · intro j
    rw [← gridRound_eq_iff hpos, ← hround]
    push_cast
    rw [add_right_inj, mul_left_inj' hpos.ne', ← Nat.cast_inj (R := Int), eq_comm]
    rfl
  · rw [getClosestDPI_of_range hrange hdpis, if_neg hstep]
    split
    next hgrid =>
      rw [gridRound_eq hpos, hgrid.1, if_pos (by simpa using hpos), sub_zero] at hround
      rw [Int.ofNat_inj.mp hround, UInt16.ofNat_toNat]
    next => rw [if_neg (UInt16.not_lt.mpr hhi), if_neg (UInt16.not_lt.mpr hlo)]

/-- What a request is rounded to is not nearer than the grid, also where it is cut to 16 bits. -/
theorem gridDistance_le_ofNat {lo dpi step : UInt16} (hstep : step ≠ 0) {n : Nat}
    (hround : (n : Int) = gridRound lo.toNat step.toNat dpi.toNat) :
    gridDistance lo.toNat step.toNat dpi.toNat ≤ dpiDistance dpi (UInt16.ofNat n) := by
  have hdist := abs_sub_gridRound (a := lo.toNat) (x := dpi.toNat) (toNat_pos_of_ne_zero hstep)
  rw [← hround] at hdist
  rw [dpiDistance, UInt16.toNat_ofNat']
  by_cases hsmall : n < 65536
  · rw [Nat.mod_eq_of_lt hsmall, hdist]
  · -- a sum that is cut is more than half of all numbers below the request
    have hdpi := dpi.toNat_lt
    have hhalf := two_mul_gridDistance_le lo.toNat step.toNat dpi.toNat
    have hstepmax := step.toNat_lt
    rw [abs_of_nonpos (by omega)] at hdist
    have hcut : n % 2 ^ 16 = n - 65536 := by omega
    rw [hcut, abs_of_nonneg (by omega)]
    omega

/-- A request is rounded past a value above it only where that is nearer than the grid. -/
theorem round_le_of_gridDistance_le {lo dpi step hi : UInt16} (hstep : step ≠ 0) {n : Nat}
    (hround : (n : Int) = gridRound lo.toNat step.toNat dpi.toNat) (hhi : dpi ≤ hi)
    (hmax : gridDistance lo.toNat step.toNat dpi.toNat ≤ dpiDistance dpi hi) :
    n ≤ hi.toNat := by
  have hdpi : dpi.toNat ≤ hi.toNat := hhi
  have hdisthi : dpiDistance dpi hi = hi.toNat - (dpi.toNat : Int) := by
    rw [dpiDistance, abs_of_nonpos (by omega), neg_sub]
  rw [← abs_sub_gridRound (toNat_pos_of_ne_zero hstep), ← hround, hdisthi] at hmax
  have hup := (neg_le_abs ((dpi.toNat : Int) - n)).trans hmax
  omega

/-- Between the ends and off the grid, the value at the rounded place is nearest exactly if no value of
the list is nearer than the grid. -/
theorem isNearest_round_iff (hrange : list.isRange = true) (hdpis : list.dpis = first :: rest)
    (hstep : list.dpiStep ≠ 0) {dpi : UInt16} (hlo : lowest first rest ≤ dpi)
    (hhi : dpi ≤ highest first rest) :
    IsNearest (supported list) dpi.toNat (UInt16.ofNat ((lowest first rest).toNat +
        (2 * (dpi.toNat - (lowest first rest).toNat) + list.dpiStep.toNat) /
          (2 * list.dpiStep.toNat) * list.dpiStep.toNat)).toNat ↔
      ∀ value ∈ first :: rest,
        gridDistance (lowest first rest).toNat list.dpiStep.toNat dpi.toNat ≤
          dpiDistance dpi value := by
  have hpos := toNat_pos_of_ne_zero hstep
  have hround := natRound_eq_gridRound list.dpiStep.toNat hlo
  generalize hn : (lowest first rest).toNat +
    (2 * (dpi.toNat - (lowest first rest).toNat) + list.dpiStep.toNat) /
      (2 * list.dpiStep.toNat) * list.dpiStep.toNat = n at hround ⊢
  constructor
  · intro hnear value hvalue
    exact (gridDistance_le_ofNat hstep hround).trans
      (hnear.2 _ (mem_supported_of_mem (hdpis ▸ hvalue)))
  · intro hcond
    have hnmax : n ≤ (highest first rest).toNat :=
      round_le_of_gridDistance_le hstep hround hhi (hcond _ (highest_spec first rest).1)
    have hsmall : (UInt16.ofNat n).toNat = n := by
      have hmaxlt := (highest first rest).toNat_lt
      rw [UInt16.toNat_ofNat']
      omega
    rw [hsmall]
    constructor
    · exact (mem_supported_range hrange hdpis).mpr (.inr ⟨_, by rw [← hn]; push_cast; rfl, by omega⟩)
    · intro v hv
      rw [hround, abs_sub_gridRound hpos]
      rcases (mem_supported_range hrange hdpis).mp hv with ⟨value, hvalue, rfl⟩ | ⟨k, rfl, -⟩
      · exact hcond value (hdpis ▸ hvalue)
      · exact gridDistance_le hpos k

/-- A request above the least value at a multiple of the step. -/
theorem eq_add_mul_of_mod {lo dpi step : UInt16} (hlo : lo ≤ dpi)
    (hmod : (dpi.toNat - lo.toNat : Int) % step.toNat = 0) :
    (dpi.toNat : Int) =
      lo.toNat + (((dpi.toNat - lo.toNat : Int) / step.toNat).toNat : Int) * step.toNat := by
  have hle : lo.toNat ≤ dpi.toNat := hlo
  have hquot : (0 : Int) ≤ (dpi.toNat - lo.toNat : Int) / step.toNat :=
    Int.ediv_nonneg (by omega) (Int.natCast_nonneg _)
  have hmul := Int.ediv_mul_cancel (Int.dvd_of_emod_eq_zero hmod)
  rw [Int.toNat_of_nonneg hquot, hmul]
  omega

theorem choosesNearest_range_iff (hrange : list.isRange = true)
    (hdpis : list.dpis = first :: rest) (dpi : UInt16) :
    ChoosesNearest list dpi ↔ list.dpiStep ≠ 0 ∧
      (dpi < lowest first rest ∨ highest first rest < dpi ∨
        ∀ value ∈ first :: rest,
          gridDistance (lowest first rest).toNat list.dpiStep.toNat dpi.toNat ≤
            dpiDistance dpi value) := by
  have hnonempty : (supported list).Nonempty := ⟨_, (isLeast_supported hdpis).1⟩
  unfold ChoosesNearest
  rw [getClosestDPI_of_range hrange hdpis]
  split
  next hzero => simp [hzero]
  next hstep =>
    rw [and_iff_right hstep]
    split
    next hgrid =>
      -- the request is on the grid, which has distance 0
      obtain ⟨hmod, hlo, hhi⟩ := hgrid
      refine iff_of_true ⟨dpi, rfl, fun _ => of_mem ?_⟩ (.inr (.inr ?_))
      · exact (mem_supported_range hrange hdpis).mpr
          (.inr ⟨_, eq_add_mul_of_mod hlo hmod, Int.ofNat_le.mpr hhi⟩)
      · intro value _
        rw [gridDistance, hmod, min_eq_left (by simp)]
        exact abs_nonneg _
    next hoff =>
      split
      next hgt =>
        refine iff_of_true ⟨_, rfl, fun _ => of_isGreatest (isGreatest_supported hdpis) ?_⟩
          (.inr (.inl hgt))
        exact Int.ofNat_le.mpr (Nat.le_of_lt hgt)
      next hle =>
        split
        next hlt =>
          refine iff_of_true ⟨_, rfl, fun _ => of_isLeast (isLeast_supported hdpis) ?_⟩
            (.inl hlt)
          exact Int.ofNat_le.mpr (Nat.le_of_lt hlt)
        next hge =>
          have hiff := isNearest_round_iff hrange hdpis hstep (UInt16.not_lt.mp hge)
            (UInt16.not_lt.mp hle)
          rw [or_iff_right hge, or_iff_right hle, ← hiff]
          constructor
          · rintro ⟨closest, heq, hnear⟩
            obtain rfl := Option.some_inj.mp heq
            exact hnear hnonempty
          · intro hnear
            exact ⟨_, rfl, fun _ => hnear⟩

end Range

/-- `getClosestDPI` is defined and finds a nearest supported value exactly if the list is none of a
range, or the grid of the range is near enough to the request. -/
theorem choosesNearest_iff (list : SensorDPIList) (dpi : UInt16) :
    ChoosesNearest list dpi ↔ GridNear list dpi := by
  rw [GridNear]
  cases hrange : list.isRange with
  | false => simp [choosesNearest_plain hrange]
  | true =>
    rw [forall_prop_of_true rfl]
    cases hdpis : list.dpis with
    | nil => simp [ChoosesNearest, getClosestDPI, hrange, hdpis]
    | cons first rest => exact choosesNearest_range_iff hrange hdpis dpi

/-! ## The side of the result -/

theorem getClosestDPI_isSome_iff (list : SensorDPIList) (dpi : UInt16) :
    (getClosestDPI list dpi).isSome ↔ ChoosesValue list := by
  cases hrange : list.isRange with
  | false =>
    obtain ⟨closest, hclosest, -⟩ := choosesNearest_plain hrange dpi
    simp [hclosest, ChoosesValue, hrange]
  | true =>
    cases hdpis : list.dpis with
    | nil => simp [getClosestDPI, ChoosesValue, hrange, hdpis]
    | cons first rest =>
      rw [getClosestDPI_of_range hrange hdpis]
      by_cases hstep : list.dpiStep = 0
      · simp [ChoosesValue, hrange, hstep]
      · rw [if_neg hstep]
        simp only [ChoosesValue, hrange, hdpis, hstep, ne_eq, not_false_eq_true, and_true,
          List.cons_ne_nil, implies_true, iff_true]
        split
        · rfl
        · split
          · rfl
          · split <;> rfl

theorem toNat_injective : Function.Injective fun value : UInt16 => (value.toNat : Int) :=
  fun _ _ h => UInt16.toNat_inj.mp (Int.ofNat_inj.mp h)

/-- What the search of a list finds is on a side of a listed value exactly if that precedes all values on
the other side. -/
theorem holds_nearest_iff {first : UInt16} {rest : List UInt16} {bound : UInt16}
    (hbound : bound ∈ first :: rest) (side : Side) (dpi : UInt16) :
    side.Holds bound (nearest dpi first rest) ↔ ValuesOnSide (first :: rest) side bound dpi := by
  have hfinds := finds_nearest dpi first rest
  cases side with
  | atMost =>
    have hiff := hfinds.le_iff toNat_injective hbound
    simp only [ValuesOnSide, Side.Holds]
    simpa [UInt16.le_iff_toNat_le] using hiff
  | atLeast =>
    have hiff := hfinds.ge_iff toNat_injective hbound
    simp only [ValuesOnSide, Side.Holds]
    simpa [UInt16.le_iff_toNat_le] using hiff

theorem holds_range_iff {list : SensorDPIList} {first : UInt16} {rest : List UInt16}
    (hrange : list.isRange = true) (hdpis : list.dpis = first :: rest) (hstep : list.dpiStep ≠ 0)
    {dpi closest : UInt16} (hclosest : getClosestDPI list dpi = some closest) (side : Side)
    (bound : UInt16) :
    side.Holds bound closest ↔ RangeOnSide first rest list.dpiStep side bound dpi := by
  rw [RangeOnSide]
  split
  next hgt =>
    have hnot : ¬(dpi ≤ highest first rest) := UInt16.not_le.mpr hgt
    simp only [getClosestDPI_of_range hrange hdpis, hstep, hnot, hgt, and_false, if_false, if_true,
      Option.some_inj] at hclosest
    rw [hclosest]
  next hle =>
    split
    next hlt =>
      have hnot : ¬(lowest first rest ≤ dpi) := UInt16.not_le.mpr hlt
      simp only [getClosestDPI_of_range hrange hdpis, hstep, hnot, hle, hlt, false_and, and_false,
        if_false, if_true, Option.some_inj] at hclosest
      rw [hclosest]
    next hge =>
      obtain ⟨k, hk, hround⟩ := getClosestDPI_between hrange hdpis hstep
        (UInt16.not_lt.mp hge) (UInt16.not_lt.mp hle)
      obtain rfl := Option.some_inj.mp (hround.symm.trans hclosest)
      simp only [hk, forall_eq]

/-- The result is on a side of a value exactly if the list answers there; a list of values is only asked
about values of its own. -/
theorem answersOnSide_iff {list : SensorDPIList} (hvalues : list.dpis ≠ [])
    (hstep : list.isRange = true → list.dpiStep ≠ 0) {dpi closest bound : UInt16}
    (hclosest : getClosestDPI list dpi = some closest)
    (hbound : list.isRange = false → bound ∈ list.dpis) (side : Side) :
    AnswersOnSide list side bound dpi ↔ side.Holds bound closest := by
  obtain ⟨first, rest, hdpis⟩ := List.exists_cons_of_ne_nil hvalues
  rw [AnswersOnSide, hdpis]
  cases hrange : list.isRange with
  | true => exact (holds_range_iff hrange hdpis (hstep hrange) hclosest side bound).symm
  | false =>
    have hmem := hbound hrange
    rw [hdpis] at hmem
    obtain rfl := Option.some_inj.mp ((getClosestDPI_of_plain hrange hdpis dpi).symm.trans hclosest)
    exact (holds_nearest_iff hmem side dpi).symm

/-! ## The lists of responses -/

open Backend.Hidpp20.AdjustableDPI (getSensorDPIList)

/-- A request of a sensor is met by the nearest of the values in its response exactly if it is near the
grid of the response. -/
theorem decoded_nearest_iff (response : Backend.Hidpp.Report) (dpi : UInt16) :
    (∀ list, getSensorDPIList response = some list → ChoosesNearest list dpi) ↔
      ∀ list, getSensorDPIList response = some list → GridNear list dpi := by
  constructor
  · intro hchooses list hlist
    exact (choosesNearest_iff list dpi).mp (hchooses list hlist)
  · intro hnear list hlist
    exact (choosesNearest_iff list dpi).mpr (hnear list hlist)

/-- A range from 100 to 250 with step 100. -/
def offGridResponse : Backend.Hidpp.Report where
  data := [0x11, 0xff, 0x05, 0x12, 0x00, 0x00, 0x64, 0xe0, 0x64, 0x00, 0xfa] ++ List.replicate 9 0x00
  valid := ⟨.long, rfl, rfl⟩

/-- The greatest value itself is rounded to 300. -/
theorem getClosestDPI_above_range :
    ¬∀ (response : Backend.Hidpp.Report) (list : SensorDPIList),
      getSensorDPIList response = some list → ∀ dpi, ChoosesNearest list dpi := by
  intro h
  have hnear := h offGridResponse { dpis := [100, 250], isRange := true, dpiStep := 100 } rfl 250
  obtain ⟨-, hless | hmore | hall⟩ := (choosesNearest_range_iff rfl rfl 250).mp hnear
  · exact absurd hless (by decide)
  · exact absurd hmore (by decide)
  · exact absurd (hall 250 (by decide)) (by decide)

end Logid.Features
