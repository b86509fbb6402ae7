import Logid.Actions.Moves
import Mathlib.Algebra.Order.Group.Int

/-!
# An interval gesture fires once for a move

The action fires when the number of intervals has grown, so a move that crosses two boundaries fires
once. It has fired once for every interval exactly if no move has crossed two.
-/

namespace Logid.Actions

theorem toInt16_eq (n : Int) :
    toInt16 n = if n % 65536 < 32768 then n % 65536 else n % 65536 - 65536 := by
  rw [toInt16, Int.bmod_def]
  rfl

theorem toInt16_of_le {n : Int} (hlow : -32768 ≤ n) (hhigh : n ≤ 32767) : toInt16 n = n := by
  rw [toInt16_eq]
  split <;> omega

theorem beyond_eq {config : Config.Gesture} {total : Int}
    (h : Gesture.thresholdOr config ≤ total) :
    beyond config total = total - Gesture.thresholdOr config := by
  unfold beyond
  omega

theorem beyond_eq_zero {config : Config.Gesture} {total : Int}
    (h : total ≤ Gesture.thresholdOr config) : beyond config total = 0 := by
  unfold beyond
  omega

theorem beyond_mono {config : Config.Gesture} {s t : Int} (h : s ≤ t) :
    beyond config s ≤ beyond config t := by
  unfold beyond
  omega

/-- A press leaves nothing beyond the threshold. -/
theorem beyond_pressedAxis {config : Config.Gesture} (h : 0 ≤ Gesture.thresholdOr config)
    (initThreshold : Bool) : beyond config (pressedAxis config initThreshold) = 0 := by
  apply beyond_eq_zero
  unfold pressedAxis
  split <;> omega

theorem pressedAxis_nonneg {config : Config.Gesture} (h : 0 ≤ Gesture.thresholdOr config)
    (initThreshold : Bool) : 0 ≤ pressedAxis config initThreshold := by
  unfold pressedAxis
  split <;> omega

/-- A threshold is an `int`. -/
theorem fitsInt32_thresholdOr (config : Config.Gesture) :
    FitsInt32 (Gesture.thresholdOr config) := by
  unfold Gesture.thresholdOr
  split
  next threshold _ => exact ⟨threshold.le_toInt, by have := threshold.toInt_lt; omega⟩
  next => decide

theorem fitsInt32_pressedAxis (config : Config.Gesture) (initThreshold : Bool) :
    FitsInt32 (pressedAxis config initThreshold) := by
  unfold pressedAxis
  split
  · exact fitsInt32_thresholdOr config
  · decide

theorem movements_cons (n : Int16) (moves : List Int16) :
    movements (n :: moves) = n.toInt :: movements moves := rfl

theorem sum_movements_nonneg {moves : List Int16} (h : ∀ n ∈ moves, 0 ≤ n.toInt) :
    0 ≤ (movements moves).sum := by
  induction moves with
  | nil => exact le_rfl
  | cons n moves ih =>
    have hn : 0 ≤ n.toInt := h n List.mem_cons_self
    have hrest := ih fun m hm => h m (List.mem_cons_of_mem n hm)
    rw [movements_cons, List.sum_cons]
    omega

namespace IntervalGesture

/-- What a move adds to the number of times the action has fired. -/
def jump (config : Config.Gesture) (total axis : Int) : Int :=
  if intervals config total < intervals config (total + axis) then 1 else 0

theorem intervals_mono {config : Config.Gesture} (hinterval : 0 < Gesture.intervalOr config)
    {s t : Int} (h : s ≤ t) : intervals config s ≤ intervals config t :=
  Int.ediv_le_ediv hinterval (beyond_mono h)

/-- The gesture counts the intervals of its total. -/
structure Counts (config : Config.Gesture) (g : IntervalGesture) : Prop where
  axis : 0 ≤ g.axis
  count : g.intervalPassCount = intervals config g.axis
  action : g.action.isSome

theorem press_counts {config : Config.Gesture} (hthreshold : 0 ≤ Gesture.thresholdOr config)
    {g : IntervalGesture} (haction : g.action.isSome) (initThreshold : Bool) :
    Counts config (g.press config initThreshold) where
  axis := pressedAxis_nonneg hthreshold initThreshold
  count := by
    show 0 = beyond config (pressedAxis config initThreshold) / _
    rw [beyond_pressedAxis hthreshold, Int.zero_ediv]
  action := haction

theorem fire_isSome {a : Option BasicObject} (h : a.isSome) : (BasicObject.fire a).1.isSome := by
  cases a with
  | none => cases h
  | some a => rfl

/-- What `advance` computes for a movement that is not backwards. -/
theorem advance_eq {config : Config.Gesture} (hinterval : 0 < Gesture.intervalOr config)
    {g : IntervalGesture} (hg : Counts config g) {axis : Int} (haxis : 0 ≤ axis) :
    g.advance config axis = (g.axis + axis, intervals config (g.axis + axis),
      decide (intervals config g.axis < intervals config (g.axis + axis))) := by
  have hmono := intervals_mono hinterval (Int.le_add_of_nonneg_right (a := g.axis) haxis)
  have hpos : ¬Gesture.intervalOr config ≤ 0 := Int.not_le.mpr hinterval
  unfold advance
  simp only [← Gesture.intervalOr.eq_def, if_neg hpos]
  by_cases hmet : g.axis + axis < Gesture.thresholdOr config
  · -- neither total has reached the threshold
    have hold : intervals config g.axis = 0 := by
      rw [intervals, beyond_eq_zero (by omega), Int.zero_ediv]
    have hnew : intervals config (g.axis + axis) = 0 := by
      rw [intervals, beyond_eq_zero (by omega), Int.zero_ediv]
    simp [if_pos hmet, hg.count, hold, hnew]
  · have hdiv : (g.axis + axis - Gesture.thresholdOr config).tdiv (Gesture.intervalOr config) =
        intervals config (g.axis + axis) := by
      rw [intervals, beyond_eq (by omega), Int.tdiv_eq_ediv_of_nonneg (by omega)]
    simp only [if_neg hmet, hdiv, hg.count, gt_iff_lt]

theorem defined_iff {config : Config.Gesture} (hthreshold : 0 ≤ Gesture.thresholdOr config)
    (hinterval : 0 < Gesture.intervalOr config) {g : IntervalGesture} {axis : Int} :
    g.Defined config axis ↔ FitsInt32 (g.axis + axis) := by
  unfold Defined FitsInt32
  constructor
  · intro h
    exact (h hinterval).1
  · intro h _
    exact ⟨h, by omega⟩

/-- One move. -/
theorem step_counting {config : Config.Gesture} (hthreshold : 0 ≤ Gesture.thresholdOr config)
    (hinterval : 0 < Gesture.intervalOr config) {g : IntervalGesture} {c : Counted}
    (hc : Counts config c.gesture) {n : Int16} (hn : 0 ≤ n.toInt)
    (hfits : FitsInt32 (c.gesture.axis + n.toInt)) :
    ∃ c', (counting config g).step c n = some c' ∧ Counts config c'.gesture ∧
      c'.gesture.axis = c.gesture.axis + n.toInt ∧
      (c'.fired : Int) = c.fired + jump config c.gesture.axis n.toInt := by
  have hadvance := advance_eq hinterval hc hn
  refine ⟨_, if_pos ((defined_iff hthreshold hinterval).mpr hfits), ?_, ?_, ?_⟩
  · constructor
    · simp only [move, hadvance]
      exact add_nonneg hc.axis hn
    · simp only [move, hadvance]
    · simp only [move, hadvance]
      split
      · exact fire_isSome hc.action
      · exact hc.action
  · simp only [move, hadvance]
  · simp only [fires, hadvance, hc.action, jump, Bool.and_true, Nat.cast_add]
    by_cases hmore : intervals config c.gesture.axis <
        intervals config (c.gesture.axis + n.toInt) <;> simp [hmore]

/-- A run that comes to its end has added up its moves, and fired with each that has crossed a
boundary. -/
theorem run_counting {config : Config.Gesture} (hthreshold : 0 ≤ Gesture.thresholdOr config)
    (hinterval : 0 < Gesture.intervalOr config) {g : IntervalGesture} {moves : List Int16}
    {c : Counted} (hc : Counts config c.gesture) (hmoves : ∀ n ∈ moves, 0 ≤ n.toInt)
    (hfits : FitsInt32 (c.gesture.axis + (movements moves).sum)) :
    ∃ c', (counting config g).run c moves = some c' ∧
      (c'.fired : Int) =
        c.fired + RunningTotal.sum (jump config) c.gesture.axis (movements moves) := by
  induction moves generalizing c with
  | nil => exact ⟨c, rfl, (add_zero _).symm⟩
  | cons n moves ih =>
    have hn : 0 ≤ n.toInt := hmoves n List.mem_cons_self
    have hrest : ∀ m ∈ moves, 0 ≤ m.toInt := fun m hm => hmoves m (List.mem_cons_of_mem n hm)
    have hsum := sum_movements_nonneg hrest
    have haxis := hc.axis
    rw [movements_cons, List.sum_cons, ← add_assoc] at hfits
    have hnow : FitsInt32 (c.gesture.axis + n.toInt) := by
      unfold FitsInt32 at *
      omega
    obtain ⟨d, hd, hcounts, hdaxis, hfired⟩ := step_counting hthreshold hinterval (g := g) hc hn hnow
    rw [← hdaxis] at hfits
    obtain ⟨c', hrun, hc'⟩ := ih hcounts hrest hfits
    refine ⟨c', by rw [Machine.run_cons, hd, Option.bind_some, hrun], ?_⟩
    rw [hc', hfired, hdaxis, movements_cons, RunningTotal.sum, add_assoc]

/-- A run that comes to its end has not overflowed. -/
theorem fits_of_run {config : Config.Gesture} (hthreshold : 0 ≤ Gesture.thresholdOr config)
    (hinterval : 0 < Gesture.intervalOr config) {g : IntervalGesture} {moves : List Int16}
    {c c' : Counted} (hc : Counts config c.gesture) (hmoves : ∀ n ∈ moves, 0 ≤ n.toInt)
    (haxis : FitsInt32 c.gesture.axis) (h : (counting config g).run c moves = some c') :
    FitsInt32 (c.gesture.axis + (movements moves).sum) := by
  induction moves generalizing c with
  | nil =>
    rw [movements, List.map_nil, List.sum_nil, add_zero]
    exact haxis
  | cons n moves ih =>
    obtain ⟨d, hd, hrun⟩ := Machine.run_cons_some h
    have hn : 0 ≤ n.toInt := hmoves n List.mem_cons_self
    have hnow : FitsInt32 (c.gesture.axis + n.toInt) := by
      apply (defined_iff hthreshold hinterval).mp
      by_contra hundefined
      rw [show (counting config g).step c n = none from if_neg hundefined] at hd
      cases hd
    obtain ⟨d', hd', hcounts, hdaxis, -⟩ := step_counting hthreshold hinterval (g := g) hc hn hnow
    obtain rfl : d = d' := Option.some_inj.mp (hd.symm.trans hd')
    have hfits := ih hcounts (fun m hm => hmoves m (List.mem_cons_of_mem n hm))
      (hdaxis ▸ hnow) hrun
    rw [movements_cons, List.sum_cons, ← add_assoc, ← hdaxis]
    exact hfits

/-- The jumps add up to the intervals crossed exactly if every move has crossed at most one. -/
theorem sum_jump_eq_iff {config : Config.Gesture} (hinterval : 0 < Gesture.intervalOr config)
    {s : Int} {ns : List Int} (hns : ∀ n ∈ ns, 0 ≤ n) :
    RunningTotal.sum (jump config) s ns = intervals config (s + ns.sum) - intervals config s ↔
      RunningTotal.Each (fun s n => intervals config (s + n) ≤ intervals config s + 1) s ns := by
  have hmono : RunningTotal.Each
      (fun s n => intervals config s ≤ intervals config (s + n)) s ns :=
    RunningTotal.each_of_forall_mem fun n hn s =>
      intervals_mono hinterval (Int.le_add_of_nonneg_right (hns n hn))
  have hmissed : RunningTotal.Each (fun s n =>
      0 ≤ intervals config (s + n) - intervals config s - jump config s n) s ns := by
    refine hmono.imp fun s n h => ?_
    unfold jump
    split <;> omega
  rw [← RunningTotal.sum_gain, eq_comm, ← sub_eq_zero, ← RunningTotal.sum_sub,
    RunningTotal.sum_eq_zero_iff hmissed]
  refine RunningTotal.each_congr (hmono.imp fun s n h => ?_)
  unfold jump
  split <;> omega

/-- Every 10 units beyond 50. -/
def everyTen : Config.Gesture := .interval { threshold := some 50, interval := some 10 }

def volume : IntervalGesture := { action := some (.keypress ⟨[115], false⟩) }

end IntervalGesture

end Logid.Actions
