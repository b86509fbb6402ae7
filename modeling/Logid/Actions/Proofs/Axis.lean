import Logid.Actions.Proofs.Interval
import Mathlib.Tactic.Linarith
import Mathlib.Tactic.Ring

/-!
# What an axis gesture sends

Every move beyond the threshold is rounded down for itself, so what the moves lose adds up. The ticks
go to the axis that the amount of the move names, so they are in step with the hi-res axis as long as
that is the right one.
-/

namespace Logid.Actions

theorem emitted_append (code : UInt32) (events more : List InputEvent) :
    emitted code (events ++ more) = emitted code events + emitted code more := by
  induction events with
  | nil => exact (zero_add _).symm
  | cons event events ih =>
    cases event with
    | key c down => exact ih
    | axis c movement => rw [List.cons_append, emitted, emitted, ih, add_assoc]

namespace AxisGesture

/-- What a move of a gesture with an axis does. -/
inductive Moved (config : Config.Gesture) (g : AxisGesture) (axis : Int) (code : UInt32) :
    AxisGesture × List InputEvent → Prop
  | below (h : g.axis + axis ≤ Gesture.thresholdOr config) :
    Moved config g axis code ({ g with axis := g.axis + axis }, [])
  | plain (remainder : Rat) (h : Gesture.thresholdOr config < g.axis + axis)
      (hlow : getLowResAxis (.ofInt axis) = none) :
    Moved config g axis code
      ({ g with axis := g.axis + axis, axisRemainder := remainder },
        [.axis code (g.scaled config axis)])
  | ticks (remainder : Rat) (lowResAxis : UInt32)
      (h : Gesture.thresholdOr config < g.axis + axis)
      (hlow : getLowResAxis (.ofInt axis) = some lowResAxis) :
    Moved config g axis code
      ({ g with
          axis := g.axis + axis
          axisRemainder := remainder
          hiresRemainder := (lowResSteps (g.hiresRemainder + g.scaled config axis)).2 },
        .axis code (g.scaled config axis) ::
          (lowResSteps (g.hiresRemainder + g.scaled config axis)).1.toList.map (.axis lowResAxis))

theorem move_moved (config : Config.Gesture) {g : AxisGesture} {code : UInt32}
    (hcode : g.inputAxis = some code) (axis : Int) :
    Moved config g axis code (g.move config axis) := by
  obtain ⟨total, remainder, hires, inputAxis, multiplier, given⟩ := g
  obtain rfl : inputAxis = some code := hcode
  simp only [move]
  split
  next h =>
    cases hlow : getLowResAxis (.ofInt axis) with
    | none => exact .plain _ h hlow
    | some lowResAxis => exact .ticks _ lowResAxis h hlow
  next h => exact .below (Int.not_lt.mp h)

theorem step_emitting {config : Config.Gesture} {g : AxisGesture} {e e' : Emission} {n : Int16}
    (h : (emitting config g).step e n = some e') :
    e.gesture.Defined config n.toInt ∧
      e' = ⟨(e.gesture.move config n.toInt).1, e.events ++ (e.gesture.move config n.toInt).2⟩ := by
  simp only [emitting] at h
  split at h
  next hdefined =>
    cases h
    exact ⟨hdefined, rfl⟩
  next => cases h

/-! ## Ticks -/

theorem tdiv_steps {remainder : Int} (h : ¬remainder.natAbs < 60) :
    (remainder - (if remainder.tdiv 120 = 0 then if remainder > 0 then 1 else -1
      else remainder.tdiv 120) * 120).natAbs < 120 := by
  rcases Int.le_total 0 remainder with hsign | hsign
  · rw [Int.tdiv_eq_ediv_of_nonneg hsign]
    split
    · split <;> omega
    · omega
  · rw [show remainder.tdiv 120 = -(-remainder / 120) by
      rw [← Int.tdiv_eq_ediv_of_nonneg (by omega), Int.neg_tdiv, Int.neg_neg]]
    split
    · split <;> omega
    · omega

/-- The steps are taken off the remainder, which stays below one step. -/
theorem lowResSteps_spec (remainder : Int) :
    (lowResSteps remainder).2 = remainder - 120 * (lowResSteps remainder).1.getD 0 ∧
      (lowResSteps remainder).2.natAbs < 120 := by
  unfold lowResSteps
  split
  next hmany =>
    have hbound := tdiv_steps (Nat.not_lt.mpr hmany)
    refine ⟨?_, hbound⟩
    rw [Option.getD_some, mul_comm]
  next hfew => exact ⟨by rw [Option.getD_none, mul_zero, sub_zero], by omega⟩

theorem emitted_steps (code lowResAxis : UInt32) (steps : Option Int) :
    emitted code (steps.toList.map (.axis lowResAxis)) =
      if lowResAxis = code then steps.getD 0 else 0 := by
  cases steps with
  | none => simp [emitted]
  | some steps => simp [emitted]

theorem getLowResAxis_eq_some {code lowResAxis : UInt32} (h : getLowResAxis code = some lowResAxis) :
    code = 0x0b ∧ lowResAxis = relWheel ∨ code = 0x0c ∧ lowResAxis = relHWheel := by
  unfold getLowResAxis at h
  split at h
  next hwheel =>
    cases h
    exact .inl ⟨hwheel, rfl⟩
  next =>
    split at h
    next hhwheel =>
      cases h
      exact .inr ⟨hhwheel, rfl⟩
    next => cases h

theorem getLowResAxis_ne {code lowResAxis : UInt32} (h : getLowResAxis code = some lowResAxis) :
    lowResAxis ≠ code := by
  rcases getLowResAxis_eq_some h with ⟨rfl, rfl⟩ | ⟨rfl, rfl⟩ <;> decide

/-- The remainder is what the hi-res axis is ahead of the ticks. -/
structure InStep (code : UInt32) (e : Emission) : Prop where
  inputAxis : e.gesture.inputAxis = some code
  ticks : ∀ c n, .axis c n ∈ e.events → c = relWheel ∨ c = relHWheel →
    c = code ∨ getLowResAxis code = some c
  remainder : ∀ lowResAxis, getLowResAxis code = some lowResAxis →
    emitted code e.events - 120 * emitted lowResAxis e.events = e.gesture.hiresRemainder ∧
      e.gesture.hiresRemainder.natAbs < 120

theorem inStep_press {config : Config.Gesture} {g : AxisGesture} {code : UInt32}
    (hcode : g.inputAxis = some code) (initThreshold : Bool) :
    InStep code { gesture := g.press config initThreshold } where
  inputAxis := hcode
  ticks := fun _ _ h => absurd h List.not_mem_nil
  remainder := fun _ _ => ⟨rfl, show (0 : Int).natAbs < 120 by decide⟩

theorem inStep_step {config : Config.Gesture} {g : AxisGesture} {code : UInt32} {e e' : Emission}
    {n : Int16} (he : InStep code e) (hnames : NamesAxis config e n)
    (hstep : (emitting config g).step e n = some e') : InStep code e' := by
  obtain ⟨-, rfl⟩ := step_emitting hstep
  simp only [NamesAxis, he.inputAxis, Option.bind_some] at hnames
  have hmoved := move_moved config he.inputAxis n.toInt
  generalize e.gesture.move config n.toInt = moved at hmoved ⊢
  cases hmoved with
  | below h =>
    rw [List.append_nil]
    exact ⟨he.inputAxis, he.ticks, he.remainder⟩
  | plain remainder h hlow =>
    -- the input axis has no low-res axis
    rw [hnames h] at hlow
    refine ⟨he.inputAxis, fun c m hmem hwheel => ?_, fun low hsome => ?_⟩
    · rcases List.mem_append.mp hmem with hold | hnew
      · exact he.ticks c m hold hwheel
      · rw [List.mem_singleton, InputEvent.axis.injEq] at hnew
        exact .inl hnew.1
    · rw [hlow] at hsome
      cases hsome
  | ticks remainder lowResAxis h hlow =>
    have hcode : getLowResAxis code = some lowResAxis := (hnames h).symm.trans hlow
    refine ⟨he.inputAxis, fun c m hmem hwheel => ?_, fun low hsome => ?_⟩
    · rcases List.mem_append.mp hmem with hold | hnew
      · exact he.ticks c m hold hwheel
      · rcases List.mem_cons.mp hnew with hmove | hstep
        · rw [InputEvent.axis.injEq] at hmove
          exact .inl hmove.1
        · obtain ⟨steps, -, heq⟩ := List.mem_map.mp hstep
          rw [InputEvent.axis.injEq] at heq
          rw [← heq.1]
          exact .inr hcode
    · obtain rfl : lowResAxis = low := Option.some_inj.mp (hcode.symm.trans hsome)
      obtain ⟨hahead, -⟩ := he.remainder lowResAxis hcode
      have hspec := lowResSteps_spec (e.gesture.hiresRemainder + e.gesture.scaled config n.toInt)
      have hne := getLowResAxis_ne hcode
      refine ⟨?_, hspec.2⟩
      rw [hspec.1, emitted_append, emitted_append, emitted, emitted, emitted_steps, emitted_steps,
        if_pos rfl, if_neg hne, if_neg hne.symm, if_pos rfl, ← hahead]
      ring

/-- All along a press whose moves name the axis, the ticks are in step with the hi-res axis, and the
wheels get nothing else. -/
theorem paired_of_namesAxis {config : Config.Gesture} {g : AxisGesture} {code : UInt32}
    (hcode : g.inputAxis = some code) (initThreshold : Bool) {moves : List Int16}
    (h : (emitting config (g.press config initThreshold)).Follows
      (fun e n => e.gesture.Defined config n.toInt ∧ NamesAxis config e n)
      (emitting config (g.press config initThreshold)).init moves) :
    (emitting config (g.press config initThreshold)).Completes (fun e => Paired code e.events)
      (emitting config (g.press config initThreshold)).init moves := by
  refine Machine.completes_of_follows (I := InStep code) (fun e he => ?_)
    (fun e n e' he hc hstep => inStep_step he hc.2 hstep) (inStep_press hcode initThreshold) h
  refine ⟨he.ticks, fun lowResAxis hlow => ?_⟩
  obtain ⟨hahead, hbound⟩ := he.remainder lowResAxis hlow
  rw [hahead]
  exact hbound

/-- `REL_WHEEL_HI_RES`, from the start of the press. -/
def hiResWheel : AxisGesture := { inputAxis := some 0x0b }

def scrolling : Config.Gesture := .axis { axis := some (.inr 0x0b) }

/-- Moves by 11 are sent with ticks for each 120 units. -/
theorem paired_moves_by_eleven :
    (emitting scrolling (hiResWheel.press scrolling true)).Completes
      (fun e => Paired 0x0b e.events)
      (emitting scrolling (hiResWheel.press scrolling true)).init [11, 11, 11, 11, 11, 11] :=
  paired_of_namesAxis rfl true (by decide +kernel)

/-- A move by 120 is sent without a tick. -/
theorem move_by_step_not_paired :
    hiResWheel.inputAxis = some 0x0b ∧
      ¬(emitting scrolling (hiResWheel.press scrolling true)).Completes
        (fun e => Paired 0x0b e.events)
        (emitting scrolling (hiResWheel.press scrolling true)).init [120] := by
  refine ⟨rfl, fun h => ?_⟩
  obtain ⟨e, hrun, hpaired⟩ := h.last
  have hevents : ((emitting scrolling (hiResWheel.press scrolling true)).run
      (emitting scrolling (hiResWheel.press scrolling true)).init [120]).map Emission.events =
        some [.axis 0x0b 120] := by decide +kernel
  rw [hrun, Option.map_some, Option.some_inj] at hevents
  rw [hevents] at hpaired
  exact absurd (hpaired.inStep relWheel rfl) (by decide)

/-! ## Rounding -/

/-- The part of a move that counts. -/
def counted (config : Config.Gesture) (g : AxisGesture) (axis : Int) : Int :=
  if g.axis < Gesture.thresholdOr config then g.axis + axis - Gesture.thresholdOr config else axis

theorem scaled_eq (config : Config.Gesture) (g : AxisGesture) (axis : Int) :
    g.scaled config axis = multiplierSign config *
      (counted config g axis * (|multiplierOr config| * g.multiplier) : Rat).floor := by
  have hcounted : (if g.axis < Gesture.thresholdOr config then
      ((g.axis + axis - Gesture.thresholdOr config : Int) : Rat) else axis) =
        (counted config g axis : Int) := by
    unfold counted
    split <;> rfl
  simp only [scaled, hcounted, multiplierSign]
  split
  next hnegative =>
    have hnegative : multiplierOr config < 0 := hnegative
    rw [if_pos hnegative, abs_of_neg hnegative, neg_one_mul, mul_assoc]
    rfl
  next hpositive =>
    have hpositive : ¬multiplierOr config < 0 := hpositive
    rw [if_neg hpositive, abs_of_nonneg (not_lt.mp hpositive), one_mul, mul_assoc]
    rfl

/-- A move starts to count at the threshold. -/
theorem counted_eq {config : Config.Gesture} {g : AxisGesture} {axis : Int}
    (h : Gesture.thresholdOr config < g.axis + axis) :
    counted config g axis = beyond config (g.axis + axis) - beyond config g.axis := by
  rw [counted, beyond_eq (Int.le_of_lt h)]
  split
  next hbefore => rw [beyond_eq_zero (Int.le_of_lt hbefore), sub_zero]
  next hafter =>
    rw [beyond_eq (Int.not_lt.mp hafter)]
    omega

theorem scaled_eq_movement {config : Config.Gesture} {g : AxisGesture} (hscale : g.multiplier = 1)
    {axis : Int} (h : Gesture.thresholdOr config < g.axis + axis) :
    g.scaled config axis = movement config g.axis axis := by
  rw [scaled_eq, counted_eq h, hscale, mul_one, movement, exactMovement,
    mul_comm |multiplierOr config|]

theorem movement_eq_zero {config : Config.Gesture} {total axis : Int} (haxis : 0 ≤ axis)
    (h : total + axis ≤ Gesture.thresholdOr config) : movement config total axis = 0 := by
  have hbefore : total ≤ Gesture.thresholdOr config := by omega
  have hexact : exactMovement config total axis = 0 := by
    rw [exactMovement, beyond_eq_zero h, beyond_eq_zero hbefore, sub_zero, Int.cast_zero, mul_zero]
  rw [movement, hexact, show (0 : Rat).floor = 0 from rfl, mul_zero]

/-- The input axis has no low-res axis, and its movements are not scaled further. -/
structure Plain (code : UInt32) (g : AxisGesture) : Prop where
  inputAxis : g.inputAxis = some code
  multiplier : g.multiplier = 1

/-- One move. -/
theorem step_plain {config : Config.Gesture} {g : AxisGesture} {code : UInt32} {e e' : Emission}
    {n : Int16} (he : Plain code e.gesture) (hn : 0 ≤ n.toInt)
    (hstep : (emitting config g).step e n = some e') :
    Plain code e'.gesture ∧ e'.gesture.axis = e.gesture.axis + n.toInt ∧
      e'.gesture.hiresRemainder =
        (strayStep config code e.gesture.hiresRemainder e.gesture.axis n.toInt).2 ∧
      emitted code e'.events = emitted code e.events + movement config e.gesture.axis n.toInt +
        (strayStep config code e.gesture.hiresRemainder e.gesture.axis n.toInt).1 := by
  obtain ⟨-, rfl⟩ := step_emitting hstep
  have hmoved := move_moved config he.inputAxis n.toInt
  generalize e.gesture.move config n.toInt = moved at hmoved ⊢
  cases hmoved with
  | below h =>
    refine ⟨⟨he.inputAxis, he.multiplier⟩, rfl, ?_, ?_⟩
    · rw [strayStep, if_neg (Int.not_lt.mpr h)]
    · rw [strayStep, if_neg (Int.not_lt.mpr h), List.append_nil, movement_eq_zero hn h]
      simp
  | plain remainder h hlow =>
    refine ⟨⟨he.inputAxis, he.multiplier⟩, rfl, ?_, ?_⟩
    · simp only [strayStep, if_pos h, hlow]
    · simp only [strayStep, if_pos h, hlow, emitted_append, emitted,
        scaled_eq_movement he.multiplier h]
      simp
  | ticks remainder lowResAxis h hlow =>
    refine ⟨⟨he.inputAxis, he.multiplier⟩, rfl, ?_, ?_⟩
    · simp only [strayStep, if_pos h, hlow, scaled_eq_movement he.multiplier h]
    · simp only [strayStep, if_pos h, hlow, emitted_append, emitted, emitted_steps,
        scaled_eq_movement he.multiplier h, if_true, add_assoc]

/-- A run sends the rounded movements, and what its moves put there astray. -/
theorem emitted_run {config : Config.Gesture} {g : AxisGesture} {code : UInt32}
    {moves : List Int16} {e e' : Emission} (he : Plain code e.gesture)
    (hmoves : ∀ n ∈ moves, 0 ≤ n.toInt) (hrun : (emitting config g).run e moves = some e') :
    emitted code e'.events = emitted code e.events +
      RunningTotal.sum (movement config) e.gesture.axis (movements moves) +
      stray config code e.gesture.hiresRemainder e.gesture.axis (movements moves) := by
  induction moves generalizing e with
  | nil =>
    cases hrun
    exact ((add_zero _).trans (add_zero _)).symm
  | cons n moves ih =>
    obtain ⟨d, hd, hrun⟩ := Machine.run_cons_some hrun
    obtain ⟨hplain, haxis, hremainder, hemitted⟩ :=
      step_plain he (hmoves n List.mem_cons_self) hd
    have hrest := ih hplain (fun m hm => hmoves m (List.mem_cons_of_mem n hm)) hrun
    rw [hrest, hemitted, haxis, hremainder, movements_cons, RunningTotal.sum, stray]
    ring

/-- Only the wheels themselves get something astray. -/
theorem stray_eq_zero {config : Config.Gesture} {code : UInt32} (hwheel : code ≠ relWheel)
    (hhwheel : code ≠ relHWheel) (remainder total : Int) (moves : List Int) :
    stray config code remainder total moves = 0 := by
  induction moves generalizing remainder total with
  | nil => rfl
  | cons n moves ih =>
    have hstep : (strayStep config code remainder total n).1 = 0 := by
      unfold strayStep
      split
      · split
        next lowResAxis hlow =>
          have hne : lowResAxis ≠ code := by
            rcases getLowResAxis_eq_some hlow with ⟨-, rfl⟩ | ⟨-, rfl⟩
            · exact hwheel.symm
            · exact hhwheel.symm
          exact if_neg hne
        next => rfl
      · rfl
    exact (congrArg₂ (· + ·) hstep (ih _ _)).trans (add_zero 0)

theorem multiplierOr_eq (config : Config.Gesture) :
    multiplierOr config = multiplierSign config * |multiplierOr config| := by
  unfold multiplierSign
  split
  next hnegative => rw [abs_of_neg hnegative, Int.cast_neg, Int.cast_one, neg_one_mul, neg_neg]
  next hpositive => rw [abs_of_nonneg (not_lt.mp hpositive), Int.cast_one, one_mul]

theorem movement_eq (config : Config.Gesture) (total axis : Int) :
    (movement config total axis : Rat) =
      multiplierOr config * (beyond config (total + axis) - beyond config total : Int) -
        multiplierSign config * lost config total axis := by
  have hexact : multiplierOr config * (beyond config (total + axis) - beyond config total : Int) =
      multiplierSign config * exactMovement config total axis := by
    conv_lhs => rw [multiplierOr_eq]
    rw [exactMovement, mul_assoc]
  rw [hexact, movement, lost, Int.cast_mul]
  ring

/-- The rounded movements are what the total is beyond the threshold, scaled, less what is lost. -/
theorem sum_movement (config : Config.Gesture) (s : Int) (ns : List Int) :
    ((RunningTotal.sum (movement config) s ns : Int) : Rat) =
      multiplierOr config * (beyond config (s + ns.sum) - beyond config s : Int) -
        multiplierSign config * RunningTotal.sum (lost config) s ns := by
  induction ns generalizing s with
  | nil => simp [RunningTotal.sum]
  | cons n ns ih =>
    rw [RunningTotal.sum, RunningTotal.sum, List.sum_cons, Int.cast_add, ih, movement_eq,
      ← add_assoc s]
    push_cast
    ring

/-- What is sent differs from the exact movement by what is astray, less what is lost. -/
theorem emitted_sub {config : Config.Gesture} (hthreshold : 0 ≤ Gesture.thresholdOr config)
    {g : AxisGesture} {code : UInt32} (hg : Plain code g) {initThreshold : Bool}
    {moves : List Int16} (hmoves : ∀ n ∈ moves, 0 ≤ n.toInt) {e : Emission}
    (hrun : emissionAfter config g initThreshold moves = some e) :
    (emitted code e.events : Rat) - multiplierOr config *
        (beyond config (pressedAxis config initThreshold + (movements moves).sum) : Int) =
      stray config code 0 (pressedAxis config initThreshold) (movements moves) -
        multiplierSign config * RunningTotal.sum (lost config) (pressedAxis config initThreshold)
          (movements moves) := by
  have hpressed : Plain code (g.press config initThreshold) := ⟨hg.inputAxis, hg.multiplier⟩
  have hemitted : emitted code e.events =
      RunningTotal.sum (movement config) (pressedAxis config initThreshold) (movements moves) +
        stray config code 0 (pressedAxis config initThreshold) (movements moves) :=
    (emitted_run (e := { gesture := g.press config initThreshold }) hpressed hmoves hrun).trans
      (congrArg (· + _) (zero_add _))
  rw [hemitted, Int.cast_add, sum_movement, beyond_pressedAxis hthreshold, sub_zero]
  ring

theorem exists_emissionAfter_iff {config : Config.Gesture} {g : AxisGesture} {initThreshold : Bool}
    {moves : List Int16} :
    (∃ e, emissionAfter config g initThreshold moves = some e) ↔
      DefinedAfter config g initThreshold moves := by
  refine Machine.exists_run_iff_follows fun e n => ?_
  simp only [emitting]
  split
  next h => simp [h]
  next h => simp [h]

/-- After a press and moves that are not backwards, what a gesture made of its entry has sent to its
axis is less than one unit from the exact movement exactly if no `int` has overflowed, and what it has
sent there astray, less the parts of a unit that its moves have lost, is less than one unit. -/
theorem emitted_within_one_iff {codes : EventCodes} {entry : Config.AxisGesture} {code : UInt32}
    (hthreshold : 0 ≤ Gesture.thresholdOr (.axis entry))
    (hcode : (make codes entry).inputAxis = some code) (initThreshold : Bool) {moves : List Int16}
    (hmoves : ∀ n ∈ moves, 0 ≤ n.toInt) :
    (∃ e, emissionAfter (.axis entry) (make codes entry) initThreshold moves = some e ∧
        |(emitted code e.events : Rat) - multiplierOr (.axis entry) *
          (max 0 (pressedAxis (.axis entry) initThreshold + (movements moves).sum -
            Gesture.thresholdOr (.axis entry)) : Int)| < 1) ↔
      DefinedAfter (.axis entry) (make codes entry) initThreshold moves ∧
        |stray (.axis entry) code 0 (pressedAxis (.axis entry) initThreshold) (movements moves) -
          multiplierSign (.axis entry) * RunningTotal.sum (lost (.axis entry))
            (pressedAxis (.axis entry) initThreshold) (movements moves)| < 1 := by
  have hplain : Plain code (make codes entry) := ⟨hcode, rfl⟩
  rw [← exists_emissionAfter_iff]
  constructor
  · rintro ⟨e, hrun, hlt⟩
    refine ⟨⟨e, hrun⟩, ?_⟩
    rw [← emitted_sub hthreshold hplain hmoves hrun]
    exact hlt
  · rintro ⟨⟨e, hrun⟩, hlt⟩
    refine ⟨e, hrun, ?_⟩
    rw [← emitted_sub hthreshold hplain hmoves hrun] at hlt
    exact hlt

def noCodes : EventCodes := { keyCode := fun _ => none, axisCode := fun _ => none }

/-- `REL_X` at half the speed. -/
def halfSpeed : Config.AxisGesture := { axis := some (.inr 0), axisMultiplier := some (1 / 2) }

/-- Two moves by 2 and 3 lose half a unit. -/
theorem emitted_within_one_halfSpeed :
    ∃ e, emissionAfter (.axis halfSpeed) (make noCodes halfSpeed) true [2, 3] = some e ∧
      |(emitted 0 e.events : Rat) - multiplierOr (.axis halfSpeed) *
        (max 0 (pressedAxis (.axis halfSpeed) true + (movements [2, 3]).sum -
          Gesture.thresholdOr (.axis halfSpeed)) : Int)| < 1 :=
  (emitted_within_one_iff (by decide) rfl true (by simp)).mpr (by decide +kernel)

/-- Two moves by 1 are lost. -/
theorem halfSpeed_loses_unit :
    0 ≤ Gesture.thresholdOr (.axis halfSpeed) ∧
      (make noCodes halfSpeed).inputAxis = some 0 ∧ getLowResAxis 0 = none ∧
      (∀ n ∈ ([1, 1] : List Int16), 0 ≤ n.toInt) ∧
      ¬∃ e, emissionAfter (.axis halfSpeed) (make noCodes halfSpeed) true [1, 1] = some e ∧
        |(emitted 0 e.events : Rat) - multiplierOr (.axis halfSpeed) *
          (max 0 (pressedAxis (.axis halfSpeed) true + (movements [1, 1]).sum -
            Gesture.thresholdOr (.axis halfSpeed)) : Int)| < 1 := by
  refine ⟨by decide, rfl, rfl, by simp, ?_⟩
  rintro ⟨e, hrun, hlt⟩
  have hevents : (emissionAfter (.axis halfSpeed) (make noCodes halfSpeed) true [1, 1]).map
      Emission.events = some [.axis 0 0, .axis 0 0] := by decide +kernel
  rw [hrun, Option.map_some, Option.some_inj] at hevents
  rw [hevents] at hlt
  exact absurd hlt (by decide +kernel)

end AxisGesture

end Logid.Actions
