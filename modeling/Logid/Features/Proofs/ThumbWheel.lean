import Logid.Features.Proofs.Wheels

/-!
# Rotations of the thumb wheel

Every event presses the gesture of its direction again before it moves it, so an `IntervalGesture`
counts each event for itself: it fires with the events that turn the wheel by a whole interval.
-/

namespace Logid.Features

open Actions (FitsInt32 GestureObject InputEvent)

namespace ThumbWheel

/-! ## One event -/

/-- The gesture is an `IntervalGesture` with an action. -/
def CanFire (g : Option GestureObject) : Prop :=
  ∃ interval : Actions.IntervalGesture, g = some (.interval interval) ∧ interval.action.isSome

theorem CanFire.press {g : Option GestureObject} (h : CanFire g) (config : Config.Gesture) :
    CanFire (pressGesture config g) := by
  obtain ⟨interval, rfl, haction⟩ := h
  exact ⟨interval.press config true, rfl, haction⟩

theorem CanFire.move {g : Option GestureObject} (h : CanFire g) (config : Config.Gesture)
    (n : Int) : CanFire (moveGesture config n g).1 := by
  obtain ⟨interval, rfl, haction⟩ := h
  refine ⟨((interval.press config true).move config n).1, rfl, ?_⟩
  simp only [Actions.IntervalGesture.move]
  split
  · exact Actions.IntervalGesture.fire_isSome haction
  · exact haction

theorem CanFire.release {g : Option GestureObject} (h : CanFire g) (config : Config.Gesture) :
    CanFire (releaseGesture config g).1 := by
  obtain ⟨interval, rfl, haction⟩ := h
  exact ⟨interval, rfl, haction⟩

theorem CanFire.startRotation {w : ThumbWheel} {right : Bool} (h : CanFire (w.gesture right))
    (config : Config.ThumbWheel) : CanFire ((w.startRotation config).gesture right) := by
  cases right with
  | false => exact h.press _
  | true => exact h.press _

theorem CanFire.scroll {w : ThumbWheel} {right : Bool} (h : CanFire (w.gesture right))
    (config : Config.ThumbWheel) (rotation : Int) :
    CanFire ((w.scroll config rotation).1.gesture right) := by
  unfold ThumbWheel.scroll
  cases right with
  | false =>
    split
    · exact h
    · split
      · exact h.move _ _
      · exact h
  | true =>
    split
    · exact h.move _ _
    · split
      · exact h
      · exact h

theorem CanFire.stopRotation {w : ThumbWheel} {right : Bool} (h : CanFire (w.gesture right))
    (config : Config.ThumbWheel) : CanFire ((w.stopRotation config).1.gesture right) := by
  cases right with
  | false => exact h.release _
  | true => exact h.release _

theorem CanFire.rotate {w : ThumbWheel} {right : Bool} (h : CanFire (w.gesture right))
    (info : ThumbwheelInfo) (config : Config.ThumbWheel) (event : ThumbwheelEvent) :
    CanFire ((w.rotate info config event).1.gesture right) := by
  have hstart : CanFire ((if event.rotationStatus = rotationStart then w.startRotation config
      else w).gesture right) := by
    split
    · exact h.startRotation config
    · exact h
  have hscroll := hstart.scroll config
    (Actions.toInt16 (event.rotation.toInt * info.defaultDirection.toInt))
  unfold ThumbWheel.rotate
  simp only
  split
  · exact hscroll.stopRotation config
  · exact hscroll

theorem CanFire.handleEvent {w : ThumbWheel} {right : Bool} (h : CanFire (w.gesture right))
    (info : ThumbwheelInfo) (config : Config.ThumbWheel) (event : ThumbwheelEvent) :
    CanFire ((w.handleEvent info config event).1.gesture right) := by
  unfold ThumbWheel.handleEvent
  simp only
  split
  · exact @CanFire.rotate _ right (by cases right <;> exact h) info config event
  · cases right <;> exact h

/-- `getInfo` gives a direction of 1 or -1. -/
theorem natAbs_turn {info : ThumbwheelInfo}
    (hdirection : info.defaultDirection = 1 ∨ info.defaultDirection = -1)
    (event : ThumbwheelEvent) :
    (event.rotation.toInt * info.defaultDirection.toInt).natAbs = event.rotation.toInt.natAbs := by
  rw [Int.natAbs_mul]
  rcases hdirection with hdir | hdir
  · rw [hdir, show (1 : Int8).toInt.natAbs = 1 by decide, Nat.mul_one]
  · rw [hdir, show (-1 : Int8).toInt.natAbs = 1 by decide, Nat.mul_one]

theorem amount_le (event : ThumbwheelEvent) : 0 ≤ amount event ∧ amount event ≤ 32768 := by
  have hlow := event.rotation.le_toInt
  have hhigh := event.rotation.toInt_lt
  unfold amount
  omega

/-- The movement that an event gives to the gesture of its direction. -/
theorem movement_eq {info : ThumbwheelInfo}
    (hdirection : info.defaultDirection = 1 ∨ info.defaultDirection = -1) {right : Bool}
    {event : ThumbwheelEvent} (hstatus : event.rotationStatus ≠ rotationInactive)
    (htoward : Toward info right event) :
    movement info event =
      if amount event = 0 then none
      else if amount event ≤ 32767 then some (right, amount event)
      -- the opposite of -32768 is the number itself
      else some (false, -32768) := by
  have hamount : amount event =
      (event.rotation.toInt * info.defaultDirection.toInt).natAbs := by
    rw [natAbs_turn hdirection, amount]
  have hbound := (amount_le event).2
  unfold movement Toward at *
  rw [hamount] at hbound ⊢
  rw [if_neg hstatus]
  generalize event.rotation.toInt * info.defaultDirection.toInt = turn at htoward hbound ⊢
  by_cases hzero : turn = 0
  · subst hzero
    rfl
  · have hmoves : ¬(turn.natAbs : Int) = 0 := by omega
    rw [if_neg hmoves]
    by_cases hfits : (turn.natAbs : Int) ≤ 32767
    · have hturn : Actions.toInt16 turn = turn := Actions.toInt16_of_le (by omega) (by omega)
      have hback : Actions.toInt16 (-turn) = -turn := Actions.toInt16_of_le (by omega) (by omega)
      rw [if_pos hfits]
      simp only [hturn, hback]
      cases right with
      | true =>
        rw [if_pos rfl] at htoward
        have hpositive : turn > 0 := by omega
        rw [if_pos hpositive, Option.some_inj, Prod.mk.injEq]
        exact ⟨rfl, by omega⟩
      | false =>
        rw [if_neg Bool.false_ne_true] at htoward
        have hnegative : turn < 0 := by omega
        rw [if_neg (Int.not_lt.mpr htoward), if_pos hnegative, Option.some_inj, Prod.mk.injEq]
        exact ⟨rfl, by omega⟩
    · rw [if_neg hfits]
      have hends : turn = 32768 ∨ turn = -32768 := by omega
      rcases hends with rfl | rfl <;> decide

/-- A gesture that is pressed and then moved back does not fire. -/
theorem fires_back (config : Config.Gesture) {n : Int} (hn : n < 0) (g : GestureObject) :
    (g.press config true).fires config n = false := by
  cases g with
  | interval g =>
    have hback : Actions.Gesture.thresholdOr config + n < Actions.Gesture.thresholdOr config := by
      omega
    simp only [GestureObject.press, GestureObject.fires, Actions.IntervalGesture.fires,
      Actions.IntervalGesture.press, Actions.IntervalGesture.advance, if_true, if_pos hback]
    split <;> rfl
  | _ => rfl

/-- A gesture that is pressed and then moved by no more than an interval fires if it is a whole one. -/
theorem fires_ahead {config : Config.Gesture} (hinterval : 0 < Actions.Gesture.intervalOr config)
    {n : Int} (hn : 0 ≤ n) (hbound : n ≤ Actions.Gesture.intervalOr config)
    {g : Actions.IntervalGesture} (haction : g.action.isSome) :
    (GestureObject.press config true (.interval g)).fires config n =
      decide (n = Actions.Gesture.intervalOr config) := by
  have hpos : ¬Actions.Gesture.intervalOr config ≤ 0 := Int.not_le.mpr hinterval
  have hahead : ¬Actions.Gesture.thresholdOr config + n < Actions.Gesture.thresholdOr config := by
    omega
  have hcount : (Actions.Gesture.thresholdOr config + n - Actions.Gesture.thresholdOr config).tdiv
      (Actions.Gesture.intervalOr config) = n / Actions.Gesture.intervalOr config := by
    rw [add_sub_cancel_left, Int.tdiv_eq_ediv_of_nonneg hn]
  have hwhole : n / Actions.Gesture.intervalOr config > 0 ↔
      n = Actions.Gesture.intervalOr config := by
    rw [gt_iff_lt, Int.lt_iff_add_one_le, zero_add, Int.le_ediv_iff_mul_le hinterval, one_mul]
    omega
  simp only [GestureObject.press, GestureObject.fires, Actions.IntervalGesture.fires,
    Actions.IntervalGesture.press, Actions.IntervalGesture.advance, if_true,
    ← Actions.Gesture.intervalOr.eq_def, if_neg hpos, if_neg hahead, hcount, haction, Bool.and_true,
    decide_eq_decide]
  exact hwhole

/-- An event fires the gesture of its direction exactly if it turns the wheel by a whole interval. -/
theorem fires_eq_isWhole {info : ThumbwheelInfo} {config : Config.ThumbWheel} {w : ThumbWheel}
    (hdirection : info.defaultDirection = 1 ∨ info.defaultDirection = -1) {right : Bool}
    (hcan : CanFire (w.gesture right))
    (hinterval : 0 < Actions.Gesture.intervalOr (gestureEntry config right))
    {event : ThumbwheelEvent} (hstatus : event.rotationStatus ≠ rotationInactive)
    (htoward : Toward info right event)
    (hbound : amount event ≤ Actions.Gesture.intervalOr (gestureEntry config right)) :
    w.fires info config event =
      isWhole (Actions.Gesture.intervalOr (gestureEntry config right)) event := by
  unfold fires isWhole
  rw [movement_eq hdirection hstatus htoward]
  by_cases hzero : amount event = 0
  · have hne : ¬amount event = Actions.Gesture.intervalOr (gestureEntry config right) := by omega
    rw [if_pos hzero, decide_eq_false hne, Bool.false_and]
  · rw [if_neg hzero]
    by_cases hfits : amount event ≤ 32767
    · obtain ⟨g, hg, haction⟩ := hcan
      rw [if_pos hfits, decide_eq_true hfits, Bool.and_true]
      simp only [hg]
      exact fires_ahead hinterval (amount_le event).1 hbound haction
    · rw [if_neg hfits, decide_eq_false hfits, Bool.and_false]
      cases hother : w.gesture false with
      | none => simp only [hother]
      | some g =>
        simp only [hother]
        exact fires_back _ (by decide) g

/-! ## Rotations -/

theorem step_turning {info : ThumbwheelInfo} {config : Config.ThumbWheel} {w : ThumbWheel}
    {s t : Turning} {event : ThumbwheelEvent} (h : (turning info config w).step s event = some t) :
    t.wheel = (s.wheel.handleEvent info config event).1 ∧
      t.fired = s.fired + (s.wheel.fires info config event).toNat := by
  simp only [turning] at h
  split at h
  · cases h
    exact ⟨rfl, rfl⟩
  · cases h

/-- A run fires once for every event that turns the wheel by a whole interval. -/
theorem fired_run {info : ThumbwheelInfo} {config : Config.ThumbWheel} {w : ThumbWheel}
    (hdirection : info.defaultDirection = 1 ∨ info.defaultDirection = -1) {right : Bool}
    (hinterval : 0 < Actions.Gesture.intervalOr (gestureEntry config right))
    {events : List ThumbwheelEvent}
    (hstatus : ∀ event ∈ events, event.rotationStatus ≠ rotationInactive)
    (htoward : ∀ event ∈ events, Toward info right event)
    (hbound : ∀ event ∈ events,
      amount event ≤ Actions.Gesture.intervalOr (gestureEntry config right))
    {s t : Turning} (hcan : CanFire (s.wheel.gesture right))
    (hrun : (turning info config w).run s events = some t) :
    t.fired = s.fired +
      events.countP (isWhole (Actions.Gesture.intervalOr (gestureEntry config right))) := by
  induction events generalizing s with
  | nil =>
    cases hrun
    rfl
  | cons event events ih =>
    obtain ⟨u, hu, hrun⟩ := Machine.run_cons_some hrun
    obtain ⟨hwheel, hfired⟩ := step_turning hu
    have hnow := fires_eq_isWhole hdirection hcan hinterval (hstatus event List.mem_cons_self)
      (htoward event List.mem_cons_self) (hbound event List.mem_cons_self)
    have hrest := ih (fun e he => hstatus e (List.mem_cons_of_mem event he))
      (fun e he => htoward e (List.mem_cons_of_mem event he))
      (fun e he => hbound e (List.mem_cons_of_mem event he))
      (hwheel ▸ hcan.handleEvent info config event) hrun
    rw [hrest, hfired, hnow, List.countP_cons]
    cases isWhole (Actions.Gesture.intervalOr (gestureEntry config right)) event with
    | false => simp
    | true =>
      simp only [if_true, Bool.toNat_true]
      omega

/-- What the events turn the wheel by, in whole intervals and the rest. -/
theorem sum_amount (interval : Int) (events : List ThumbwheelEvent) :
    (events.map amount).sum = ((events.filter fun e => !isWhole interval e).map amount).sum +
      events.countP (isWhole interval) * interval := by
  induction events with
  | nil => simp
  | cons event events ih =>
    rw [List.map_cons, List.sum_cons, ih, List.countP_cons, List.filter_cons]
    cases hwhole : isWhole interval event with
    | false => simp [add_assoc]
    | true =>
      have hamount : amount event = interval := by
        rw [isWhole, Bool.and_eq_true, decide_eq_true_eq] at hwhole
        exact hwhole.1
      rw [hamount]
      simp only [Bool.not_true, Bool.false_eq_true, if_false, if_true]
      push_cast
      ring

theorem sum_amount_nonneg (events : List ThumbwheelEvent) : 0 ≤ (events.map amount).sum := by
  induction events with
  | nil => exact le_rfl
  | cons event events ih =>
    have hevent := (amount_le event).1
    rw [List.map_cons, List.sum_cons]
    omega

theorem exists_turned_iff {info : ThumbwheelInfo} {config : Config.ThumbWheel} {w : ThumbWheel}
    {events : List ThumbwheelEvent} :
    (∃ s, turned info config w events = some s) ↔ DefinedTurn info config w events := by
  refine Machine.exists_run_iff_follows fun s event => ?_
  simp only [turning]
  cases s.wheel.defined info config event with
  | false => simp
  | true => simp

theorem status_of_isRotation {events : List ThumbwheelEvent} (h : IsRotation events) :
    ∀ event ∈ events, event.rotationStatus ≠ rotationInactive := by
  obtain ⟨start, active, stop, rfl, hstart, hactive, hstop⟩ := h
  intro event hevent
  rcases List.mem_append.mp hevent with hevent | hevent
  · rcases List.mem_cons.mp hevent with rfl | hevent
    · rw [hstart]
      decide
    · rw [hactive event hevent]
      decide
  · rw [List.mem_singleton.mp hevent, hstop]
    decide

/-- Every 100 units to the right. -/
def everyHundred : Config.ThumbWheel := { right := some (.interval { interval := some 100 }) }

def tabWheel : ThumbWheel :=
  { right := some (.interval { action := some (.keypress ⟨[15], false⟩) }) }

/-- A start and a stop. -/
def flick (first last : Int16) : List ThumbwheelEvent :=
  [⟨first, rotationStart, 0⟩, ⟨last, rotationStop, 0⟩]

theorem isRotation_flick (first last : Int16) : IsRotation (flick first last) :=
  ⟨⟨first, rotationStart, 0⟩, [], ⟨last, rotationStop, 0⟩, rfl, rfl, (fun _ h => nomatch h),
    rfl⟩

end ThumbWheel

end Logid.Features
