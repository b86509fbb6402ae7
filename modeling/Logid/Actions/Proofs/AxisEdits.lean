import Logid.Actions.AxisEdits
import Logid.Actions.Proofs.Axis

/-!
# Edited axis gestures and loaded ones

Two gestures with one entry and one axis react alike exactly if their multipliers scale alike every
movement that can be scaled as a whole. The gesture that is edited keeps its multiplier where the one
that is loaded has another. Nothing is used of the arithmetic of doubles.
-/

namespace Logid.Actions.AxisEdits

open AxisGesture (noCodes)

variable {other : Float → Int32} {entry : Entry} {g g' : Live}

/-! ## Moves -/

theorem fitsInt32_thresholdOr (threshold : Option Int32) : FitsInt32 (thresholdOr threshold) := by
  cases threshold with
  | none => exact ⟨by decide, by decide⟩
  | some t =>
    have hlow := t.le_toInt
    have hhigh := t.toInt_lt
    exact ⟨hlow, Int.le_of_lt_add_one hhigh⟩

theorem move_none (h : g.inputAxis = none) (axis : Int) :
    g.move other entry axis = ([], some g) := by
  simp only [Live.move, h]

/-- Below the threshold only `_axis` changes. -/
theorem move_below {code : UInt32} (hcode : g.inputAxis = some code) {axis : Int}
    (hfits : FitsInt32 (g.axis + axis)) (hbelow : g.axis + axis ≤ thresholdOr entry.threshold) :
    g.move other entry axis = ([], some { g with axis := g.axis + axis }) := by
  simp only [Live.move, hcode, if_pos hfits, gt_iff_lt, if_neg (Int.not_lt.mpr hbelow)]

theorem move_beyond {code : UInt32} (hcode : g.inputAxis = some code) {axis : Int}
    (hfits : FitsInt32 (g.axis + axis)) (hbeyond : thresholdOr entry.threshold < g.axis + axis) :
    g.move other entry axis =
      Live.send { g with
        axis := g.axis + axis
        axisRemainder := (scaled entry.configured g.multiplier (g.start entry axis)).2 } code axis
        (units other entry.configured g.multiplier (g.start entry axis)) := by
  simp only [Live.move, hcode, if_pos hfits, gt_iff_lt, if_pos hbeyond]

theorem head_send (g : Live) (code : UInt32) (axis movement : Int) :
    (g.send code axis movement).1.head? = some (.axis code movement) := by
  rw [Live.send]
  split
  · rfl
  · split <;> rfl

theorem start_of_met (hmet : thresholdOr entry.threshold ≤ g.axis) (axis : Int) :
    g.start entry axis = axis := if_neg (Int.not_lt.mpr hmet)

/-- Up by one beyond the threshold. -/
theorem move_one (other : Float → Int32) {code : UInt32} (hcode : g.inputAxis = some code)
    (hmet : thresholdOr entry.threshold ≤ g.axis) (hroom : g.axis + 1 ≤ 2147483647) :
    ∃ t, g.move other entry 1 =
        ([.axis code (units other entry.configured g.multiplier 1)], some t) ∧
      t.axis = g.axis + 1 ∧ t.inputAxis = some code ∧ t.multiplier = g.multiplier := by
  have hlow := (fitsInt32_thresholdOr entry.threshold).1
  have hone : getLowResAxis (.ofInt 1) = none := by decide
  refine ⟨{ g with
    axis := g.axis + 1
    axisRemainder := (scaled entry.configured g.multiplier 1).2 }, ?_, rfl, hcode, rfl⟩
  rw [move_beyond hcode ⟨by omega, hroom⟩ (by omega), start_of_met hmet, Live.send, hone]

/-! ## Gestures that react alike -/

/-- The gestures differ in what they do not react with, and in multipliers that scale alike. -/
structure Alike (other : Float → Int32) (entry : Entry) (g g' : Live) : Prop where
  axis : g.axis = g'.axis
  fits : FitsInt32 g.axis
  inputAxis : g.inputAxis = g'.inputAxis
  hiresRemainder : g.hiresRemainder = g'.hiresRemainder
  scale : g.inputAxis = none ∨
    SameScale other entry.threshold entry.configured g.multiplier g'.multiplier

/-- What is scaled of a move is a movement that can be scaled as a whole. -/
theorem reaches_start (hfits : FitsInt32 g.axis) {n : Int16} (hfits' : FitsInt32 (g.axis + n.toInt))
    (hbeyond : thresholdOr entry.threshold < g.axis + n.toInt) :
    (Int16.ofInt (g.start entry n.toInt)).toInt = g.start entry n.toInt ∧
      Reaches entry.threshold (g.start entry n.toInt) := by
  have hlow := n.le_toInt
  have hhigh := n.toInt_lt
  obtain ⟨-, hmax⟩ := hfits
  obtain ⟨-, hmax'⟩ := hfits'
  unfold Reaches Live.start
  split
  · exact ⟨Int16.toInt_ofInt_of_le (by omega) (by omega), by omega⟩
  · exact ⟨Int16.toInt_ofInt_of_le hlow hhigh, by omega⟩

/-- Alike gestures scale a move beyond the threshold alike. -/
theorem Alike.units_eq (h : Alike other entry g g') {code : UInt32} (hcode : g.inputAxis = some code)
    {n : Int16} (hfits : FitsInt32 (g.axis + n.toInt))
    (hbeyond : thresholdOr entry.threshold < g.axis + n.toInt) :
    units other entry.configured g.multiplier (g.start entry n.toInt) =
      units other entry.configured g'.multiplier (g.start entry n.toInt) := by
  have hscale := h.scale.resolve_left (by rw [hcode]; exact Option.some_ne_none code)
  obtain ⟨hstart, hreaches⟩ := reaches_start h.fits hfits hbeyond
  have hunits := hscale (.ofInt (g.start entry n.toInt)) (by rw [hstart]; exact hreaches)
  rwa [hstart] at hunits

/-- The same units leave alike gestures alike. -/
theorem Alike.send (h : Alike other entry g g') (code : UInt32) (axis movement : Int) :
    (g.send code axis movement).1 = (g'.send code axis movement).1 ∧
      Option.Rel (Alike other entry) (g.send code axis movement).2
        (g'.send code axis movement).2 := by
  simp only [Live.send, ← h.hiresRemainder]
  split
  · exact ⟨rfl, .some h⟩
  · split
    · exact ⟨rfl, .some ⟨h.axis, h.fits, h.inputAxis, rfl, h.scale⟩⟩
    · exact ⟨rfl, .none⟩

/-- One move sends the same, and leaves alike gestures or none. -/
theorem Alike.move (h : Alike other entry g g') (n : Int16) :
    (g.move other entry n.toInt).1 = (g'.move other entry n.toInt).1 ∧
      Option.Rel (Alike other entry) (g.move other entry n.toInt).2
        (g'.move other entry n.toInt).2 := by
  cases hcode : g.inputAxis with
  | none =>
    rw [move_none hcode, move_none (h.inputAxis ▸ hcode)]
    exact ⟨rfl, .some h⟩
  | some code =>
    have hcode' : g'.inputAxis = some code := h.inputAxis ▸ hcode
    by_cases hfits : FitsInt32 (g.axis + n.toInt)
    case neg =>
      simp only [Live.move, hcode, hcode', ← h.axis, if_neg hfits, true_and]
      exact .none
    have hfits' : FitsInt32 (g'.axis + n.toInt) := h.axis ▸ hfits
    have haxis : g.axis + n.toInt = g'.axis + n.toInt := by rw [h.axis]
    by_cases hbeyond : thresholdOr entry.threshold < g.axis + n.toInt
    · have hstart : g'.start entry n.toInt = g.start entry n.toInt := by
        rw [Live.start, Live.start, h.axis]
      rw [move_beyond hcode hfits hbeyond, move_beyond hcode' hfits' (h.axis ▸ hbeyond), hstart,
        h.units_eq hcode hfits hbeyond]
      apply Alike.send
      exact ⟨haxis, hfits, h.inputAxis, h.hiresRemainder, h.scale⟩
    · have hbelow : g.axis + n.toInt ≤ thresholdOr entry.threshold := Int.not_lt.mp hbeyond
      rw [move_below hcode hfits hbelow, move_below hcode' hfits' (h.axis ▸ hbelow)]
      exact ⟨rfl, .some ⟨haxis, hfits, h.inputAxis, h.hiresRemainder, h.scale⟩⟩

theorem Alike.reactions {moves : List Int16} {g g' : Live} (h : Alike other entry g g') :
    reactions other entry g moves = reactions other entry g' moves := by
  induction moves generalizing g g' with
  | nil => rfl
  | cons n moves ih =>
    obtain ⟨hevents, hafter⟩ := h.move n
    rw [AxisEdits.reactions, AxisEdits.reactions]
    generalize g.move other entry n.toInt = moved at hevents hafter ⊢
    generalize g'.move other entry n.toInt = moved' at hevents hafter ⊢
    obtain ⟨events, after⟩ := moved
    obtain ⟨events', after'⟩ := moved'
    obtain rfl : events = events' := hevents
    cases hafter with
    | none => rfl
    | some halike =>
      dsimp only
      rw [ih halike]

/-! ## What the moves tell of the multipliers -/

/-- Up by as many ones as it takes, and then the movement. -/
def approach (k : Nat) (n : Int16) : List Int16 := List.replicate k 1 ++ [n]

/-- The number of units of a movement can be read from what the moves send. -/
theorem units_eq_of_reactions {code : UInt32} {n : Int16} (k : Nat) (g g' : Live)
    (hcode : g.inputAxis = some code) (hcode' : g'.inputAxis = some code) (haxis : g.axis = g'.axis)
    (hmet : thresholdOr entry.threshold ≤ g.axis) (hroom : g.axis + k ≤ 2147483647)
    (hfits : FitsInt32 (g.axis + k + n.toInt))
    (hbeyond : thresholdOr entry.threshold < g.axis + k + n.toInt)
    (h : reactions other entry g (approach k n) = reactions other entry g' (approach k n)) :
    units other entry.configured g.multiplier n.toInt =
      units other entry.configured g'.multiplier n.toInt := by
  induction k generalizing g g' with
  | zero =>
    rw [Int.ofNat_zero, Int.add_zero] at hfits hbeyond
    have hfirst : (g.move other entry n.toInt).1 = (g'.move other entry n.toInt).1 := by
      simp only [approach, List.replicate_zero, List.nil_append, reactions] at h
      split at h <;> split at h <;> simp_all
    have hhead := congrArg List.head? hfirst
    rw [move_beyond hcode hfits hbeyond, move_beyond hcode' (haxis ▸ hfits) (haxis ▸ hbeyond),
      head_send, head_send, start_of_met hmet, start_of_met (haxis ▸ hmet), Option.some_inj,
      InputEvent.axis.injEq] at hhead
    exact hhead.2
  | succ k ih =>
    have hroom' : g.axis + 1 ≤ 2147483647 := by omega
    obtain ⟨t, hmove, htaxis, htcode, htmultiplier⟩ := move_one other hcode hmet hroom'
    obtain ⟨t', hmove', htaxis', htcode', htmultiplier'⟩ :=
      move_one other hcode' (haxis ▸ hmet) (haxis ▸ hroom')
    have hone : (1 : Int16).toInt = 1 := by decide
    simp only [approach, List.replicate_succ, List.cons_append, reactions, hone, hmove, hmove',
      List.cons.injEq] at h
    have hunits := ih t t' htcode htcode' (by rw [htaxis, htaxis', haxis]) (by omega) (by omega)
      (by rw [htaxis]; convert hfits using 1; omega) (by omega) h.2
    rwa [htmultiplier, htmultiplier'] at hunits

/-- Gestures with one entry and one axis react alike exactly if their multipliers scale alike. -/
theorem reactsLike_iff (hinput : g.inputAxis = g'.inputAxis) :
    ReactsLike other entry g g' ↔ g.inputAxis = none ∨
      SameScale other entry.threshold entry.configured g.multiplier g'.multiplier := by
  have hthreshold := fitsInt32_thresholdOr entry.threshold
  constructor
  · intro h
    cases hcode : g.inputAxis with
    | none => exact .inl rfl
    | some code =>
      refine .inr fun n hreaches => ?_
      -- a movement back needs room to be beyond the threshold after it
      have hlow := hthreshold.1
      unfold Reaches at hreaches
      exact units_eq_of_reactions (1 - n.toInt).toNat (g.press entry true)
        (g'.press entry true) hcode (hinput ▸ hcode) rfl (Int.le_refl _)
        (by simp only [Live.press, if_true]; omega)
        ⟨by simp only [Live.press, if_true]; omega, by simp only [Live.press, if_true]; omega⟩
        (by simp only [Live.press, if_true]; omega) (h true _)
  · intro h initThreshold moves
    refine Alike.reactions ⟨rfl, ?_, hinput, rfl, h⟩
    cases initThreshold with
    | true => exact hthreshold
    | false => exact ⟨Int.neg_nonpos_of_nonneg (by decide), Int.natCast_nonneg 2147483647⟩

/-! ## Edits -/

@[simp] theorem inputAxis_setHiresMultiplier (entry : Entry) (g : Live) (hires : Float) :
    (g.setHiresMultiplier entry hires).inputAxis = g.inputAxis := by
  simp only [Live.setHiresMultiplier]
  split <;> rfl

@[simp] theorem hiresMultiplier_setHiresMultiplier (entry : Entry) (g : Live) (hires : Float) :
    (g.setHiresMultiplier entry hires).hiresMultiplier = hires := by
  simp only [Live.setHiresMultiplier]
  split <;> rfl

theorem multiplier_setHiresMultiplier (entry : Entry) (g : Live) (hires : Float) :
    (g.setHiresMultiplier entry hires).multiplier =
      if isHires g.inputAxis then entry.configured * hires else g.multiplier := by
  simp only [Live.setHiresMultiplier]
  split <;> rfl

theorem inputAxis_fresh (codes : EventCodes) (given : Option Float) (entry : Entry) :
    (Live.fresh codes given entry).inputAxis = (Live.make codes entry).inputAxis := by
  cases given with
  | none => rfl
  | some hires => exact inputAxis_setHiresMultiplier _ _ _

theorem multiplier_fresh (codes : EventCodes) (given : Option Float) (entry : Entry) :
    (Live.fresh codes given entry).multiplier =
      loadedMultiplier (Live.make codes entry).inputAxis given entry.configured := by
  cases given with
  | none => exact (ite_self _).symm
  | some hires => exact multiplier_setHiresMultiplier entry _ hires

/-- What the edits keep: the axis is that of the entry, and the multiplier of the feature is known. -/
structure Current (codes : EventCodes) (given : Option Float) (s : Edited) : Prop where
  inputAxis : s.gesture.inputAxis = (Live.make codes s.entry).inputAxis
  hiresMultiplier : s.gesture.hiresMultiplier = given.getD 1

theorem current_init (codes : EventCodes) (given : Option Float) (entry : Entry) :
    Current codes given ⟨.fresh codes given entry, entry⟩ where
  inputAxis := inputAxis_fresh codes given entry
  hiresMultiplier := by
    cases given with
    | none => rfl
    | some hires => exact hiresMultiplier_setHiresMultiplier _ _ _

theorem setAxis_spec {codes : EventCodes} {axis : String} {s t : Edited}
    (h : setAxis codes axis s = some t) :
    (axis = "" ∧ t = ⟨{ s.gesture with inputAxis := none }, { s.entry with axis := none }⟩) ∨
      ∃ code, axis ≠ "" ∧ codes.axisCode axis = some code ∧
        t.entry = { s.entry with axis := some (.inl axis) } ∧
        t.gesture = Live.setHiresMultiplier t.entry { s.gesture with inputAxis := some code }
          s.gesture.hiresMultiplier := by
  unfold setAxis at h
  split at h
  next hempty =>
    cases h
    exact .inl ⟨String.isEmpty_iff.mp hempty, rfl⟩
  next hname =>
    obtain ⟨code, hcode, rfl⟩ := Option.map_eq_some_iff.mp h
    exact .inr ⟨code, fun h => hname (String.isEmpty_iff.mpr h), hcode, rfl, rfl⟩

section
variable {codes : EventCodes} {given : Option Float} {s t : Edited} {a : Edit}

theorem current_step (hs : Current codes given s)
    (hstep : (editing codes given entry).step s a = some t) : Current codes given t := by
  cases a with
  | setAxis axis =>
    rcases setAxis_spec hstep with ⟨-, rfl⟩ | ⟨code, -, hcode, hentry, hgesture⟩
    · exact ⟨rfl, hs.hiresMultiplier⟩
    · constructor
      · rw [hgesture, inputAxis_setHiresMultiplier, hentry]
        exact hcode.symm
      · rw [hgesture, hiresMultiplier_setHiresMultiplier]
        exact hs.hiresMultiplier
  | setMultiplier multiplier =>
    cases hstep
    constructor
    · exact (inputAxis_setHiresMultiplier _ _ _).trans hs.inputAxis
    · exact (hiresMultiplier_setHiresMultiplier _ _ _).trans hs.hiresMultiplier
  | setThreshold threshold =>
    cases hstep
    exact ⟨hs.inputAxis, hs.hiresMultiplier⟩

theorem SameScale.refl (threshold : Option Int32) (configured k : Float) :
    SameScale other threshold configured k k := fun _ _ => rfl

/-- What must hold of the multipliers, for a gesture whose axis is that of its entry. -/
theorem reactsLike_fresh_iff (hs : Current codes given s) :
    ReactsLike other s.entry s.gesture (.fresh codes given s.entry) ↔
      s.gesture.inputAxis = none ∨
        SameScale other s.entry.threshold s.entry.configured s.gesture.multiplier
          (loadedMultiplier s.gesture.inputAxis given s.entry.configured) := by
  rw [hs.inputAxis, ← multiplier_fresh, ← hs.inputAxis]
  exact reactsLike_iff (hs.inputAxis.trans (inputAxis_fresh codes given s.entry).symm)

/-- One edit. -/
theorem reactsLike_step_iff (hs : Current codes given s)
    (hstep : (editing codes given entry).step s a = some t) :
    ReactsLike other t.entry t.gesture (.fresh codes given t.entry) ↔
      KeepsScale other codes given s a := by
  rw [reactsLike_fresh_iff (current_step hs hstep)]
  have hgiven := hs.hiresMultiplier
  cases a with
  | setThreshold threshold =>
    cases hstep
    exact Iff.rfl
  | setMultiplier multiplier =>
    cases hstep
    simp only [setMultiplier, inputAxis_setHiresMultiplier, multiplier_setHiresMultiplier, hgiven,
      KeepsScale, loadedMultiplier, Entry.configured, Option.getD_some]
    refine or_congr Iff.rfl ?_
    cases isHires s.gesture.inputAxis with
    | false => simp
    | true =>
      cases given with
      | none => simp
      | some hires => simp [SameScale.refl]
  | setAxis axis =>
    rcases setAxis_spec hstep with ⟨hempty, rfl⟩ | ⟨code, hname, hcode, hentry, hgesture⟩
    · exact iff_of_true (.inl rfl) (.inl hempty)
    · have hkeeps : KeepsScale other codes given s (.setAxis axis) ↔
          if isHires (some code) then
            given.isSome ∨
              SameScale other s.entry.threshold s.entry.configured (s.entry.configured * 1) 1
          else SameScale other s.entry.threshold s.entry.configured s.gesture.multiplier 1 := by
        simp [KeepsScale, hname, hcode]
      have hconfigured : t.entry.configured = s.entry.configured := by
        rw [hentry]
        rfl
      have hthreshold : t.entry.threshold = s.entry.threshold := by rw [hentry]
      rw [hkeeps, hgesture, inputAxis_setHiresMultiplier, multiplier_setHiresMultiplier, hgiven,
        hconfigured, hthreshold, loadedMultiplier]
      cases isHires (some code) with
      | false => simp
      | true =>
        cases given with
        | none => simp
        | some hires => simp [SameScale.refl]

end

/-- All along a run of edits the gesture reacts like one that is loaded from its entry, exactly if
every edit leaves the scale that the loaded one has. -/
theorem always_reactsLike_iff (other : Float → Int32) (codes : EventCodes) (given : Option Float)
    (entry : Entry) (edits : List Edit) :
    (editing codes given entry).Always
        (fun s => ReactsLike other s.entry s.gesture (.fresh codes given s.entry))
        (editing codes given entry).init edits ↔
      (editing codes given entry).Meets (KeepsScale other codes given)
        (editing codes given entry).init edits :=
  Machine.always_iff_meets (J := Current codes given)
    (fun _ _ _ hs _ hstep _ => current_step hs hstep)
    (fun _ _ _ hs _ hstep => reactsLike_step_iff hs hstep)
    (current_init codes given entry) fun _ _ => rfl

/-- Twice the speed on `REL_X` is four times the speed until the daemon starts again. -/
theorem setMultiplier_not_reactsLike :
    ¬(editing noCodes none { axis := some (.inr 0) }).Always
      (fun s => ReactsLike (fun _ => .minValue) s.entry s.gesture (.fresh noCodes none s.entry))
      (editing noCodes none { axis := some (.inr 0) }).init [.setMultiplier 2] := by
  intro h
  obtain ⟨-, hstep⟩ := h
  have hlike : ReactsLike _ _ _ _ := (hstep _ rfl).head
  exact absurd (hlike true [1]) (by decide +kernel)

end Logid.Actions.AxisEdits
