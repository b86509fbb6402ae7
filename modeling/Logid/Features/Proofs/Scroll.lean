import Logid.Actions.Proofs.Interval
import Logid.Features.Scroll
import Mathlib.Algebra.Order.BigOperators.Group.List

/-!
# Scrolling stroke by stroke

A gesture that is released and pressed again stands as if it had not been moved, so nothing is carried
over from one stroke of the wheel to the next.
-/

namespace Logid.Actions

/-! ## Gestures that start again -/

namespace BasicObject

/-- An action that is not pressed is as before once it has fired. -/
theorem fire_of_idle {a : BasicObject} (h : a.pressed = false) :
    (fire (some a)).1 = some a := by
  cases a with
  | keypress a =>
    obtain ⟨keys, pressed⟩ := a
    cases h
    rfl
  | other interface pressed =>
    cases h
    by_cases hsame : interface = "ChangeHost" ∨ interface = "ChangeProfile"
    · simp [fire, press, release, if_pos hsame]
    · simp [fire, press, release, if_neg hsame]

end BasicObject

namespace GestureObject

/-- The action of the gesture is not pressed. -/
def Idle (g : GestureObject) : Prop := ∀ a, g.action = some a → a.pressed = false

theorem fire_of_idle {action : Option BasicObject} (h : ∀ a, action = some a → a.pressed = false) :
    (BasicObject.fire action).1 = action := by
  cases action with
  | none => rfl
  | some a => exact BasicObject.fire_of_idle (h a rfl)

/-- `release(false)` and `press(true)` -/
def restart (config : Config.Gesture) (g : GestureObject) : GestureObject :=
  (g.released config false).1.press config true

theorem released_false (config : Config.Gesture) (g : GestureObject) :
    (g.released config false).2 = [] := by
  cases g with
  | release g => simp [released, ReleaseGesture.release, ReleaseGesture.runs]
  | axis g | interval g | threshold g | null g => rfl

/-- A move leaves the action as it is when it is idle. -/
theorem action_move {config : Config.Gesture} {g : GestureObject} (h : g.Idle) (n : Int) :
    (g.move config n).1.action = g.action := by
  cases g with
  | axis g => rfl
  | interval g =>
    simp only [move, IntervalGesture.move, action]
    split
    · exact fire_of_idle h
    · rfl
  | release g => rfl
  | threshold g =>
    simp only [move, ThresholdGesture.move, action]
    split
    · exact fire_of_idle h
    · rfl
  | null g => rfl

/-- Starting again undoes a move. -/
theorem restart_move {config : Config.Gesture} {g : GestureObject} (h : g.Idle) (n : Int) :
    (g.move config n).1.restart config = g.restart config := by
  have haction := @action_move config _ h n
  cases g with
  | axis g =>
    simp only [move, restart, released, AxisGesture.move]
    split
    · rfl
    · split
      · split <;> rfl
      · rfl
  | interval g =>
    simp only [move, IntervalGesture.move, action] at haction
    simp only [move, restart, released, IntervalGesture.move, press, IntervalGesture.press, haction]
  | release g =>
    simp [move, restart, released, ReleaseGesture.release, ReleaseGesture.runs, ReleaseGesture.move,
      press, ReleaseGesture.press]
  | threshold g =>
    simp only [move, restart, released, ThresholdGesture.move] at *
    split
    · simp_all [press, ThresholdGesture.press, ThresholdGesture.release, action]
    · rfl
  | null g => rfl

end GestureObject

end Logid.Actions

namespace Logid.Features

open Actions (EventCodes GestureObject InputEvent)
open Backend.Hidpp20.HiresScroll (WheelStatus)
open HiresScroll

variable (conf : Config.HiresScroll)

/-! ## The wheel as two sides -/

theorem restartGesture_eq (config : Config.Gesture) (g : Option GestureObject) :
    restartGesture config g = (g.map (GestureObject.restart config), []) := by
  cases g with
  | none => rfl
  | some g =>
    have hnone := GestureObject.released_false config g
    show (_, (g.released config false).2.map ScrollEffect.sent) = _
    rw [hnone]
    rfl

namespace HiresScroll

def gestures (h : HiresScroll) (turn : Turn) : Option GestureObject := (h.side turn).gesture

theorem gestures_withGesture (h : HiresScroll) (turn : Turn) (g : Option GestureObject) :
    (h.withGesture turn g).gestures = Function.update h.gestures turn g := by
  funext t
  cases turn <;> cases t <;> rfl

end HiresScroll

namespace Scrolling

/-- The direction that the wheel was last turned in. -/
def lastTurn (s : Scrolling) : Option Turn :=
  if s.lastDirection = 1 then some .up else if s.lastDirection = -1 then some .down else none

def toState (s : Scrolling) : Strokes.State Turn (Option GestureObject) where
  sides := s.wheel.gestures
  last := s.lastTurn

theorem restart_spec (turn : Turn) (s : Scrolling) :
    ∃ t, s.restart conf turn = (t, []) ∧ t.lastDirection = s.lastDirection ∧
      t.wheel.gestures =
        Function.update s.wheel.gestures turn
          ((gestureSide conf turn).reset (s.wheel.gestures turn)) := by
  have hrestart := restartGesture_eq (turnEntry conf turn) (s.wheel.gestures turn)
  let g := (gestureSide conf turn).reset (s.wheel.gestures turn)
  refine ⟨{ s with wheel := s.wheel.withGesture turn g }, ?_, rfl, gestures_withGesture ..⟩
  show (_, (restartGesture (turnEntry conf turn) (s.wheel.gestures turn)).2) = _
  rw [hrestart]
  rfl

/-- Both sides start again after a pause. -/
theorem rest_spec (s : Scrolling) :
    ∃ t, s.rest conf = (t, []) ∧ t.toState = Strokes.pause (gestureSide conf) s.toState := by
  obtain ⟨s₁, hup, hdir₁, hs₁⟩ := restart_spec conf .up s
  obtain ⟨s₂, hdown, hdir₂, hs₂⟩ := restart_spec conf .down s₁
  refine ⟨{ s₂ with lastDirection := 0 }, ?_, ?_⟩
  · rw [rest, hup]
    dsimp only
    rw [hdown]
    rfl
  · rw [toState, Strokes.pause]
    congr 1
    funext turn
    dsimp only
    rw [hs₂, hs₁]
    cases turn <;> rfl

theorem move_spec (turn : Turn) (n : Int16) (s : Scrolling) :
    (s.move conf turn n).map (fun r => (r.1.wheel.gestures, r.2)) =
      ((gestureSide conf turn).move (s.wheel.gestures turn) n).map fun r =>
        (Function.update s.wheel.gestures turn r.1, r.2) := by
  rw [move, Option.map_map]
  show Option.map _ ((gestureSide conf turn).move (s.wheel.gestures turn) n) = _
  congr 1
  funext r
  exact congrArg (·, r.2) (gestures_withGesture ..)

/-- The direction that stands for a turn. -/
def direction : Turn → Int
  | .up => 1
  | .down => -1

def opposite : Turn → Turn
  | .up => .down
  | .down => .up

/-- The side that the wheel leaves when it turns back starts again. -/
theorem leave_toState (turn : Turn) (s : Scrolling) :
    Strokes.leave (gestureSide conf) s.toState turn =
      if s.lastDirection = -direction turn then
        Function.update s.wheel.gestures (opposite turn)
          ((gestureSide conf (opposite turn)).reset (s.wheel.gestures (opposite turn)))
      else s.wheel.gestures := by
  rw [Strokes.leave, toState, lastTurn]
  dsimp only
  by_cases hup : s.lastDirection = 1
  · rw [if_pos hup]
    cases turn <;> simp [hup, direction, opposite]
  · rw [if_neg hup]
    by_cases hdown : s.lastDirection = -1
    · rw [if_pos hdown]
      cases turn <;> simp [hdown, direction, opposite]
    · rw [if_neg hdown]
      cases turn <;> simp [hup, hdown, direction]

theorem toState_turned (turn : Turn) (s : Scrolling) :
    toState { s with lastDirection := direction turn } =
      { sides := s.wheel.gestures, last := some turn } := by
  cases turn <;> rfl

theorem turned_spec (turn : Turn) (n : Int16) (s : Scrolling) :
    ((s.move conf turn n).map fun r => ({ r.1 with lastDirection := direction turn }, [] ++ r.2)).map
        (fun r : Scrolling × List ScrollEffect => (r.1.toState, r.2)) =
      ((gestureSide conf turn).move (s.wheel.gestures turn) n).map fun r =>
        ({ sides := Function.update s.wheel.gestures turn r.1, last := some turn }, r.2) := by
  have hmove := congrArg (Option.map fun r : (Turn → Option GestureObject) × List ScrollEffect =>
    (({ sides := r.1, last := some turn } : Strokes.State Turn _), r.2))
      (move_spec conf turn n s)
  rw [Option.map_map, Option.map_map] at hmove
  rw [Option.map_map]
  refine Eq.trans ?_ hmove
  congr 1
  funext r
  exact congrArg (·, r.2) (toState_turned turn r.1)

theorem turnTo_spec (turn : Turn) (n : Int16) (s : Scrolling) :
    (s.turnTo conf turn (opposite turn) (direction turn) n).map (fun r => (r.1.toState, r.2)) =
      Strokes.advance (gestureSide conf) s.toState turn n := by
  rw [Strokes.advance, leave_toState, turnTo]
  by_cases hback : s.lastDirection = -direction turn
  · obtain ⟨t, ht, -, hgestures⟩ := restart_spec conf (opposite turn) s
    rw [if_pos hback, if_pos hback, ht, ← hgestures]
    exact turned_spec conf turn n t
  · rw [if_neg hback, if_neg hback]
    exact turned_spec conf turn n s

/-- An event handled without a pause, after one that sent nothing. -/
theorem turned_toState (event : WheelStatus) (s : Scrolling) :
    (Option.map (fun r : Scrolling × List ScrollEffect => (r.1, [] ++ r.2))
      (if event.deltaV > 0 then s.turnTo conf .up .down 1 event.deltaV
        else if event.deltaV < 0 then s.turnTo conf .down .up (-1) (-event.deltaV)
        else some (s, []))).map (fun r => (r.1.toState, r.2)) =
      Strokes.handle (gestureSide conf) s.toState (scrollEvent (false, event)) := by
  rw [Strokes.handle, scrollEvent, Option.map_map]
  dsimp only
  by_cases hup : event.deltaV > 0
  · rw [if_pos hup, if_pos hup]
    exact turnTo_spec conf .up _ s
  · rw [if_neg hup, if_neg hup]
    by_cases hdown : event.deltaV < 0
    · rw [if_pos hdown, if_pos hdown]
      exact turnTo_spec conf .down _ s
    · rw [if_neg hdown, if_neg hdown]
      rfl

/-- `_handleScroll` handles its event as one move of the sides. -/
theorem handleScroll_toState (s : Scrolling) (pause : Bool) (event : WheelStatus) :
    (s.handleScroll conf pause event).map (fun r => (r.1.toState, r.2)) =
      Strokes.handle (gestureSide conf) s.toState (scrollEvent (pause, event)) := by
  cases pause with
  | false => exact turned_toState conf event s
  | true =>
    obtain ⟨t, ht, hstate⟩ := rest_spec conf s
    have hturned := turned_toState conf event t
    rw [hstate] at hturned
    rw [handleScroll, if_pos rfl, ht]
    exact hturned

/-- The events of a run are moves of the sides, one after another. -/
theorem handleScrolls_toState (s : Scrolling) (events : List (Bool × WheelStatus)) :
    (s.handleScrolls conf events).map (fun r => (r.1.toState, r.2)) =
      Strokes.handleAll (gestureSide conf) s.toState (events.map scrollEvent) := by
  induction events generalizing s with
  | nil => rfl
  | cons event events ih =>
    obtain ⟨pause, event⟩ := event
    have hone := handleScroll_toState conf s pause event
    rw [handleScrolls, List.map_cons, Strokes.handleAll, ← hone]
    cases s.handleScroll conf pause event with
    | none => rfl
    | some r =>
      obtain ⟨t, effects⟩ := r
      rw [Option.map_some, Option.bind_some, Option.bind_some, ← ih]
      dsimp only
      cases t.handleScrolls conf events <;> rfl

end Scrolling

namespace HiresScroll

/-! ## Gestures as they are made -/

/-- Starting again changes nothing. -/
structure Fresh (config : Config.Gesture) (g : GestureObject) : Prop where
  idle : g.Idle
  restart : g.restart config = g

theorem idle_make (codes : EventCodes) (config : Config.Gesture) :
    (GestureObject.make codes config).Idle := by
  have hmake : ∀ entry : Option Config.BasicAction, ∀ a,
      entry.map (Actions.BasicObject.make codes) = some a → a.pressed = false := by
    intro entry a h
    obtain ⟨entry, -, rfl⟩ := Option.map_eq_some_iff.mp h
    cases entry <;> rfl
  intro a h
  cases config with
  | none config => cases h
  | axis config => cases h
  | interval config | fewPixels config | release config | threshold config =>
    exact hmake config.action a h

/-- Adopting an entry changes nothing but its action. -/
theorem thresholdOr_adopt (config : Config.Gesture) :
    Actions.Gesture.thresholdOr config.adopt = Actions.Gesture.thresholdOr config := by
  cases config <;> rfl

theorem restart_press {config config' : Config.Gesture}
    (h : Actions.Gesture.thresholdOr config = Actions.Gesture.thresholdOr config')
    (g : GestureObject) : (g.press config' true).restart config = g.press config' true := by
  cases g with
  | release g =>
    simp [GestureObject.restart, GestureObject.press, GestureObject.released,
      Actions.ReleaseGesture.release, Actions.ReleaseGesture.runs, Actions.ReleaseGesture.press, h]
  | axis g =>
    simp [GestureObject.restart, GestureObject.press, GestureObject.released,
      Actions.AxisGesture.press, h]
  | interval g =>
    simp [GestureObject.restart, GestureObject.press, GestureObject.released,
      Actions.IntervalGesture.press, h]
  | threshold g =>
    simp [GestureObject.restart, GestureObject.press, GestureObject.released,
      Actions.ThresholdGesture.press, Actions.ThresholdGesture.release, h]
  | null g =>
    simp [GestureObject.restart, GestureObject.press, GestureObject.released,
      Actions.NullGesture.press, h]

theorem fresh_fixGesture (codes : EventCodes) (multiplier : UInt8) {config config' : Config.Gesture}
    (h : Actions.Gesture.thresholdOr config = Actions.Gesture.thresholdOr config') :
    Fresh config (fixGesture multiplier config' (.make codes config')) := by
  have hidle := idle_make codes config'
  generalize GestureObject.make codes config' = g at hidle ⊢
  refine ⟨?_, restart_press h _⟩
  cases g <;> exact hidle

/-- The gestures of a profile, with the entries that they adopted. -/
theorem gestures_setProfile (codes : EventCodes) (multiplier : UInt8) (config : HiresEntry)
    (h : HiresScroll) (turn : Turn) :
    (h.setProfile codes multiplier config).gestures turn =
      makeGesture codes multiplier (entry (parentConfig config) turn) := by
  cases config with
  | none => cases turn <;> rfl
  | some config => cases turn <;> rfl

theorem entry_adoptEntry (config : HiresEntry) (turn : Turn) :
    entry (parentConfig (adoptEntry config)) turn =
      (entry (parentConfig config) turn).map Config.Gesture.adopt := by
  cases config with
  | none => cases turn <;> rfl
  | some config => cases config <;> cases turn <;> rfl

theorem fresh_setProfile (codes : EventCodes) (multiplier : UInt8) (config : HiresEntry)
    (h : HiresScroll) (turn : Turn) (g : GestureObject)
    (hg : (h.setProfile codes multiplier config).gestures turn = some g) :
    Fresh (turnEntry (parentConfig (adoptEntry config)) turn) g := by
  rw [gestures_setProfile, makeGesture] at hg
  obtain ⟨made, hmade, rfl⟩ := Option.map_eq_some_iff.mp hg
  rw [turnEntry, entry_adoptEntry, hmade]
  exact fresh_fixGesture codes multiplier (thresholdOr_adopt made)

theorem moves_none (turn : Turn) (ns : List Int16) :
    (gestureSide conf turn).moves none ns = some (none, []) := by
  induction ns with
  | nil => rfl
  | cons n ns ih =>
    have hmove : (gestureSide conf turn).move none n = some (none, []) := rfl
    rw [Strokes.Side.moves, hmove, Option.bind_some, ih]
    rfl

/-- Moves leave the gesture idle, and starting again as it was. -/
theorem moves_some (turn : Turn) {ns : List Int16} {g : GestureObject} (h : g.Idle)
    {r : Option GestureObject × List ScrollEffect}
    (hr : (gestureSide conf turn).moves (some g) ns = some r) :
    ∃ g', r.1 = some g' ∧ g'.restart (turnEntry conf turn) = g.restart (turnEntry conf turn) := by
  induction ns generalizing g r with
  | nil =>
    cases hr
    exact ⟨g, rfl, rfl⟩
  | cons n ns ih =>
    rw [Strokes.Side.moves] at hr
    obtain ⟨⟨moved, effects⟩, hmove, hr⟩ := Option.bind_eq_some_iff.mp hr
    obtain ⟨t, ht, rfl⟩ := Option.map_eq_some_iff.mp hr
    obtain ⟨-, hmove⟩ := Option.ite_none_right_eq_some.mp hmove
    obtain ⟨rfl, -⟩ := Prod.mk.inj (Option.some_inj.mp hmove)
    have hidle : (g.move (turnEntry conf turn) n.toInt).1.Idle := by
      rw [GestureObject.Idle, GestureObject.action_move h]
      exact h
    obtain ⟨g', hg', hrestart⟩ := ih hidle ht
    exact ⟨g', hg', hrestart.trans (GestureObject.restart_move h _)⟩

/-- Starting again undoes the moves of a side that holds a fresh gesture or none. -/
theorem returns_of_fresh (turn : Turn) {g : Option GestureObject}
    (h : ∀ g', g = some g' → Fresh (turnEntry conf turn) g') :
    (gestureSide conf turn).Returns g := by
  intro ns r hr
  show (restartGesture (turnEntry conf turn) r.1).1 = g
  rw [restartGesture_eq]
  cases g with
  | none =>
    rw [moves_none] at hr
    cases hr
    rfl
  | some g =>
    obtain ⟨hidle, hrestart⟩ := h g rfl
    obtain ⟨g', hg', hsame⟩ := moves_some conf turn hidle hr
    rw [hg', Option.map_some, hsame, hrestart]

end HiresScroll

/-! ## Runs -/

/-- A run from gestures that have just started does what its strokes do. -/
theorem outputs_of_fresh {s : Scrolling}
    (hfresh : ∀ turn g, s.wheel.gestures turn = some g → Fresh (turnEntry conf turn) g)
    (events : List (Bool × WheelStatus)) :
    (s.handleScrolls conf events).map Prod.snd =
      Strokes.outputs (gestureSide conf) s.wheel.gestures (strokes events) := by
  have hreturns : ∀ turn, (gestureSide conf turn).Returns (s.wheel.gestures turn) :=
    fun turn => returns_of_fresh conf turn (hfresh turn)
  have hrun := congrArg (Option.map Prod.snd) (Scrolling.handleScrolls_toState conf s events)
  rw [Option.map_map] at hrun
  rw [strokes, ← Strokes.outputs_handleAll hreturns]
  exact hrun

/-- From where the feature is made or switches to a profile, whatever the wheel was turned before, what
a run of events does is what its strokes do one after another, each with a gesture as the profile makes
it. -/
theorem handleScrolls_eq_strokes (codes : EventCodes) (multiplier : UInt8) (config : HiresEntry)
    (h : HiresScroll) (last : Int) (events : List (Bool × WheelStatus)) :
    (Scrolling.handleScrolls (parentConfig (adoptEntry config))
        { wheel := h.setProfile codes multiplier config, lastDirection := last } events).map
        Prod.snd =
      Strokes.outputs (gestureSide (parentConfig (adoptEntry config)))
        (fun turn => makeGesture codes multiplier (entry (parentConfig config) turn))
        (strokes events) := by
  have hgestures : (h.setProfile codes multiplier config).gestures =
      fun turn => makeGesture codes multiplier (entry (parentConfig config) turn) :=
    funext fun turn => gestures_setProfile codes multiplier config h turn
  rw [outputs_of_fresh _ (fresh_setProfile codes multiplier config h), hgestures]

/-! ## Intervals -/

section
open Actions (IntervalGesture intervals movements)
open Actions.Gesture (thresholdOr intervalOr)
open Actions.IntervalGesture (Counts jump)

theorem count_sent (events : List InputEvent) (turn : Turn) :
    (events.map ScrollEffect.sent).count (.fired turn) = 0 := by
  rw [List.count_eq_zero, List.mem_map]
  rintro ⟨event, -, h⟩
  cases h

/-- Only the gesture of a turn fires its action. -/
theorem count_fired_other {turn other : Turn} (hne : other ≠ turn) {ns : List Int16}
    {g : Option GestureObject} {r : Option GestureObject × List ScrollEffect}
    (h : (gestureSide conf other).moves g ns = some r) : r.2.count (.fired turn) = 0 := by
  induction ns generalizing g r with
  | nil =>
    cases h
    rfl
  | cons n ns ih =>
    rw [Strokes.Side.moves] at h
    obtain ⟨moved, hmove, h⟩ := Option.bind_eq_some_iff.mp h
    obtain ⟨t, ht, rfl⟩ := Option.map_eq_some_iff.mp h
    have hmoved : moved.2.count (.fired turn) = 0 := by
      cases g with
      | none =>
        cases hmove
        rfl
      | some g =>
        obtain ⟨-, hmove⟩ := Option.ite_none_right_eq_some.mp hmove
        obtain rfl := Option.some_inj.mp hmove
        rw [List.count_append, count_sent, Nat.zero_add]
        split
        · exact List.count_eq_zero.mpr fun h => by
            cases List.mem_singleton.mp h
            exact hne rfl
        · rfl
    rw [List.count_append, hmoved, ih ht]

/-- An `IntervalGesture` fires with each move that crosses a boundary. -/
theorem count_fired {turn : Turn} (hthreshold : 0 ≤ thresholdOr (turnEntry conf turn))
    (hinterval : 0 < intervalOr (turnEntry conf turn)) {ns : List Int16}
    (hns : ∀ n ∈ ns, 0 ≤ n.toInt) {g : IntervalGesture} (hg : Counts (turnEntry conf turn) g)
    {r : Option GestureObject × List ScrollEffect}
    (h : (gestureSide conf turn).moves (some (.interval g)) ns = some r) :
    (r.2.count (.fired turn) : Int) =
      RunningTotal.sum (jump (turnEntry conf turn)) g.axis (movements ns) := by
  induction ns generalizing g r with
  | nil =>
    cases h
    rfl
  | cons n ns ih =>
    rw [Strokes.Side.moves] at h
    obtain ⟨moved, hmove, h⟩ := Option.bind_eq_some_iff.mp h
    obtain ⟨t, ht, rfl⟩ := Option.map_eq_some_iff.mp h
    obtain ⟨hdefined, hmove⟩ := Option.ite_none_right_eq_some.mp hmove
    obtain rfl := Option.some_inj.mp hmove
    have hfits := (IntervalGesture.defined_iff hthreshold hinterval).mp hdefined
    obtain ⟨c, hstep, hcounts, haxis, hfired⟩ := IntervalGesture.step_counting hthreshold hinterval
      (g := g) (c := { gesture := g }) hg (hns n List.mem_cons_self) hfits
    obtain rfl := Option.some_inj.mp ((if_pos hdefined).symm.trans hstep)
    have hrest := ih (fun m hm => hns m (List.mem_cons_of_mem n hm)) hcounts ht
    have hone : (if (GestureObject.interval g).fires (turnEntry conf turn) n.toInt then
        [ScrollEffect.fired turn] else []).count (.fired turn) =
          (g.fires (turnEntry conf turn) n.toInt).toNat := by
      rw [Actions.GestureObject.fires]
      cases g.fires (turnEntry conf turn) n.toInt with
      | false => rfl
      | true => exact List.count_singleton_self
    dsimp only at hfired haxis hrest ⊢
    rw [Nat.zero_add, Nat.cast_zero, zero_add] at hfired
    rw [List.count_append, List.count_append, count_sent, Nat.zero_add, hone, Nat.cast_add, hrest,
      hfired, haxis, Actions.movements_cons, RunningTotal.sum]

/-- What strokes fire in all is what those of the turn fire. -/
theorem count_outputs {turn : Turn} {fresh : Turn → Option GestureObject} {fired : List Int16 → Int}
    {strokes : List (Strokes.Stroke Turn Int16)}
    (hfired : ∀ ns, (turn, ns) ∈ strokes → ∀ r, (gestureSide conf turn).moves (fresh turn) ns = some r →
      (r.2.count (.fired turn) : Int) = fired ns)
    {effects : List ScrollEffect} (h : Strokes.outputs (gestureSide conf) fresh strokes = some effects) :
    (effects.count (.fired turn) : Int) =
      (((strokes.filter fun stroke => stroke.1 = turn).map Prod.snd).map fired).sum := by
  induction strokes generalizing effects with
  | nil =>
    cases h
    rfl
  | cons stroke strokes ih =>
    obtain ⟨d, ns⟩ := stroke
    rw [Strokes.outputs] at h
    obtain ⟨r, hr, h⟩ := Option.bind_eq_some_iff.mp h
    obtain ⟨more, hmore, rfl⟩ := Option.map_eq_some_iff.mp h
    have hrest := ih (fun ns hns => hfired ns (List.mem_cons_of_mem _ hns)) hmore
    rw [List.count_append, Nat.cast_add, hrest]
    by_cases hd : d = turn
    · subst hd
      rw [List.filter_cons_of_pos (by simp), List.map_cons, List.map_cons, List.sum_cons,
        hfired ns List.mem_cons_self r hr]
    · rw [List.filter_cons_of_neg (by simpa using hd), count_fired_other conf hd hr, Nat.cast_zero,
        zero_add]

theorem sum_jump_le {config : Config.Gesture} (hinterval : 0 < intervalOr config) {ns : List Int}
    (hns : ∀ n ∈ ns, 0 ≤ n) (s : Int) :
    RunningTotal.sum (jump config) s ns ≤ intervals config (s + ns.sum) - intervals config s := by
  induction ns generalizing s with
  | nil => simp [RunningTotal.sum]
  | cons n ns ih =>
    have hrest := ih (fun m hm => hns m (List.mem_cons_of_mem n hm)) (s + n)
    have hmono := IntervalGesture.intervals_mono hinterval
      (Int.le_add_of_nonneg_right (a := s) (hns n List.mem_cons_self))
    have hjump : jump config s n ≤ intervals config (s + n) - intervals config s := by
      unfold jump
      split <;> omega
    rw [RunningTotal.sum, List.sum_cons, ← add_assoc]
    omega

/-- What a stroke fires is never more than the intervals that it covers, and just that if no move
crosses two boundaries. -/
theorem sum_jump_stroke {config : Config.Gesture} (hinterval : 0 < intervalOr config)
    {ns : List Int16} (hns : ∀ n ∈ ns, 0 ≤ n.toInt) :
    RunningTotal.sum (jump config) (thresholdOr config) (movements ns) ≤
        (movements ns).sum / intervalOr config ∧
      (RunningTotal.sum (jump config) (thresholdOr config) (movements ns) =
          (movements ns).sum / intervalOr config ↔ CrossesSingly config ns) := by
  have hmoves : ∀ n ∈ movements ns, 0 ≤ n := by
    intro n hn
    obtain ⟨m, hm, rfl⟩ := List.mem_map.mp hn
    exact hns m hm
  have hstart : intervals config (thresholdOr config) = 0 := by
    rw [intervals, Actions.beyond_eq_zero le_rfl, Int.zero_ediv]
  have hend : intervals config (thresholdOr config + (movements ns).sum) =
      (movements ns).sum / intervalOr config := by
    have hsum := Actions.sum_movements_nonneg hns
    rw [intervals, Actions.beyond_eq (by omega), add_sub_cancel_left]
  have hle := sum_jump_le hinterval hmoves (thresholdOr config)
  have hiff := IntervalGesture.sum_jump_eq_iff hinterval (s := thresholdOr config) hmoves
  rw [hstart, hend, sub_zero] at hle hiff
  exact ⟨hle, hiff⟩

/-- Numbers that are no larger add up to the same only if they are the same. -/
theorem sum_map_eq_iff {α : Type*} {f g : α → Int} {as : List α} (h : ∀ a ∈ as, f a ≤ g a) :
    (as.map f).sum = (as.map g).sum ↔ ∀ a ∈ as, f a = g a := by
  induction as with
  | nil => simp
  | cons a as ih =>
    rw [List.forall_mem_cons] at h ⊢
    have hle : (as.map f).sum ≤ (as.map g).sum := List.sum_le_sum h.2
    rw [← ih h.2, List.map_cons, List.map_cons, List.sum_cons, List.sum_cons]
    have hfirst := h.1
    constructor
    · intro hsum
      omega
    · rintro ⟨heq, hrest⟩
      rw [heq, hrest]

/-- Adopting an entry leaves what an `IntervalGesture` counts. -/
theorem counts_adopt (config : Config.Gesture) :
    intervalOr config.adopt = intervalOr config ∧
      ∀ ns, CrossesSingly config.adopt ns ↔ CrossesSingly config ns := by
  cases config <;> exact ⟨rfl, fun _ => Iff.rfl⟩

theorem strokes_nonneg {events : List (Bool × WheelStatus)}
    (h : ∀ event ∈ events, event.2.deltaV ≠ Int16.minValue) {turn : Turn} {ns : List Int16}
    (hns : (turn, ns) ∈ strokes events) : ∀ n ∈ ns, 0 ≤ n.toInt := by
  intro n hn
  obtain ⟨e, he, hmove⟩ | ⟨ms, hnone, -⟩ := Strokes.mem_strokes hns hn
  · obtain ⟨event, hevent, rfl⟩ := List.mem_map.mp he
    rw [scrollEvent] at hmove
    dsimp only at hmove
    split at hmove
    next hup =>
      cases hmove
      have hpos := Int16.lt_iff_toInt_lt.mp hup
      rw [Int16.toInt_zero] at hpos
      omega
    next =>
      split at hmove
      next hdown =>
        cases hmove
        have hneg := (Int16.neg_nonpos_iff event.2.deltaV).not.mpr (by
          rintro (hmin | hpos)
          · exact h event hevent hmin
          · exact absurd hdown (Int16.not_lt.mpr hpos))
        have hpos := Int16.lt_iff_toInt_lt.mp (Int16.not_le.mp hneg)
        rw [Int16.toInt_zero] at hpos
        omega
      next => cases hmove
  · cases hnone

/-- Volume up for every ten units that the wheel is turned up. -/
def volumeUp : Config.Gesture :=
  .interval { interval := some 10, action := some (.keypress { keys := some (.inr (.inl 115)) }) }

/-- Two strokes upwards, by 20 and by 10, with the profile just set. -/
def backAndForth : List (Bool × WheelStatus) :=
  [10, 10, -3, 10].map fun deltaV => (false, { hiRes := true, periods := 1, deltaV := deltaV })

def volumeWheel : Scrolling where
  wheel := HiresScroll.setProfile ⟨fun _ => none, fun _ => none⟩ 8
    (some (.inr { up := some volumeUp })) {}

end

end Logid.Features
