import Logid.Actions.GestureCycle
import Logid.Actions.Proofs.Entries
import Logid.Actions.Proofs.Interval
import Logid.Features.Adopt

/-!
# What the gestures of a gesture action are told

Horizontally each gesture is told how far the total is in its direction, but for a move by -32768. A
vertical move that reaches the origin or passes it is told to the opposite gestures.

On release one gesture wins, and no other `ReleaseGesture` runs its action.
-/

namespace Logid.Actions

namespace GestureAction

theorem received_append (d : Direction) (calls more : List (Direction × Int)) :
    received d (calls ++ more) = received d calls + received d more := by
  induction calls with
  | nil => exact (zero_add _).symm
  | cons call calls ih => rw [List.cons_append, received, received, ih, add_assoc]

/-- The calls for a horizontal move are for the left and the right gesture. -/
theorem received_horizontal (x dx : Int) :
    received .up (horizontal x dx) = 0 ∧ received .down (horizontal x dx) = 0 := by
  unfold horizontal
  constructor <;> simp only <;> split_ifs <;> rfl

theorem received_vertical (y dy : Int) :
    received .left (vertical y dy) = 0 ∧ received .right (vertical y dy) = 0 := by
  unfold vertical
  constructor <;> simp only <;> split_ifs <;> rfl

/-- A horizontal move is told right unless it is by -32768 from the left. -/
theorem horizontal_iff (x : Int) {dx : Int} (hlow : -32768 ≤ dx) (hhigh : dx ≤ 32767) :
    (received .left (horizontal x dx) = max 0 (-(x + dx)) - max 0 (-x) ∧
      received .right (horizontal x dx) = max 0 (x + dx) - max 0 x) ↔
      (dx = -32768 → 0 < x) := by
  unfold horizontal
  simp only
  split_ifs with hzero hright hnew hleft hnew hneg hpos
  · simp only [received]
    omega
  · -- from the left to the right
    have hx : toInt16 x = x := toInt16_of_le (by omega) (by omega)
    have hrest : toInt16 (x + dx) = x + dx := toInt16_of_le (by omega) (by omega)
    simp only [received, reduceCtorEq, if_true, if_false, hx, hrest]
    omega
  · have hx : toInt16 x = x := toInt16_of_le (by omega) (by omega)
    simp only [received, reduceCtorEq, if_true, if_false, hx]
    omega
  · -- from the right to the left
    have hx : toInt16 (-x) = -x := toInt16_of_le (by omega) (by omega)
    have hrest : toInt16 (-(x + dx)) = -(x + dx) := toInt16_of_le (by omega) (by omega)
    simp only [received, reduceCtorEq, if_true, if_false, hx, hrest]
    omega
  · have hx : toInt16 (-x) = -x := toInt16_of_le (by omega) (by omega)
    simp only [received, reduceCtorEq, if_true, if_false, hx]
    omega
  · -- on the left, where -dx may not be an int16_t
    simp only [received, reduceCtorEq, if_true, if_false]
    by_cases hlowest : dx = -32768
    · have hwraps : toInt16 (-dx) = dx := by
        rw [hlowest]
        rfl
      omega
    · have hdx : toInt16 (-dx) = -dx := toInt16_of_le (by omega) (by omega)
      omega
  · have hdx : toInt16 dx = dx := toInt16_of_le hlow hhigh
    simp only [received, reduceCtorEq, if_true, if_false, hdx]
    omega
  · simp only [received]
    omega

/-- A vertical move is told right unless it also reaches the origin or passes it, but to the same
distance on the other side. -/
theorem vertical_iff (y : Int) {dy : Int} (hlow : -32768 ≤ dy) (hhigh : dy ≤ 32767) :
    (received .up (vertical y dy) = max 0 (-(y + dy)) - max 0 (-y) ∧
      received .down (vertical y dy) = max 0 (y + dy) - max 0 y) ↔
      (dy = -32768 → 0 < y) ∧ (Crosses y dy → dy = -2 * y) := by
  unfold vertical Crosses
  simp only
  split_ifs with hzero hup hnew hdown hnew hneg hpos
  · simp only [received]
    omega
  · -- from below upwards, told to the gestures the other way round
    have hy : toInt16 y = y := toInt16_of_le (by omega) (by omega)
    have hrest : toInt16 (y + dy) = y + dy := toInt16_of_le (by omega) (by omega)
    simp only [received, reduceCtorEq, if_true, if_false, hy, hrest]
    omega
  · simp only [received, reduceCtorEq, if_true, if_false]
    by_cases hlowest : dy = -32768
    · have hwraps : toInt16 y = -32768 := by
        rw [show y = 32768 by omega]
        rfl
      omega
    · have hy : toInt16 y = y := toInt16_of_le (by omega) (by omega)
      omega
  · -- from above downwards
    have hy : toInt16 (-y) = -y := toInt16_of_le (by omega) (by omega)
    have hrest : toInt16 (-(y + dy)) = -(y + dy) := toInt16_of_le (by omega) (by omega)
    simp only [received, reduceCtorEq, if_true, if_false, hy, hrest]
    omega
  · have hy : toInt16 (-y) = -y := toInt16_of_le (by omega) (by omega)
    simp only [received, reduceCtorEq, if_true, if_false, hy]
    omega
  · -- above, where -dy may not be an int16_t
    simp only [received, reduceCtorEq, if_true, if_false]
    by_cases hlowest : dy = -32768
    · have hwraps : toInt16 (-dy) = dy := by
        rw [hlowest]
        rfl
      omega
    · have hdy : toInt16 (-dy) = -dy := toInt16_of_le (by omega) (by omega)
      omega
  · have hdy : toInt16 dy = dy := toInt16_of_le hlow hhigh
    simp only [received, reduceCtorEq, if_true, if_false, hdy]
    omega
  · simp only [received]
    omega

/-- A move changes nothing but the gestures of the directions it tells. -/
theorem gestures_moveGestures {config : Config.GestureAction} {d : Direction}
    {calls : List (Direction × Int)} (h : ∀ call ∈ calls, call.1 ≠ d) (a : GestureAction) :
    (moveGestures config calls a).1.gestures d = a.gestures d := by
  induction calls generalizing a with
  | nil => rfl
  | cons call calls ih =>
    obtain ⟨e, n⟩ := call
    have hne : e ≠ d := h _ List.mem_cons_self
    have hrest := ih (fun call hmem => h call (List.mem_cons_of_mem _ hmem))
      (a.onGesture e (GestureObject.move (gestureConfig config e) (toInt16 n))).1
    have hone : (a.onGesture e (GestureObject.move (gestureConfig config e) (toInt16 n))).1.gestures d
        = a.gestures d := by
      unfold onGesture
      split
      · exact Function.update_of_ne hne.symm _ _
      · rfl
    exact hrest.trans hone

theorem isSome_onGesture (a : GestureAction) (e d : Direction)
    (f : GestureObject → GestureObject × List InputEvent) :
    ((a.onGesture e f).1.gestures d).isSome = (a.gestures d).isSome := by
  unfold onGesture
  split
  next g hg =>
    by_cases hd : d = e
    · subst hd
      simp only [Function.update_self, hg, Option.isSome_some]
    · simp only [Function.update_of_ne hd]
  next => rfl

theorem isSome_moveGestures (config : Config.GestureAction) (d : Direction)
    (calls : List (Direction × Int)) (a : GestureAction) :
    ((moveGestures config calls a).1.gestures d).isSome = (a.gestures d).isSome := by
  induction calls generalizing a with
  | nil => rfl
  | cons call calls ih => exact (ih _).trans (isSome_onGesture _ _ _ _)

/-- A gesture is installed in each of the four directions. -/
def Installed (a : GestureAction) : Prop := ∀ d, d ≠ .none → (a.gestures d).isSome

theorem installed_press {config : Config.GestureAction} {a : GestureAction} (h : a.Installed) :
    (a.press config).Installed := by
  intro d hd
  exact Option.isSome_map.trans (h d hd)

theorem step_tracking {config : Config.GestureAction} {a : GestureAction} {s t : Tracked}
    {move : Int16 × Int16} (h : (tracking config a).step s move = some t) :
    FitsInt32 (s.action.x + move.1.toInt) ∧ FitsInt32 (s.action.y + move.2.toInt) ∧
      t.action = (s.action.move config move.1.toInt move.2.toInt).1 ∧
      ∀ d, t.delivered d = s.delivered d + if (s.action.gestures d).isSome then
        received d (horizontal s.action.x move.1.toInt ++ vertical s.action.y move.2.toInt)
        else 0 := by
  simp only [tracking] at h
  split at h
  next hfits =>
    cases h
    exact ⟨hfits.1, hfits.2, rfl, fun _ => rfl⟩
  next => cases h

theorem installed_step {config : Config.GestureAction} {a : GestureAction} {s t : Tracked}
    {move : Int16 × Int16} (hs : s.action.Installed)
    (h : (tracking config a).step s move = some t) : t.action.Installed := by
  obtain ⟨-, -, haction, -⟩ := step_tracking h
  intro d hd
  rw [haction]
  exact (isSome_moveGestures config d _ s.action).trans (hs d hd)

/-- What each gesture has been given after a move. -/
theorem delivered_step {config : Config.GestureAction} {a : GestureAction} {s t : Tracked}
    {move : Int16 × Int16} (hs : s.action.Installed)
    (h : (tracking config a).step s move = some t) :
    t.delivered .left = s.delivered .left + received .left (horizontal s.action.x move.1.toInt) ∧
      t.delivered .right =
        s.delivered .right + received .right (horizontal s.action.x move.1.toInt) ∧
      t.delivered .up = s.delivered .up + received .up (vertical s.action.y move.2.toInt) ∧
      t.delivered .down = s.delivered .down + received .down (vertical s.action.y move.2.toInt) := by
  obtain ⟨-, -, -, hdelivered⟩ := step_tracking h
  obtain ⟨hup, hdown⟩ := received_horizontal s.action.x move.1.toInt
  obtain ⟨hleft, hright⟩ := received_vertical s.action.y move.2.toInt
  refine ⟨?_, ?_, ?_, ?_⟩
  · rw [hdelivered, if_pos (hs .left (by decide)), received_append, hleft, add_zero]
  · rw [hdelivered, if_pos (hs .right (by decide)), received_append, hright, add_zero]
  · rw [hdelivered, if_pos (hs .up (by decide)), received_append, hup, zero_add]
  · rw [hdelivered, if_pos (hs .down (by decide)), received_append, hdown, zero_add]

/-- One move. -/
theorem tracks_step_iff {config : Config.GestureAction} {a : GestureAction} {s : Tracked}
    {move : Int16 × Int16} (hs : s.action.Installed) (htracks : Tracks s) :
    (∃ t, (tracking config a).step s move = some t ∧ Tracks t) ↔ ToldRight s move := by
  have hx := horizontal_iff s.action.x move.1.le_toInt
    (by have := move.1.toInt_lt; omega)
  have hy := vertical_iff s.action.y move.2.le_toInt
    (by have := move.2.toInt_lt; omega)
  have hleft := htracks.left
  have hright := htracks.right
  have hup := htracks.up
  have hdown := htracks.down
  constructor
  · rintro ⟨t, hstep, ht⟩
    obtain ⟨hfitsx, hfitsy, haction, -⟩ := step_tracking hstep
    obtain ⟨hdleft, hdright, hdup, hddown⟩ := delivered_step hs hstep
    have hnewx : t.action.x = s.action.x + move.1.toInt := by rw [haction]; rfl
    have hnewy : t.action.y = s.action.y + move.2.toInt := by rw [haction]; rfl
    have htleft := ht.left
    have htright := ht.right
    have htup := ht.up
    have htdown := ht.down
    rw [hnewx] at htleft htright
    rw [hnewy] at htup htdown
    obtain ⟨hylow, hycross⟩ := hy.mp ⟨by omega, by omega⟩
    exact ⟨hfitsx, hfitsy, hx.mp ⟨by omega, by omega⟩, hylow, hycross⟩
  · rintro ⟨hfitsx, hfitsy, hxlow, hylow, hycross⟩
    obtain ⟨hrleft, hrright⟩ := hx.mpr hxlow
    obtain ⟨hrup, hrdown⟩ := hy.mpr ⟨hylow, hycross⟩
    have hstep : ∃ t, (tracking config a).step s move = some t := ⟨_, if_pos ⟨hfitsx, hfitsy⟩⟩
    obtain ⟨t, hstep⟩ := hstep
    obtain ⟨-, -, haction, -⟩ := step_tracking hstep
    obtain ⟨hdleft, hdright, hdup, hddown⟩ := delivered_step hs hstep
    have hnewx : t.action.x = s.action.x + move.1.toInt := by rw [haction]; rfl
    have hnewy : t.action.y = s.action.y + move.2.toInt := by rw [haction]; rfl
    refine ⟨t, hstep, ?_, ?_, ?_, ?_⟩
    · rw [hnewx]
      omega
    · rw [hnewx]
      omega
    · rw [hnewy]
      omega
    · rw [hnewy]
      omega

/-- Gestures in the four directions. -/
def compass : GestureAction where
  gestures d := if d = .none then none else some (.null {})

theorem installed_compass (d : Direction) (hd : d ≠ .none) : (compass.gestures d).isSome := by
  simp [compass, hd]

/-- The direction of a displacement is none in which it is farther. -/
theorem displacement_le_ofMove (x y : Int) {d : Direction} (hd : d ≠ .none) :
    displacement x y d ≤ displacement x y (Direction.ofMove x y) := by
  unfold Direction.ofMove
  cases d with
  | none => exact absurd rfl hd
  | _ => split_ifs <;> simp only [displacement] <;> omega

theorem ofMove_ne_none (x y : Int) : Direction.ofMove x y ≠ .none := by
  unfold Direction.ofMove
  split_ifs <;> nofun

/-- A call of `release` changes neither how far a gesture is nor what it is. -/
theorem released_keeps (config other : Config.Gesture) (primary : Bool) (g : GestureObject) :
    (g.released config primary).1.metThreshold other = g.metThreshold other ∧
      ((∃ r, (g.released config primary).1 = .release r) ↔ ∃ r, g = .release r) := by
  cases g with
  | release r =>
    refine ⟨?_, ⟨fun _ => ⟨r, rfl⟩, fun _ => ⟨_, rfl⟩⟩⟩
    simp only [GestureObject.released, ReleaseGesture.release]
    split <;> rfl
  | axis r => exact ⟨rfl, Iff.rfl⟩
  | interval r => exact ⟨rfl, Iff.rfl⟩
  | threshold r => exact ⟨rfl, ⟨nofun, nofun⟩⟩
  | null r => exact ⟨rfl, Iff.rfl⟩

theorem holdsRelease_iff {a : GestureAction} {d : Direction} :
    a.holdsRelease d = true ↔ ∃ g, a.gestures d = some g ∧ ∃ r, g = .release r := by
  unfold holdsRelease
  split
  next r h => exact ⟨fun _ => ⟨_, h, r, rfl⟩, fun _ => rfl⟩
  next h =>
    refine ⟨nofun, ?_⟩
    rintro ⟨g, hg, r, rfl⟩
    exact absurd hg (h r)

theorem runsAction_eq (config : Config.GestureAction) (a : GestureAction) (d : Direction)
    (primary : Bool) :
    a.runsAction config d primary = (a.holdsRelease d && a.metThreshold config d && primary) := by
  unfold runsAction holdsRelease metThreshold
  cases a.gestures d with
  | none => rfl
  | some g => cases g <;> rfl

theorem gestures_releaseGesture_eq (config : Config.GestureAction) (a : GestureAction)
    (e : Direction) (primary : Bool) (d : Direction) :
    (a.releaseGesture config e primary).1.gestures d =
      if d = e then (a.gestures d).map fun g => (g.released (gestureConfig config e) primary).1
      else a.gestures d := by
  unfold releaseGesture onGesture
  split
  next g hg =>
    by_cases hd : d = e
    · subst hd
      simp [hg]
    · simp [hd]
  next hg =>
    split
    next hd => rw [hd, hg, Option.map_none]
    next => rfl

/-- A call of `release` changes nothing that decides about the others. -/
theorem releaseGesture_keeps (config : Config.GestureAction) (a : GestureAction) (e : Direction)
    (primary : Bool) (d : Direction) :
    (a.releaseGesture config e primary).1.metThreshold config d = a.metThreshold config d ∧
      (a.releaseGesture config e primary).1.holdsRelease d = a.holdsRelease d := by
  have hgestures := gestures_releaseGesture_eq config a e primary d
  by_cases hd : d = e
  · rw [if_pos hd] at hgestures
    constructor
    · unfold metThreshold
      rw [hgestures]
      cases a.gestures d with
      | none => rfl
      | some g => exact (released_keeps _ _ primary g).1
    · rw [Bool.eq_iff_iff, holdsRelease_iff, holdsRelease_iff, hgestures]
      cases a.gestures d with
      | none => simp
      | some g => simpa using (released_keeps (gestureConfig config e) (.none {}) primary g).2
  · rw [if_neg hd] at hgestures
    exact ⟨by rw [metThreshold, metThreshold, hgestures],
      by rw [holdsRelease, holdsRelease, hgestures]⟩

/-- A call of `release` runs the action of a `ReleaseGesture`, or none. -/
theorem events_releaseGesture (config : Config.GestureAction) (a : GestureAction) (e : Direction)
    (primary : Bool) :
    (a.releaseGesture config e primary).2 =
      if a.runsAction config e primary then (BasicObject.fire (a.actionAt e)).2 else [] := by
  unfold releaseGesture onGesture runsAction actionAt
  cases a.gestures e with
  | none => rfl
  | some g =>
    cases g with
    | release r =>
      simp only [GestureObject.released, ReleaseGesture.release, Option.bind_some,
        GestureObject.action]
      split <;> rfl
    | axis r => rfl
    | interval r => rfl
    | threshold r => rfl
    | null r => rfl

theorem actionAt_releaseGesture (config : Config.GestureAction) (a : GestureAction) (e : Direction)
    (primary : Bool) (d : Direction) :
    (a.releaseGesture config e primary).1.actionAt d =
      if d = e ∧ a.runsAction config e primary then (BasicObject.fire (a.actionAt d)).1
      else a.actionAt d := by
  rw [actionAt, gestures_releaseGesture_eq]
  by_cases hd : d = e
  · subst hd
    simp only [if_true, true_and, actionAt, runsAction]
    cases a.gestures d with
    | none => rfl
    | some g =>
      cases g with
      | release r =>
        simp only [Option.map_some, GestureObject.released, ReleaseGesture.release,
          Option.bind_some, GestureObject.action]
        split <;> rfl
      | axis r => rfl
      | interval r => rfl
      | threshold r => rfl
      | null r => rfl
  · rw [if_neg hd, if_neg fun h => hd h.1]
    rfl

/-- Which actions the calls run does not depend on the calls before. -/
theorem ranActions_eq (config : Config.GestureAction) (calls : List (Direction × Bool))
    {a b : GestureAction} (h : ∀ d, b.metThreshold config d = a.metThreshold config d ∧
      b.holdsRelease d = a.holdsRelease d) :
    ranActions config calls b =
      (calls.filter fun call => a.runsAction config call.1 call.2).map Prod.fst := by
  induction calls generalizing b with
  | nil => rfl
  | cons call calls ih =>
    obtain ⟨e, primary⟩ := call
    have hkeeps : ∀ d, (b.releaseGesture config e primary).1.metThreshold config d =
          a.metThreshold config d ∧
        (b.releaseGesture config e primary).1.holdsRelease d = a.holdsRelease d := fun d =>
      ⟨(releaseGesture_keeps config b e primary d).1.trans (h d).1,
        (releaseGesture_keeps config b e primary d).2.trans (h d).2⟩
    have hone : b.runsAction config e primary = a.runsAction config e primary := by
      rw [runsAction_eq, runsAction_eq, (h e).1, (h e).2]
    simp only [ranActions, ih hkeeps, hone, List.filter_cons]
    split <;> rfl

/-- Of calls of which one at most runs an action, the events are those of this action, and it alone
changes. -/
theorem performReleases_ran (config : Config.GestureAction) (calls : List (Direction × Bool))
    {b : GestureAction} {w : Option Direction} (hran : ranActions config calls b = w.toList) :
    (performReleases config calls b).2 = w.elim [] (fun d => (BasicObject.fire (b.actionAt d)).2) ∧
      ∀ d, (performReleases config calls b).1.actionAt d =
        if w = some d then (BasicObject.fire (b.actionAt d)).1 else b.actionAt d := by
  induction calls generalizing b w with
  | nil =>
    cases w with
    | none => exact ⟨rfl, fun d => rfl⟩
    | some d => cases hran
  | cons call calls ih =>
    obtain ⟨e, primary⟩ := call
    have hevents := events_releaseGesture config b e primary
    have hactions := actionAt_releaseGesture config b e primary
    simp only [performReleases]
    rw [ranActions] at hran
    cases hrun : b.runsAction config e primary with
    | true =>
      -- this call runs its action, and no call after it runs one
      simp only [hrun, if_true, and_true] at hran hevents hactions
      cases w with
      | none => cases hran
      | some d =>
        obtain ⟨rfl, hrest⟩ := List.cons_eq_cons.mp hran
        obtain ⟨hquiet, hstay⟩ := ih (w := none) hrest
        refine ⟨?_, fun d => ?_⟩
        · rw [hevents, hquiet, Option.elim_none, List.append_nil, Option.elim_some]
        · rw [hstay, if_neg (Option.some_ne_none d).symm, hactions]
          simp only [Option.some_inj, eq_comm]
    | false =>
      simp only [hrun, Bool.false_eq_true, and_false, if_false] at hran hevents hactions
      obtain ⟨hrest, hchanges⟩ := ih hran
      refine ⟨?_, fun d => ?_⟩
      · rw [hevents, hrest, List.nil_append]
        simp only [hactions]
      · rw [hchanges, hactions]

theorem performReleases_append (config : Config.GestureAction)
    (calls more : List (Direction × Bool)) (a : GestureAction) :
    performReleases config (calls ++ more) a =
      ((performReleases config more (performReleases config calls a).1).1,
        (performReleases config calls a).2 ++
          (performReleases config more (performReleases config calls a).1).2) := by
  induction calls generalizing a with
  | nil => rfl
  | cons call calls ih =>
    simp only [List.cons_append, performReleases, ih, List.append_assoc]

/-- The loop over the others makes these calls. -/
theorem releaseOthers_eq (config : Config.GestureAction) (d : Direction) (es : List Direction)
    (met : Bool) {a b : GestureAction}
    (h : ∀ e, b.metThreshold config e = a.metThreshold config e) :
    releaseOthers config d es b met =
      ((performReleases config (othersCalls config a d es met).1 b).1,
        (othersCalls config a d es met).2,
        (performReleases config (othersCalls config a d es met).1 b).2) := by
  induction es generalizing b met with
  | nil => rfl
  | cons e es ih =>
    have hrest : ∀ (met primary : Bool),
        releaseOthers config d es (b.releaseGesture config e primary).1 met = _ :=
      fun met primary => ih met fun e' =>
        ((releaseGesture_keeps config b e primary e').1).trans (h e')
    rw [releaseOthers, othersCalls]
    split
    · exact ih met h
    · cases met with
      | true => simp only [Bool.not_true, Bool.false_eq_true, if_false, hrest, performReleases]
      | false =>
        simp only [Bool.not_false, if_true, h e]
        split
        · simp only [hrest, performReleases]
        · exact ih false h

/-- `release` makes the calls. -/
theorem release_eq_performReleases (config : Config.GestureAction) (a : GestureAction) :
    a.release config = performReleases config (releaseCalls config a) { a with pressed := false } := by
  have hmet : ∀ e, GestureAction.metThreshold config { a with pressed := false } e =
      a.metThreshold config e := fun _ => rfl
  have hothers := releaseOthers_eq config (Direction.ofMove a.x a.y) directions
    (a.metThreshold config (Direction.ofMove a.x a.y))
    (a := a) (b := (GestureAction.releaseGesture config { a with pressed := false }
      (Direction.ofMove a.x a.y) true).1)
    fun e => (releaseGesture_keeps config _ _ true e).1
  simp only [release, hmet, hothers, releaseCalls, List.cons_append, performReleases,
    performReleases_append, List.append_nil, List.append_assoc]

/-- Of the others the first that has met its threshold runs its action, if none has before. -/
theorem othersCalls_runs (config : Config.GestureAction) (a : GestureAction) (d : Direction)
    (es : List Direction) :
    ((othersCalls config a d es true).1.filter fun call =>
        a.runsAction config call.1 call.2) = [] ∧
      (othersCalls config a d es true).2 = true ∧
      ((othersCalls config a d es false).1.filter fun call =>
        a.runsAction config call.1 call.2).map Prod.fst =
          ((es.find? fun e => decide (e ≠ d ∧ e ≠ .none) && a.metThreshold config e).toList.filter
            a.holdsRelease) ∧
      (othersCalls config a d es false).2 =
        (es.find? fun e => decide (e ≠ d ∧ e ≠ .none) && a.metThreshold config e).isSome := by
  induction es with
  | nil => exact ⟨rfl, rfl, rfl, rfl⟩
  | cons e es ih =>
    obtain ⟨hnone, hmet, hruns, hfound⟩ := ih
    by_cases hskip : e = d ∨ e = .none
    · have hother : decide (e ≠ d ∧ e ≠ .none) = false := by
        rw [decide_eq_false_iff_not, not_and_or, not_not, not_not]
        exact hskip
      simp only [othersCalls, if_pos hskip, List.find?_cons, hother, Bool.false_and]
      exact ⟨hnone, hmet, hruns, hfound⟩
    · have hother : decide (e ≠ d ∧ e ≠ .none) = true := by
        rw [decide_eq_true_eq]
        exact not_or.mp hskip
      simp only [othersCalls, if_neg hskip, List.find?_cons, hother, Bool.true_and, Bool.not_true,
        Bool.not_false, if_true, Bool.false_eq_true, if_false]
      cases hm : a.metThreshold config e with
      | true =>
        refine ⟨?_, hmet, ?_, ?_⟩
        · rw [List.filter_cons_of_neg (by simp [runsAction_eq]), hnone]
        · cases hholds : a.holdsRelease e with
          | true =>
            have hrun : a.runsAction config e true = true := by
              rw [runsAction_eq, hholds, hm]
              rfl
            simp [hrun, hnone, hholds]
          | false =>
            have hrun : a.runsAction config e true = false := by
              rw [runsAction_eq, hholds, Bool.false_and, Bool.false_and]
            simp [hrun, hnone, hholds]
        · simpa using hmet
      | false =>
        refine ⟨?_, hmet, ?_, ?_⟩
        · rw [List.filter_cons_of_neg (by simp [runsAction_eq]), hnone]
        · simpa using hruns
        · simpa using hfound

/-- The calls run the action of the winner, and no other. -/
theorem releaseCalls_runs {config : Config.GestureAction} {a : GestureAction}
    (hnone : (a.gestures .none).isSome → a.metThreshold config .none = true) :
    ((releaseCalls config a).filter fun call => a.runsAction config call.1 call.2).map Prod.fst =
      (winner config a).toList.filter a.holdsRelease := by
  obtain ⟨hquiet, hmet, hruns, hfound⟩ :=
    othersCalls_runs config a (Direction.ofMove a.x a.y) directions
  have hlast : a.runsAction config .none false = false := by rw [runsAction_eq, Bool.and_false]
  simp only [releaseCalls, winner, List.cons_append, List.filter_cons, List.filter_append]
  cases hprimary : a.metThreshold config (Direction.ofMove a.x a.y) with
  | true =>
    -- the dominant direction wins
    have hfirst : a.runsAction config (Direction.ofMove a.x a.y) true =
        a.holdsRelease (Direction.ofMove a.x a.y) := by
      rw [runsAction_eq, hprimary, Bool.and_true, Bool.and_true]
    simp [hfirst, hquiet, hmet, hlast, List.filter_cons]
    split <;> rfl
  | false =>
    have hfirst : a.runsAction config (Direction.ofMove a.x a.y) true = false := by
      rw [runsAction_eq, hprimary, Bool.and_false, Bool.false_and]
    cases hfind : directions.find? fun e =>
        decide (e ≠ Direction.ofMove a.x a.y ∧ e ≠ .none) && a.metThreshold config e with
    | some e =>
      rw [hfind] at hruns hfound
      simp [hfirst, hruns, hfound, hlast]
    | none =>
      rw [hfind] at hruns hfound
      have hall : a.runsAction config .none true = a.holdsRelease .none := by
        rw [runsAction_eq, Bool.and_true]
        cases hholds : a.holdsRelease .none with
        | false => rfl
        | true =>
          obtain ⟨g, hg, -⟩ := holdsRelease_iff.mp hholds
          rw [hnone (by rw [hg]; rfl)]
          rfl
      have hothers : ((othersCalls config a (Direction.ofMove a.x a.y) directions false).1.filter
          fun call => a.runsAction config call.1 call.2) = [] := List.map_eq_nil_iff.mp hruns
      cases hinstalled : a.gestures .none with
      | none =>
        have hholds : a.holdsRelease .none = false := by rw [holdsRelease, hinstalled]
        simp [hfirst, hothers, hfound, hall, hholds]
      | some g =>
        simp [hfirst, hothers, hfound, hall, List.filter_cons]
        split <;> rfl

/-! The gesture of no direction has a threshold of 0, since the constructor and `setGesture` set it. -/

theorem thresholdOr_zeroThreshold (g : Config.Gesture) :
    Gesture.thresholdOr g.zeroThreshold = 0 := by
  cases g <;> rfl

theorem thresholdOr_withThreshold_zero (g : Config.Gesture) :
    Gesture.thresholdOr (Gesture.withThreshold (some 0) g) = 0 := by
  cases g <;> rfl

theorem thresholdOr_adopt {config : Config.GestureAction} {g : Config.Gesture}
    (h : entry config.adopt .none = some g) : Gesture.thresholdOr g = 0 := by
  obtain ⟨gestures, hgestures, hfind⟩ := Option.bind_eq_some_iff.mp h
  obtain ⟨old, -, rfl⟩ := Option.map_eq_some_iff.mp hgestures
  obtain ⟨e, he, rfl⟩ := Option.map_eq_some_iff.mp hfind
  have hkey := List.find?_some he
  beta_reduce at hkey
  obtain ⟨e', -, rfl⟩ := List.mem_map.mp (List.mem_of_find?_eq_some he)
  simp only [Config.GestureAction.adoptEntry, Direction.equiv_name_iff.mp hkey]
  exact thresholdOr_zeroThreshold _

theorem thresholdOr_setGesture {config config' : Config.GestureAction} {direction type : String}
    (hd : Direction.ofName direction = some .none)
    (h : setGesture config direction type = (config', true)) :
    Gesture.thresholdOr (gestureConfig config' .none) = 0 := by
  simp only [setGesture, hd] at h
  split at h
  next => cases h
  next g hg =>
    cases h
    simp only [gestureConfig, entry, Option.bind_some]
    rw [SortedMap.find?_assign Config.lessCaseless_weak, if_pos ((Direction.equiv_name _ _).mpr rfl)]
    exact thresholdOr_withThreshold_zero g

theorem horizontal_ne_none {x dx : Int} : ∀ call ∈ horizontal x dx, call.1 ≠ .none := by
  unfold horizontal
  simp only
  split_ifs <;> simp

theorem vertical_ne_none {y dy : Int} : ∀ call ∈ vertical y dy, call.1 ≠ .none := by
  unfold vertical
  simp only
  split_ifs <;> simp

theorem step_pressing {config : Config.GestureAction} {a s t : GestureAction}
    {move : Int16 × Int16} (h : (pressing config a).step s move = some t) :
    t = (s.move config move.1.toInt move.2.toInt).1 := by
  simp only [pressing] at h
  split at h
  · cases h
    rfl
  · cases h

/-- A gesture of no direction is not told of moves. -/
theorem gestures_none_run {config : Config.GestureAction} {a s : GestureAction}
    {moves : List (Int16 × Int16)}
    (hrun : (pressing config a).run (pressing config a).init moves = some s) :
    s.gestures .none = (a.press config).gestures .none := by
  refine Machine.run_invariant
    (I := fun s : GestureAction => s.gestures .none = (a.press config).gestures .none)
    (fun s move t hs hstep => ?_) rfl hrun
  rw [step_pressing hstep, ← hs]
  refine gestures_moveGestures (fun call hmem => ?_) s
  rcases List.mem_append.mp hmem with hmem | hmem
  · exact horizontal_ne_none call hmem
  · exact vertical_ne_none call hmem

/-- A pressed gesture has met a threshold of 0. -/
theorem metThreshold_press {config : Config.Gesture} (h : Gesture.thresholdOr config = 0)
    (g : GestureObject) : (g.press config false).metThreshold config = true := by
  have hzero : decide (Gesture.thresholdOr config ≤ 0) = true := by rw [h]; rfl
  cases g <;> exact hzero

/-- On release after a press and moves, the dominant direction is one of maximal displacement. The
calls of `release` run the action of the winner if it is a `ReleaseGesture`, and no other: what is sent
is what this action sends, and no other action changes. -/
theorem release_runs_winner {config : Config.GestureAction} {a : GestureAction}
    (hnone : (a.gestures .none).isSome →
      Gesture.thresholdOr (gestureConfig config .none) = 0)
    {moves : List (Int16 × Int16)} {s : GestureAction}
    (hrun : (pressing config a).run (pressing config a).init moves = some s) :
    (Direction.ofMove s.x s.y ≠ .none ∧
        ∀ d, d ≠ .none → displacement s.x s.y d ≤ displacement s.x s.y (Direction.ofMove s.x s.y)) ∧
      s.release config = performReleases config (releaseCalls config s) { s with pressed := false } ∧
      ranActions config (releaseCalls config s) { s with pressed := false } =
        ((winner config s).filter s.holdsRelease).toList ∧
      (s.release config).2 = ((winner config s).filter s.holdsRelease).elim []
        (fun d => (BasicObject.fire (s.actionAt d)).2) ∧
      ∀ d, (s.release config).1.actionAt d =
        if (winner config s).filter s.holdsRelease = some d then (BasicObject.fire (s.actionAt d)).1
        else s.actionAt d := by
  have hgestures := gestures_none_run hrun
  have hmet : (s.gestures .none).isSome → s.metThreshold config .none = true := by
    rw [metThreshold, hgestures]
    intro hsome
    simp only [press] at hsome ⊢
    cases hg : a.gestures .none with
    | none =>
      rw [hg] at hsome
      cases hsome
    | some g =>
      have hthreshold := hnone (by rw [hg]; rfl)
      exact metThreshold_press hthreshold g
  refine ⟨⟨ofMove_ne_none _ _, fun d hd => displacement_le_ofMove _ _ hd⟩, ?_⟩
  have hran : ranActions config (releaseCalls config s) { s with pressed := false } =
      ((winner config s).filter s.holdsRelease).toList := by
    rw [Option.toList_filter, ← releaseCalls_runs hmet]
    exact ranActions_eq config (releaseCalls config s) fun d => ⟨rfl, rfl⟩
  obtain ⟨hevents, hactions⟩ := performReleases_ran config (releaseCalls config s) hran
  have hcalls := release_eq_performReleases config s
  exact ⟨hcalls, hran, by rw [hcalls, hevents]; rfl, fun d => by rw [hcalls, hactions]; rfl⟩

/-- A key for a click, and one for a movement up. -/
def clickConfig : Config.GestureAction :=
  (setGesture (setGesture {} "none" "OnRelease").1 "up" "OnRelease").1

def click : GestureAction where
  gestures d :=
    match d with
    | .none => some (.release { action := some (.keypress ⟨[28], false⟩) })
    | .up => some (.release { action := some (.keypress ⟨[103], false⟩) })
    | _ => none

/-- A short movement is a click, and no movement up. -/
theorem release_runs_winner_click :
    ∃ s, (pressing clickConfig click).run (pressing clickConfig click).init [(3, -7)] = some s ∧
      (s.release clickConfig).2 = [.key 28 true, .key 28 false] :=
  ⟨_, rfl, (@release_runs_winner clickConfig click (fun _ => by decide) [(3, -7)] _ rfl).2.2.2.1⟩

end GestureAction

end Logid.Actions
