import Logid.Actions.Moves

/-!
# The gesture action over a press

What `GestureAction::move` tells the gestures of the four directions after a press, and which of them
`GestureAction::release` lets run its action.
-/

namespace Logid.Actions.GestureAction

/-! ## Moves -/

/-- The sum of the arguments of the calls of `move` on the gesture of a direction. -/
def received (d : Direction) : List (Direction × Int) → Int
  | [] => 0
  | (e, n) :: calls => (if e = d then toInt16 n else 0) + received d calls

/-- The action, and what its gestures have been given since the press. -/
structure Tracked where
  action : GestureAction
  delivered : Direction → Int := fun _ => 0

/-- Moves after a press; `none` where `_x + x` or `_y + y` overflows. -/
def tracking (config : Config.GestureAction) (a : GestureAction) :
    Machine Tracked (Int16 × Int16) where
  init := { action := a.press config }
  step s move :=
    let a := s.action
    let x := move.1.toInt
    let y := move.2.toInt
    if FitsInt32 (a.x + x) ∧ FitsInt32 (a.y + y) then
      some {
        action := (a.move config x y).1
        delivered := fun d => s.delivered d +
          if (a.gestures d).isSome then received d (horizontal a.x x ++ vertical a.y y) else 0 }
    else none

/-- Each gesture has been given how far the total movement is in its direction. -/
structure Tracks (s : Tracked) : Prop where
  left : s.delivered .left = max 0 (-s.action.x)
  right : s.delivered .right = max 0 s.action.x
  up : s.delivered .up = max 0 (-s.action.y)
  down : s.delivered .down = max 0 s.action.y

/-- A vertical move reaches the origin or passes it. -/
def Crosses (y dy : Int) : Prop := 0 < y ∧ y + dy ≤ 0 ∨ y < 0 ∧ 0 ≤ y + dy

instance (y dy : Int) : Decidable (Crosses y dy) := inferInstanceAs (Decidable (_ ∨ _))

/-- The move is told right: its displacement is an `int32_t`, what is told is an `int16_t`, and it
does not cross the origin vertically, where up and down are swapped. -/
def ToldRight (s : Tracked) (move : Int16 × Int16) : Prop :=
  FitsInt32 (s.action.x + move.1.toInt) ∧ FitsInt32 (s.action.y + move.2.toInt) ∧
    (move.1.toInt = -32768 → 0 < s.action.x) ∧ (move.2.toInt = -32768 → 0 < s.action.y) ∧
    -- only from one side to the same distance on the other does it make no difference
    (Crosses s.action.y move.2.toInt → move.2.toInt = -2 * s.action.y)

instance (s : Tracked) (move : Int16 × Int16) : Decidable (ToldRight s move) :=
  inferInstanceAs (Decidable (_ ∧ _ ∧ _ ∧ _ ∧ _))

/-! ## Release -/

/-- No `int` of a gesture overflows in the calls of `move`. -/
def MovesDefined (config : Config.GestureAction) : List (Direction × Int) → GestureAction → Prop
  | [], _ => True
  | (d, n) :: moves, a =>
    ((a.gestures d).elim True fun g => g.Defined (gestureConfig config d) (toInt16 n)) ∧
      MovesDefined config moves
        (a.onGesture d (GestureObject.move (gestureConfig config d) (toInt16 n))).1

instance decidableMovesDefined (config : Config.GestureAction) :
    (moves : List (Direction × Int)) → (a : GestureAction) → Decidable (MovesDefined config moves a)
  | [], _ => .isTrue trivial
  | (d, n) :: moves, a =>
    have := decidableMovesDefined config moves
      (a.onGesture d (GestureObject.move (gestureConfig config d) (toInt16 n))).1
    have : Decidable
        ((a.gestures d).elim True fun g => g.Defined (gestureConfig config d) (toInt16 n)) :=
      match a.gestures d with
      | some g => inferInstanceAs (Decidable (g.Defined (gestureConfig config d) (toInt16 n)))
      | none => .isTrue trivial
    inferInstanceAs (Decidable (_ ∧ _))

/-- Moves after a press. A run ends where an `int` of a gesture overflows, and where the displacement
has no opposite to compare with. -/
def pressing (config : Config.GestureAction) (a : GestureAction) :
    Machine GestureAction (Int16 × Int16) where
  init := a.press config
  step a move :=
    let x := move.1.toInt
    let y := move.2.toInt
    if (a.x + x).natAbs < 2147483647 ∧ (a.y + y).natAbs < 2147483647 ∧
        MovesDefined config (horizontal a.x x ++ vertical a.y y) a then
      some (a.move config x y).1
    else none

/-- The action of the gesture of a direction. -/
def actionAt (a : GestureAction) (d : Direction) : Option BasicObject :=
  (a.gestures d).bind GestureObject.action

/-- The calls of `release` in the loop over the others, and `threshold_met` after it. -/
def othersCalls (config : Config.GestureAction) (a : GestureAction) (d : Direction) :
    List Direction → Bool → List (Direction × Bool) × Bool
  | [], met => ([], met)
  | e :: es, met =>
    if e = d ∨ e = .none then othersCalls config a d es met
    else if !met then
      if a.metThreshold config e then
        let (calls, met) := othersCalls config a d es true
        ((e, true) :: calls, met)
      else othersCalls config a d es met
    else
      let (calls, met) := othersCalls config a d es met
      ((e, false) :: calls, met)

/-- All of them, with their argument. -/
def releaseCalls (config : Config.GestureAction) (a : GestureAction) : List (Direction × Bool) :=
  let d := Direction.ofMove a.x a.y
  let (others, met) := othersCalls config a d directions (a.metThreshold config d)
  (d, true) :: others ++ [(.none, !met)]

def performReleases (config : Config.GestureAction) :
    List (Direction × Bool) → GestureAction → GestureAction × List InputEvent
  | [], a => (a, [])
  | (d, primary) :: calls, a =>
    let (a, events) := a.releaseGesture config d primary
    let (a, more) := performReleases config calls a
    (a, events ++ more)

/-- The gesture of a direction is a `ReleaseGesture`. -/
def holdsRelease (a : GestureAction) (d : Direction) : Bool :=
  match a.gestures d with
  | some (.release _) => true
  | _ => false

/-- The call presses and releases the action of a `ReleaseGesture`. -/
def runsAction (config : Config.GestureAction) (a : GestureAction) (d : Direction)
    (primary : Bool) : Bool :=
  match a.gestures d with
  | some (.release g) => g.runs (gestureConfig config d) primary
  | _ => false

/-- The directions whose actions the calls press and release, one after another. -/
def ranActions (config : Config.GestureAction) :
    List (Direction × Bool) → GestureAction → List Direction
  | [], _ => []
  | (d, primary) :: calls, a =>
    let rest := ranActions config calls (a.releaseGesture config d primary).1
    if a.runsAction config d primary then d :: rest else rest

/-- The dominant direction if its gesture has met its threshold, otherwise the first other one whose
gesture has, otherwise none. -/
def winner (config : Config.GestureAction) (a : GestureAction) : Option Direction :=
  let d := Direction.ofMove a.x a.y
  if a.metThreshold config d then some d
  else
    match directions.find? fun e => decide (e ≠ d ∧ e ≠ .none) && a.metThreshold config e with
    | some e => some e
    | none => if (a.gestures .none).isSome then some .none else none

/-- How far a displacement is in a direction. -/
def displacement (x y : Int) : Direction → Int
  | .none => 0
  | .up => -y
  | .down => y
  | .left => -x
  | .right => x

end Logid.Actions.GestureAction
