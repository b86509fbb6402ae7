import Logid.Actions.Objects

/-!
# Which keys the actions leave down

A gesture presses and releases its action at once, so whatever is called on it, no key is down
afterwards that was not down before. A `KeypressAction` presses its keys and releases them in separate
calls, and a release leaves none of its keys down.
-/

namespace Logid.Actions

/-! ## Events -/

theorem Keyboard.applyAll_append (keyboard : Keyboard) (events more : List InputEvent) :
    keyboard.applyAll (events ++ more) = (keyboard.applyAll events).applyAll more :=
  List.foldl_append

theorem Keyboard.applyAll_cons (keyboard : Keyboard) (event : InputEvent)
    (events : List InputEvent) :
    keyboard.applyAll (event :: events) = (keyboard.apply event).applyAll events := rfl

theorem Keyboard.applyAll_keys {keyboard : Keyboard} {keys : List UInt32} {code : UInt32}
    (value : Bool) :
    keyboard.applyAll (keys.map fun code => .key code value) code =
      if code ∈ keys then value else keyboard code := by
  induction keys generalizing keyboard with
  | nil => simp [applyAll]
  | cons key keys ih =>
    rw [List.map_cons, applyAll_cons, ih]
    by_cases h : code = key
    · subst h
      simp [apply]
    · simp [apply, h]

theorem Keyboard.applyAll_down {keyboard : Keyboard} {keys : List UInt32} {code : UInt32} :
    keyboard.applyAll (keys.map fun code => .key code true) code = true ↔
      code ∈ keys ∨ keyboard code = true := by
  rw [applyAll_keys]
  by_cases h : code ∈ keys <;> simp [h]

theorem Keyboard.applyAll_up {keyboard : Keyboard} {keys : List UInt32} {code : UInt32} :
    keyboard.applyAll (keys.map fun code => .key code false) code = true ↔
      keyboard code = true ∧ code ∉ keys := by
  rw [applyAll_keys]
  by_cases h : code ∈ keys <;> simp [h]

/-- No key is down afterwards that was not down before. -/
def PressesNothing (events : List InputEvent) : Prop :=
  ∀ (keyboard : Keyboard) (code : UInt32),
    keyboard.applyAll events code = true → keyboard code = true

namespace PressesNothing

theorem nil : PressesNothing [] := fun _ _ h => h

theorem append {events more : List InputEvent} (h : PressesNothing events)
    (hmore : PressesNothing more) : PressesNothing (events ++ more) := by
  intro keyboard code hdown
  rw [Keyboard.applyAll_append] at hdown
  exact h keyboard code (hmore _ code hdown)

theorem axis {code : UInt32} {movement : Int} {events : List InputEvent}
    (h : PressesNothing events) : PressesNothing (.axis code movement :: events) := h

theorem up (keys : List UInt32) :
    PressesNothing (keys.map fun code => .key code false) :=
  fun _ _ hdown => (Keyboard.applyAll_up.mp hdown).1

end PressesNothing

/-! ## Actions -/

namespace BasicObject

/-- What a call on an action does to the keys that are down: the new action releases them, or they
were down before and the old one does not release them. -/
def Transfers (a a' : Option BasicObject) (events : List InputEvent) : Prop :=
  ∀ (keyboard : Keyboard) (code : UInt32), keyboard.applyAll events code = true →
    code ∈ keysOf a' ∨ keyboard code = true ∧ code ∉ keysOf a

theorem Transfers.of_pressesNothing {a : Option BasicObject} {events : List InputEvent}
    (h : PressesNothing events) : Transfers a a events := by
  intro keyboard code hdown
  by_cases hkey : code ∈ keysOf a
  · exact .inl hkey
  · exact .inr ⟨h keyboard code hdown, hkey⟩

theorem press_transfers (a : BasicObject) : Transfers (some a) (some a.press.1) a.press.2 := by
  cases a with
  | keypress a =>
    intro keyboard code hdown
    rcases Keyboard.applyAll_down.mp hdown with hkey | hdown
    · exact .inl hkey
    · by_cases hkey : code ∈ a.keys
      · exact .inl hkey
      · exact .inr ⟨hdown, hkey⟩
  | other interface pressed =>
    intro keyboard code hdown
    simp only [press] at hdown
    split at hdown
    · exact .inr ⟨hdown, List.not_mem_nil⟩
    · exact .inr ⟨hdown, List.not_mem_nil⟩

/-- A release leaves no key of the action down. -/
theorem release_down {a : BasicObject} {keyboard : Keyboard} {code : UInt32}
    (h : keyboard.applyAll a.release.2 code = true) :
    keyboard code = true ∧ code ∉ keysOf (some a) := by
  cases a with
  | keypress a => exact Keyboard.applyAll_up.mp h
  | other interface pressed => exact ⟨h, List.not_mem_nil⟩

theorem fire_pressesNothing (a : Option BasicObject) : PressesNothing (fire a).2 := by
  cases a with
  | none => exact .nil
  | some a =>
    cases a with
    | keypress a =>
      intro keyboard code hdown
      simp only [fire, press, release, KeypressAction.press, KeypressAction.release] at hdown
      rw [Keyboard.applyAll_append, Keyboard.applyAll_up, Keyboard.applyAll_down] at hdown
      obtain ⟨hkey | hdown, hnot⟩ := hdown
      · exact absurd hkey hnot
      · exact hdown
    | other interface pressed =>
      simp only [fire, press]
      split
      · exact .nil
      · exact .nil

/-- `SetKeys` releases the keys of an action that is pressed. -/
theorem setKeys_transfers {codes : EventCodes} {keys : List String} {a a' : BasicObject}
    {events : List InputEvent} (h : a.setKeys codes keys = some (a', events)) :
    PressesNothing events ∧
      keysOf (some a') = KeypressAction.setConfig codes (KeypressAction.entryOfKeys keys) ∧
      (a.pressed = true → Transfers (some a) (some a') events) := by
  cases a with
  | keypress a =>
    cases h
    refine ⟨?_, rfl, ?_⟩
    · split
      · exact .up a.keys
      · exact .nil
    · intro hpressed keyboard code hdown
      have hpressed : a.pressed = true := hpressed
      simp only [hpressed, if_true] at hdown
      exact .inr (Keyboard.applyAll_up.mp hdown)
  | other interface pressed => cases h

end BasicObject

/-! ## Gestures -/

theorem AxisGesture.move_pressesNothing (config : Config.Gesture) (g : AxisGesture) (axis : Int) :
    PressesNothing (g.move config axis).2 := by
  unfold AxisGesture.move
  split
  · exact .nil
  · dsimp only
    split
    · split
      · apply PressesNothing.axis
        cases (AxisGesture.lowResSteps _).1 with
        | none => exact .nil
        | some steps => exact .axis .nil
      · exact .axis .nil
    · exact .nil

theorem IntervalGesture.move_pressesNothing (config : Config.Gesture) (g : IntervalGesture)
    (axis : Int) : PressesNothing (g.move config axis).2 := by
  simp only [IntervalGesture.move]
  split
  · exact BasicObject.fire_pressesNothing g.action
  · exact .nil

theorem ReleaseGesture.release_pressesNothing (config : Config.Gesture) (g : ReleaseGesture)
    (primary : Bool) : PressesNothing (g.release config primary).2 := by
  unfold ReleaseGesture.release
  split
  · exact BasicObject.fire_pressesNothing g.action
  · exact .nil

theorem ThresholdGesture.move_pressesNothing (config : Config.Gesture) (g : ThresholdGesture)
    (axis : Int) : PressesNothing (g.move config axis).2 := by
  simp only [ThresholdGesture.move]
  split
  · exact BasicObject.fire_pressesNothing g.action
  · exact .nil

namespace GestureObject

theorem released_pressesNothing (config : Config.Gesture) (primary : Bool) (g : GestureObject) :
    PressesNothing (g.released config primary).2 := by
  cases g with
  | release g => exact g.release_pressesNothing config primary
  | axis g => exact .nil
  | interval g => exact .nil
  | threshold g => exact .nil
  | null g => exact .nil

theorem move_pressesNothing (config : Config.Gesture) (axis : Int) (g : GestureObject) :
    PressesNothing (g.move config axis).2 := by
  cases g with
  | axis g => exact g.move_pressesNothing config axis
  | interval g => exact g.move_pressesNothing config axis
  | threshold g => exact g.move_pressesNothing config axis
  | release g => exact .nil
  | null g => exact .nil

end GestureObject

namespace GestureAction

theorem onGesture_pressesNothing {a : GestureAction} {d : Direction}
    {f : GestureObject → GestureObject × List InputEvent}
    (hf : ∀ g, PressesNothing (f g).2) : PressesNothing (a.onGesture d f).2 := by
  unfold onGesture
  split
  next g _ => exact hf g
  next => exact .nil

theorem releaseGesture_pressesNothing (config : Config.GestureAction) (a : GestureAction)
    (d : Direction) (primary : Bool) : PressesNothing (a.releaseGesture config d primary).2 :=
  onGesture_pressesNothing (GestureObject.released_pressesNothing _ primary)

theorem releaseOthers_pressesNothing (config : Config.GestureAction) (d : Direction)
    (ds : List Direction) (a : GestureAction) (met : Bool) :
    PressesNothing (releaseOthers config d ds a met).2.2 := by
  induction ds generalizing a met with
  | nil => exact .nil
  | cons e ds ih =>
    rw [releaseOthers]
    split
    · exact ih a met
    · split
      · split
        · exact (releaseGesture_pressesNothing config a e true).append (ih _ true)
        · exact ih a met
      · exact (releaseGesture_pressesNothing config a e false).append (ih _ met)

theorem release_pressesNothing (config : Config.GestureAction) (a : GestureAction) :
    PressesNothing (a.release config).2 := by
  simp only [release]
  refine .append (.append ?_ ?_) ?_
  · exact releaseGesture_pressesNothing config _ _ true
  · exact releaseOthers_pressesNothing config _ directions _ _
  · exact releaseGesture_pressesNothing config _ _ _

theorem moveGestures_pressesNothing (config : Config.GestureAction)
    (moves : List (Direction × Int)) (a : GestureAction) :
    PressesNothing (moveGestures config moves a).2 := by
  induction moves generalizing a with
  | nil => exact .nil
  | cons m moves ih =>
    exact .append (onGesture_pressesNothing (GestureObject.move_pressesNothing _ _)) (ih _)

theorem move_pressesNothing (config : Config.GestureAction) (a : GestureAction) (x y : Int) :
    PressesNothing (a.move config x y).2 :=
  moveGestures_pressesNothing config _ a

theorem replaceGesture_pressesNothing (codes : EventCodes) (config : Config.GestureAction)
    (a : GestureAction) (direction type : String) :
    PressesNothing (a.replaceGesture codes config direction type).2 := by
  unfold replaceGesture
  split
  · exact .nil
  · dsimp only
    split
    · exact releaseGesture_pressesNothing config a _ _
    · exact .nil

end GestureAction

end Logid.Actions
