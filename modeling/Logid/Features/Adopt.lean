import Logid.Actions.Direction
import Logid.Config.Schema

/-!
# What the features write into a profile

A feature keeps a reference to its part of the active profile, so what it and the actions it makes
write there is written into the configuration. Rendering of those writes: `HiresScroll::_makeConfig`,
`RemapButton::setProfile`, `ThumbWheel::_makeConfig`, the constructor of `SmartShift`, and the
constructors of `ChangeHostAction` and `GestureAction`; the other actions and gestures write nothing.
-/

namespace Logid.Config

open Actions (Direction)

/-- `ChangeHostAction::ChangeHostAction` puts the name of the host in lower case. -/
def ChangeHost.adopt (action : ChangeHost) : ChangeHost :=
  { action with host := action.host.map (Sum.map id Actions.toLower) }

/-- `Action::makeAction` -/
def BasicAction.adopt : BasicAction → BasicAction
  | .changeHost action => .changeHost action.adopt
  | action => action

/-- `Gesture::makeGesture` makes the action of the gesture. -/
def Gesture.adopt : Gesture → Gesture
  | .none gesture => .none gesture
  | .axis gesture => .axis gesture
  | .interval gesture => .interval { gesture with action := gesture.action.map BasicAction.adopt }
  | .fewPixels gesture => .fewPixels { gesture with action := gesture.action.map BasicAction.adopt }
  | .release gesture => .release { gesture with action := gesture.action.map BasicAction.adopt }
  | .threshold gesture => .threshold { gesture with action := gesture.action.map BasicAction.adopt }

/-- `x.threshold.emplace(0)` -/
def Gesture.zeroThreshold : Gesture → Gesture
  | .none gesture => .none { gesture with threshold := some 0 }
  | .axis gesture => .axis { gesture with threshold := some 0 }
  | .interval gesture => .interval { gesture with threshold := some 0 }
  | .fewPixels gesture => .fewPixels { gesture with threshold := some 0 }
  | .release gesture => .release { gesture with threshold := some 0 }
  | .threshold gesture => .threshold { gesture with threshold := some 0 }

/-- The loop body of `GestureAction::GestureAction`. -/
def GestureAction.adoptEntry (direction : String) (gesture : Gesture) : Gesture :=
  match Direction.ofName direction with
  | some .none => gesture.adopt.zeroThreshold
  | some _ => gesture.adopt
  -- `toDirection` throws before the gesture is made
  | none => gesture

def GestureAction.adopt (action : GestureAction) : GestureAction :=
  { action with gestures := action.gestures.map (SortedMap.mapValues adoptEntry) }

def Action.adopt : Action → Action
  | .changeHost action => .changeHost action.adopt
  | .gesture action => .gesture action.adopt
  | action => action

/-- `Button::_makeConfig` -/
def Button.adopt (button : Button) : Button :=
  { button with action := button.action.map Action.adopt }

/-- `RemapButton::setProfile`: `config[button.first]` makes an entry for each control. -/
def RemapButton.adopt (controls : List UInt16) (buttons : Option RemapButton) : RemapButton :=
  controls.foldl (fun config control => (config.emplace control {}).modify control Button.adopt)
    (buttons.getD .empty)

/-- `HiresScroll::_makeConfig` -/
def HiresScroll.adopt (config : Bool ⊕ HiresScroll) : HiresScroll :=
  let conf : HiresScroll := match config with
    | .inl hires => { hires := some hires, invert := some false, target := some false }
    | .inr conf => conf
  { conf with up := conf.up.map Gesture.adopt, down := conf.down.map Gesture.adopt }

/-- `ThumbWheel::_makeConfig` -/
def ThumbWheel.adopt (conf : ThumbWheel) : ThumbWheel :=
  { conf with
    left := conf.left.map Gesture.adopt
    right := conf.right.map Gesture.adopt
    touch := conf.touch.map BasicAction.adopt
    tap := conf.tap.map BasicAction.adopt
    proxy := conf.proxy.map BasicAction.adopt }

/-- The constructor of `features::SmartShift` clips what the hardware would read as no change. -/
def SmartShift.clip (config : SmartShift) : SmartShift :=
  { config with
    threshold := config.threshold.map fun threshold => if threshold = 0 then 1 else threshold
    torque := config.torque.map fun torque =>
      if torque = 0 then 1 else if torque > 100 then 100 else torque }

end Logid.Config

namespace Logid.Features

open Config

/-- The features of a device that write into a profile. -/
structure Supported where
  smartshift : Bool := false
  hiresscroll : Bool := false
  /-- The controls of `ReprogControls`. -/
  remapbutton : Option (List UInt16) := none
  thumbwheel : Bool := false
  deriving DecidableEq

/-- The profile after `setProfile` of every feature. -/
def Supported.setProfile (features : Supported) (profile : Profile) : Profile :=
  { profile with
    hiresscroll :=
      if features.hiresscroll then profile.hiresscroll.map fun c => .inr (HiresScroll.adopt c)
      else profile.hiresscroll
    buttons :=
      match features.remapbutton with
      | some controls => some (RemapButton.adopt controls profile.buttons)
      | none => profile.buttons
    thumbwheel :=
      if features.thumbwheel then profile.thumbwheel.map ThumbWheel.adopt else profile.thumbwheel }

/-- The profile after the constructor of every feature. -/
def Supported.construct (features : Supported) (profile : Profile) : Profile :=
  features.setProfile
    { profile with
      smartshift :=
        if features.smartshift then profile.smartshift.map SmartShift.clip else profile.smartshift }

/-- What a profile that is created and switched to holds: an empty entry for each control. -/
def Supported.createdProfile (features : Supported) : Profile :=
  { buttons := features.remapbutton.map fun controls =>
      controls.foldl (fun buttons control => buttons.emplace control {}) .empty }

/-- Making the actions of entries that have none changes nothing. -/
theorem modify_adopt_of_empty {m : RemapButton} (h : ∀ e ∈ m.entries, e.2 = {}) (control : UInt16) :
    m.modify control Button.adopt = m := by
  apply SortedMap.ext
  have hid : ∀ e ∈ m.entries,
      (e.1, if SortedMap.equiv uint16Less control e.1 then Button.adopt e.2 else e.2) = e := by
    intro e he
    have hadopt : Button.adopt e.2 = e.2 := by rw [h e he]; rfl
    rw [hadopt, ite_self]
  exact (List.map_congr_left hid).trans (List.map_id _)

theorem remapButton_adopt_none (controls : List UInt16) :
    RemapButton.adopt controls none =
      controls.foldl (fun buttons control => buttons.emplace control {}) .empty := by
  have hgen : ∀ (cs : List UInt16) (m : RemapButton), (∀ e ∈ m.entries, e.2 = {}) →
      cs.foldl (fun config c => (config.emplace c {}).modify c Button.adopt) m =
        cs.foldl (fun config c => config.emplace c {}) m := by
    intro cs
    induction cs with
    | nil =>
      intro m _
      rfl
    | cons c cs ih =>
      intro m hm
      have hempty : ∀ e ∈ (m.emplace c {}).entries, e.2 = {} := by
        intro e he
        rcases SortedMap.mem_emplaceEntry he with heq | hmem
        · rw [heq]
        · exact hm e hmem
      rw [List.foldl_cons, List.foldl_cons, modify_adopt_of_empty hempty]
      exact ih _ hempty
  exact hgen controls .empty fun e he => absurd he (List.not_mem_nil)

theorem Supported.setProfile_empty (features : Supported) :
    features.setProfile {} = features.createdProfile := by
  cases hcontrols : features.remapbutton with
  | none => simp [setProfile, createdProfile, hcontrols]
  | some controls => simp [setProfile, createdProfile, hcontrols, remapButton_adopt_none]

end Logid.Features
