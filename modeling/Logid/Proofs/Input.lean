import Logid.Proofs.HeldKeys
import Logid.Proofs.Profiles

/-!
# Keys that are down belong to controls that are held

Every key that is down is a key of the action of a control that is held, which releases it when the
control is released. Reports keep this, and a method on the bus keeps it if it takes no such key away.
-/

namespace Logid.Input

open Actions (ActionObject BasicObject EventCodes GestureObject InputEvent Keyboard PressesNothing)
open Actions.BasicObject (keysOf)
open Config (Profile stringLess)
open Features

/-! ## The state -/

namespace State

@[simp] theorem withProfile_remap (s : State) (f : Profile → Profile) :
    (s.withProfile f).remap = s.remap := rfl

@[simp] theorem withProfile_wheel (s : State) (f : Profile → Profile) :
    (s.withProfile f).wheel = s.wheel := rfl

@[simp] theorem withProfile_keyboard (s : State) (f : Profile → Profile) :
    (s.withProfile f).keyboard = s.keyboard := rfl

theorem withProfile_profile (s : State) (f : Profile → Profile) :
    (s.withProfile f).profile = f s.profile := by
  simp [profile, withProfile, SortedMap.find?_assign_self Profiles.stringLess_linear]

@[simp] theorem setEntry_remap (s : State) (control : UInt16) (entry : Option Config.Action) :
    (s.setEntry control entry).remap = s.remap := rfl

@[simp] theorem setEntry_wheel (s : State) (control : UInt16) (entry : Option Config.Action) :
    (s.setEntry control entry).wheel = s.wheel := rfl

@[simp] theorem setEntry_keyboard (s : State) (control : UInt16) (entry : Option Config.Action) :
    (s.setEntry control entry).keyboard = s.keyboard := rfl

@[simp] theorem setWheelConfig_remap (s : State) (config : Config.ThumbWheel) :
    (s.setWheelConfig config).remap = s.remap := rfl

@[simp] theorem setWheelConfig_wheel (s : State) (config : Config.ThumbWheel) :
    (s.setWheelConfig config).wheel = s.wheel := rfl

@[simp] theorem setWheelConfig_keyboard (s : State) (config : Config.ThumbWheel) :
    (s.setWheelConfig config).keyboard = s.keyboard := rfl

end State

/-- Each key that is down belongs to the action of a control that is held. -/
def Invariant (device : Device) (s : State) : Prop :=
  Owned device.controls (fun i => i ∈ s.remap.pressedButtons) s.remap.buttons (WheelOwns s.wheel)
    s.keyboard

theorem noStuckKeys_of_invariant {device : Device} {s : State} (h : Invariant device s) :
    NoStuckKeys s := by
  intro hnothing code
  obtain ⟨hbuttons, hproxy, htouch⟩ := hnothing
  by_contra hdown
  rw [Bool.not_eq_false] at hdown
  rcases h code hdown with (howns | howns) | ⟨i, hi, -, -⟩
  · rw [hproxy] at howns
    cases howns.1
  · rw [htouch] at howns
    cases howns.1
  · rw [hbuttons] at hi
    cases hi

/-- The wheel changes and the keys that are down with it. -/
theorem Owned.wheel {controls : List ControlInfo} {held : UInt16 → Prop}
    {buttons : UInt16 → Button} {w w' : ThumbWheel} {keyboard : Keyboard}
    {events : List InputEvent} (h : Owned controls held buttons (WheelOwns w) keyboard)
    (hwheel : ∀ code, keyboard.applyAll events code = true →
      WheelOwns w' code ∨ keyboard code = true ∧ ¬ WheelOwns w code) :
    Owned controls held buttons (WheelOwns w') (keyboard.applyAll events) := by
  intro code hdown
  rcases hwheel code hdown with howns | ⟨hdown, hnot⟩
  · exact .inl howns
  · rcases h code hdown with howns | hbutton
    · exact absurd howns hnot
    · exact .inr hbutton

/-- The wheel keeps what it owns and the events press nothing. -/
theorem Owned.setWheel {controls : List ControlInfo} {held : UInt16 → Prop}
    {buttons : UInt16 → Button} {w w' : ThumbWheel} {keyboard : Keyboard}
    {events : List InputEvent} (h : Owned controls held buttons (WheelOwns w) keyboard)
    (hevents : PressesNothing events)
    (hkeep : ∀ code, keyboard.applyAll events code = true → WheelOwns w code → WheelOwns w' code) :
    Owned controls held buttons (WheelOwns w') (keyboard.applyAll events) := by
  apply h.wheel
  intro code hdown
  by_cases howns : WheelOwns w code
  · exact .inl (hkeep code hdown howns)
  · exact .inr ⟨hevents keyboard code hdown, howns⟩

theorem Invariant.setAction {device : Device} {s : State} (h : Invariant device s)
    {control : UInt16} {type : String} (htakes : TakesNoKey device s (.setAction control type)) :
    Invariant device (setAction device s control type) := by
  unfold Input.setAction
  split
  next => exact h
  next c hc =>
    split
    next haccepts =>
      have hkeep := htakes ⟨c, hc, haccepts⟩
      have hreplaced := Owned.replace (i := control)
        (b := (s.remap.buttons control).setAction device.codes type) h .nil
        fun hheld code hdown hkey => absurd (hkeep hheld code hkey hdown) List.not_mem_nil
      split
      · exact hreplaced
      · exact hreplaced
    next => exact h

/-- Another action of a button that sends events. -/
theorem Invariant.withButtonAction {device : Device} {s t : State} (h : Invariant device s)
    {control : UInt16} {action : ActionObject} {events : List InputEvent}
    (hremap : t.remap = s.remap) (hwheel : t.wheel = s.wheel) (hkeyboard : t.keyboard = s.keyboard)
    (hevents : PressesNothing events)
    (hkeep : control ∈ s.remap.pressedButtons → ∀ code, s.keyboard.applyAll events code = true →
      code ∈ keysOf (basicAction (s.remap.buttons control)) →
        code ∈ keysOf (basicAction { action := some action })) :
    Invariant device ((withButtonAction t control action).send events) := by
  have hreplaced := Owned.replace (i := control)
    (b := { s.remap.buttons control with action := some action }) h hevents hkeep
  show Owned device.controls (fun i => i ∈ t.remap.pressedButtons)
    (Function.update t.remap.buttons control { t.remap.buttons control with action := some action })
    (WheelOwns t.wheel) (t.keyboard.applyAll events)
  rw [hremap, hwheel, hkeyboard]
  exact hreplaced

/-- The keys of a gesture are nobody's. -/
theorem keysOf_gestureAction {s : State} {control : UInt16} {a : Actions.GestureAction}
    (h : gestureAction s control = some a) :
    keysOf (basicAction (s.remap.buttons control)) = [] := by
  unfold gestureAction at h
  split at h
  next heq =>
    rw [basicAction, heq]
    rfl
  next => cases h

theorem Invariant.setGesture {device : Device} {s : State} (h : Invariant device s)
    (control : UInt16) (direction type : String) :
    Invariant device (setGesture device s control direction type) := by
  unfold Input.setGesture
  split
  next => exact h
  next a ha =>
    refine h.withButtonAction rfl rfl rfl
      (a.replaceGesture_pressesNothing device.codes _ direction type) ?_
    intro _ code _ hkey
    rw [keysOf_gestureAction ha] at hkey
    exact absurd hkey List.not_mem_nil

/-- A gesture is not what keeps keys down. -/
theorem Invariant.replaceAt {device : Device} {s : State} (h : Invariant device s)
    (g : GestureObject) (entry : Config.Gesture) (place : GesturePlace)
    {events : List InputEvent} (hevents : PressesNothing events) :
    Invariant device ((replaceAt s g entry place).send events) := by
  have hsend : Invariant device (s.send events) :=
    Owned.setWheel h hevents fun code _ howns => howns
  cases place with
  | button control d =>
    unfold Input.replaceAt
    dsimp only
    split
    next => exact hsend
    next a ha =>
      refine h.withButtonAction rfl rfl rfl hevents ?_
      intro _ code _ hkey
      rw [keysOf_gestureAction ha] at hkey
      exact absurd hkey List.not_mem_nil
  | left => exact hsend
  | right => exact hsend

theorem Invariant.setGestureAction {device : Device} {s : State} (h : Invariant device s)
    (place : GesturePlace) (type : String) :
    Invariant device (setGestureAction device s place type) := by
  unfold Input.setGestureAction
  split
  next => exact h
  next => exact h.replaceAt _ _ place .nil

/-- The keys that `SetKeys` leaves down. -/
theorem setKeys_keeps {device : Device} {s : State} {keys : List String} {a a' : BasicObject}
    {events : List InputEvent} (hset : a.setKeys device.codes keys = some (a', events))
    (hkeeps : SetKeysKeeps device s (some a) keys) {code : UInt32}
    (hdown : s.keyboard.applyAll events code = true) (hkey : code ∈ keysOf (some a)) :
    code ∈ keysOf (some a') := by
  obtain ⟨hnothing, hkeys, htransfers⟩ := BasicObject.setKeys_transfers hset
  by_cases hpressed : a.pressed = true
  · rcases htransfers hpressed s.keyboard code hdown with hnew | ⟨-, hnot⟩
    · exact hnew
    · exact absurd hkey hnot
  · rw [hkeys]
    refine hkeeps ?_ code hkey (hnothing s.keyboard code hdown)
    intro b hb
    cases hb
    simpa using hpressed

/-- The action of a button is one that has keys. -/
theorem keysOf_basicAction {b : Button} {a : BasicObject} (h : b.action = some (.basic a)) :
    basicAction b = some a := by
  rw [basicAction, h]

/-- The keys of an action of the wheel whose flag may be set. -/
theorem setWheelKeys_spec {device : Device} {s : State} {keys : List String}
    {action action' : Option BasicObject} {entry : Option Config.BasicAction}
    {events : List InputEvent}
    (hset : setWheelKeys device keys action = some (action', entry, events)) :
    PressesNothing events ∧
      (SetKeysKeeps device s action keys → ∀ code, s.keyboard.applyAll events code = true →
        code ∈ keysOf action → code ∈ keysOf action') := by
  unfold setWheelKeys at hset
  obtain ⟨a, ha, hset⟩ := Option.bind_eq_some_iff.mp hset
  obtain ⟨⟨a', sent⟩, hkeys, heq⟩ := Option.map_eq_some_iff.mp hset
  subst ha
  cases heq
  exact ⟨(BasicObject.setKeys_transfers hkeys).1,
    fun hkeeps code hdown hkey => setKeys_keeps hkeys hkeeps hdown hkey⟩

theorem Invariant.setKeys {device : Device} {s : State} (h : Invariant device s)
    {place : KeysPlace} {keys : List String}
    (htakes : TakesNoKey device s (.setKeys place keys)) :
    Invariant device (setKeys device s place keys) := by
  unfold Input.setKeys
  cases place with
  | button control =>
    dsimp only
    split
    next a ha =>
      split
      next a' events hset =>
        refine h.withButtonAction rfl rfl rfl (BasicObject.setKeys_transfers hset).1 ?_
        intro hheld code hdown hkey
        have hkeeps := htakes hheld
        rw [keysOf_basicAction ha] at hkeeps hkey
        exact setKeys_keeps hset hkeeps hdown hkey
      next => exact h
    next => exact h
  | gesture place =>
    dsimp only
    split
    next => exact h
    next g entry _ =>
      split
      next a events hset =>
        obtain ⟨b, -, hset⟩ := Option.bind_eq_some_iff.mp hset
        exact h.replaceAt _ _ place (BasicObject.setKeys_transfers hset).1
      next => exact h
  | proxy =>
    dsimp only
    split
    next action entry events hset =>
      obtain ⟨hnothing, hkeep⟩ := setWheelKeys_spec (s := s) hset
      refine Owned.setWheel h hnothing fun code hdown howns => ?_
      rcases howns with ⟨hflag, hkey⟩ | htouch
      · exact .inl ⟨hflag, hkeep (htakes hflag) code hdown hkey⟩
      · exact .inr htouch
    next => exact h
  | tap =>
    dsimp only
    split
    next action entry events hset =>
      exact Owned.setWheel h (setWheelKeys_spec (s := s) hset).1 fun code _ howns => howns
    next => exact h
  | touch =>
    dsimp only
    split
    next action entry events hset =>
      obtain ⟨hnothing, hkeep⟩ := setWheelKeys_spec (s := s) hset
      refine Owned.setWheel h hnothing fun code hdown howns => ?_
      rcases howns with hproxy | ⟨hflag, hkey⟩
      · exact .inl hproxy
      · exact .inr ⟨hflag, hkeep (htakes hflag) code hdown hkey⟩
    next => exact h

/-! ## The thumb wheel on the bus -/

/-- A method of the wheel that keeps what the wheel owns. -/
theorem Invariant.wheelMethod {device : Device} {s : State} (h : Invariant device s)
    {f : Config.ThumbWheel → ThumbWheel → Config.ThumbWheel × ThumbWheel × Bool}
    (hkeep : ∀ code, s.keyboard code = true → WheelOwns s.wheel code →
      WheelOwns (f s.wheelConfig s.wheel).2.1 code) :
    Invariant device (wheelMethod device s f) := by
  unfold Input.wheelMethod
  split
  · have hkept := Owned.setWheel h .nil hkeep
    exact hkept
  · exact h

theorem setProxy_owns {device : Device} {s : State} {type : String} {config : Config.ThumbWheel}
    (htakes : TakesNoKey device s (.setProxy type)) {code : UInt32}
    (hdown : s.keyboard code = true) (howns : WheelOwns s.wheel code) :
    WheelOwns (ThumbWheel.setProxy device.codes type config s.wheel).2.1 code := by
  simp only [ThumbWheel.setProxy, ThumbWheel.makeAction]
  cases htype : Actions.BasicAction.ofName type with
  | none => exact howns
  | some value =>
    rcases howns with ⟨hflag, hkey⟩ | htouch
    · have hnone := htakes (by rw [htype]; rfl) hflag code hkey hdown
      cases hnone
    · exact .inr htouch

theorem setTouch_owns {device : Device} {s : State} {type : String} {config : Config.ThumbWheel}
    (htakes : TakesNoKey device s (.setTouch type)) {code : UInt32}
    (hdown : s.keyboard code = true) (howns : WheelOwns s.wheel code) :
    WheelOwns (ThumbWheel.setTouch device.codes type config s.wheel).2.1 code := by
  simp only [ThumbWheel.setTouch, ThumbWheel.makeAction]
  cases htype : Actions.BasicAction.ofName type with
  | none => exact howns
  | some value =>
    rcases howns with hproxy | ⟨hflag, hkey⟩
    · exact .inl hproxy
    · have hnone := htakes (by rw [htype]; rfl) hflag code hkey hdown
      cases hnone

theorem setTap_owns (codes : EventCodes) (type : String) (config : Config.ThumbWheel)
    (w : ThumbWheel) {code : UInt32} (howns : WheelOwns w code) :
    WheelOwns (ThumbWheel.setTap codes type config w).2.1 code := by
  unfold ThumbWheel.setTap
  split
  · exact howns
  · exact howns

theorem setLeft_owns (codes : EventCodes) (info : ThumbwheelInfo) (type : String)
    (config : Config.ThumbWheel) (w : ThumbWheel) {code : UInt32} (howns : WheelOwns w code) :
    WheelOwns (ThumbWheel.setLeft codes info type config w).2.1 code := by
  unfold ThumbWheel.setLeft
  split
  · exact howns
  · dsimp only
    split
    · exact howns
    · exact howns

theorem setRight_owns (codes : EventCodes) (info : ThumbwheelInfo) (type : String)
    (config : Config.ThumbWheel) (w : ThumbWheel) {code : UInt32} (howns : WheelOwns w code) :
    WheelOwns (ThumbWheel.setRight codes info type config w).2.1 code := by
  unfold ThumbWheel.setRight
  split
  · exact howns
  · dsimp only
    split
    · exact howns
    · exact howns

/-! ## Profiles -/

theorem makeConfig_owns {codes : EventCodes} {config : Option Config.ThumbWheel} {w : ThumbWheel}
    {code : UInt32}
    (h : (w.lastProxy = true ∧ code ∈ basicKeys codes (config.bind fun c => c.proxy)) ∨
      (w.lastTouch = true ∧ code ∈ basicKeys codes (config.bind fun c => c.touch))) :
    WheelOwns (w.setProfile codes config) code := by
  cases config with
  | none =>
    rcases h with h | h
    · exact absurd h.2 List.not_mem_nil
    · exact absurd h.2 List.not_mem_nil
  | some config =>
    rcases h with ⟨hflag, hkey⟩ | ⟨hflag, hkey⟩
    · exact .inl ⟨hflag, (keysOf_makeBasic codes config.proxy).symm ▸ hkey⟩
    · exact .inr ⟨hflag, (keysOf_makeBasic codes config.touch).symm ▸ hkey⟩

/-- The switch to a profile leaves the keys that are down with the controls that are held. -/
theorem Invariant.switch {device : Device} {s : State} (h : Invariant device s)
    (hkeeps : SwitchKeeps device s s.profile) : Invariant device (switch device s) := by
  intro code hdown
  have hprofile := s.withProfile_profile device.features.setProfile
  rcases h code hdown with howns | ⟨i, hi, hcontrol, hkey⟩
  · left
    show WheelOwns (if device.features.thumbwheel then
      s.wheel.setProfile device.codes (s.withProfile device.features.setProfile).profile.thumbwheel
      else s.wheel) code
    rw [hprofile]
    split
    · apply makeConfig_owns
      rcases howns with ⟨hflag, hkey⟩ | ⟨hflag, hkey⟩
      · exact .inl ⟨hflag, hkeeps.proxy hflag code hkey hdown⟩
      · exact .inr ⟨hflag, hkeeps.touch hflag code hkey hdown⟩
    · exact howns
  · refine .inr ⟨i, hi, hcontrol, ?_⟩
    have hnew := hkeeps.buttons i hi code hkey hdown
    rw [← hprofile] at hnew
    show code ∈ keysOf (basicAction (if i ∈ device.controls.map ControlInfo.controlID then
      (s.remap.buttons i).setProfile device.codes
        ((s.withProfile device.features.setProfile).entries i) else s.remap.buttons i))
    rw [if_pos hcontrol, Button.setProfile, keysOf_make]
    exact hnew

/-- `SwitchKeeps` reads the actions and the keyboard, not the configuration. -/
theorem SwitchKeeps.congr {device : Device} {s t : State} {profile : Profile}
    (h : SwitchKeeps device s profile) (hremap : t.remap = s.remap) (hwheel : t.wheel = s.wheel)
    (hkeyboard : t.keyboard = s.keyboard) : SwitchKeeps device t profile := by
  constructor
  · rw [hremap]
    intro control hheld code hkey hdown
    rw [hkeyboard] at hdown
    exact h.buttons control hheld code hkey hdown
  · rw [hwheel]
    intro hflag code hkey hdown
    rw [hkeyboard] at hdown
    exact h.proxy hflag code hkey hdown
  · rw [hwheel]
    intro hflag code hkey hdown
    rw [hkeyboard] at hdown
    exact h.touch hflag code hkey hdown

theorem Invariant.setProfile {device : Device} {s : State} (h : Invariant device s) {name : String}
    (htakes : TakesNoKey device s (.setProfile name)) :
    Invariant device (setProfile device s name) := by
  have hlookup : (s.profiles.emplace name {}).find? name = some ((s.profiles.find? name).getD {}) := by
    cases hfind : s.profiles.find? name with
    | none => exact SortedMap.find?_emplace_self Profiles.stringLess_linear hfind
    | some profile => exact SortedMap.find?_emplace_of_some Profiles.stringLess_linear hfind
  apply Invariant.switch
  · exact h
  · apply SwitchKeeps.congr (s := s)
    · rw [State.profile, hlookup]
      exact htakes
    · rfl
    · rfl
    · rfl

theorem Invariant.clearProfile {device : Device} {s : State} (h : Invariant device s)
    {name : String} (htakes : TakesNoKey device s (.clearProfile name)) :
    Invariant device (clearProfile device s name) := by
  unfold Input.clearProfile
  split
  next hactive =>
    apply Invariant.switch
    · exact h
    · rw [State.withProfile_profile]
      exact (htakes hactive).congr rfl rfl rfl
  next => exact h

/-! ## Runs -/

theorem Invariant.buttonEvent {device : Device} {s : State} (h : Invariant device s)
    (held : List UInt16) : Invariant device (buttonEvent device s held) :=
  buttonEvent_owned h held

theorem Invariant.rawXYEvent {device : Device} {s : State} (h : Invariant device s) (x y : Int16) :
    Invariant device (rawXYEvent device s x y) := by
  have hpressed := rawXYEvent_pressedButtons s.entries x.toInt y.toInt device.controls s.remap
  show Owned device.controls (fun i => i ∈
    (RemapButton.rawXYEvent s.entries x.toInt y.toInt device.controls s.remap).1.pressedButtons) _ _ _
  rw [hpressed]
  exact rawXYEvent_owned h

theorem Invariant.wheelEvent {device : Device} {s : State} (h : Invariant device s)
    (event : ThumbwheelEvent) : Invariant device (wheelEvent device s event) := by
  unfold Input.wheelEvent
  split
  · exact Owned.wheel h (handleEvent_transfers device.wheel s.wheelConfig s.wheel event s.keyboard)
  · exact h

/-- What one step does to the keys that are down. -/
theorem Invariant.step {device : Device} {s : State} (h : Invariant device s) {a : Label}
    (htakes : TakesNoKey device s a) : Invariant device (step device s a) := by
  cases a with
  | buttons held => exact h.buttonEvent held
  | rawXY x y => exact h.rawXYEvent x y
  | wheel event => exact h.wheelEvent event
  | setProfile name => exact h.setProfile htakes
  | clearProfile name => exact h.clearProfile htakes
  | setAction control type => exact h.setAction htakes
  | setGesture control direction type => exact h.setGesture control direction type
  | setGestureAction place type => exact h.setGestureAction place type
  | setKeys place keys => exact h.setKeys htakes
  | setProxy type => exact h.wheelMethod fun code hdown howns => setProxy_owns htakes hdown howns
  | setTap type => exact h.wheelMethod fun code _ howns => setTap_owns _ type _ _ howns
  | setTouch type => exact h.wheelMethod fun code hdown howns => setTouch_owns htakes hdown howns
  | setLeft type => exact h.wheelMethod fun code _ howns => setLeft_owns _ _ type _ _ howns
  | setRight type => exact h.wheelMethod fun code _ howns => setRight_owns _ _ type _ _ howns

theorem invariant_initial (device : Device) (profiles : SortedMap String Profile stringLess)
    (active : String) : Invariant device (initial device profiles active) := by
  intro code hdown
  cases hdown

/-- A mouse with one button that is diverted. -/
def oneButton : Device where
  codes := { keyCode := fun _ => none, axisCode := fun _ => none }
  controls := [{ controlID := 0x52, temporaryDivertable := true, rawXY := false }]
  wheel := { divertedRes := 1, defaultDirection := 1 }
  features := { remapbutton := some [0x52] }
  remaps := rfl

/-- `KEY_LEFTCTRL` on the button. -/
def ctrlProfiles : SortedMap String Profile stringLess :=
  SortedMap.empty.assign "default"
    { buttons := some (SortedMap.empty.assign 0x52
        { action := some (.keypress { keys := some (.inr (.inl 29)) }) }) }

end Logid.Input
