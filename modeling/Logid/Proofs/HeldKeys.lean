import Logid.Actions.Proofs.Objects
import Logid.Input

/-!
# What reports do to the keys that are down

Every key that is down is a key of the action of a control that is held: a button of the last report,
or the wheel while its flag is set. A press gives a key to the action that is pressed, and a release
takes all keys of the action up.
-/

namespace Logid.Input

open Actions (BasicObject GestureObject EventCodes InputEvent ActionObject Keyboard PressesNothing)
open Actions.BasicObject (keysOf Transfers)
open Features

/-! ## Buttons -/

/-- A method of the action of a button, seen on its keys. -/
theorem press_transfers (entry : Option Config.Action) (b : Button) :
    Transfers (basicAction b) (basicAction (b.press entry).1) (b.press entry).2 := by
  obtain ⟨action, firstMove⟩ := b
  cases action with
  | none => exact .of_pressesNothing .nil
  | some action =>
    cases action with
    | basic a => exact a.press_transfers
    | gesture a => exact .of_pressesNothing .nil

theorem release_down {entry : Option Config.Action} {b : Button} {keyboard : Keyboard}
    {code : UInt32} (h : keyboard.applyAll (b.release entry).2 code = true) :
    keyboard code = true ∧ code ∉ keysOf (basicAction b) := by
  obtain ⟨action, firstMove⟩ := b
  cases action with
  | none => exact ⟨h, List.not_mem_nil⟩
  | some action =>
    cases action with
    | basic a => exact BasicObject.release_down h
    | gesture a => exact ⟨a.release_pressesNothing _ keyboard code h, List.not_mem_nil⟩

theorem move_spec (entry : Option Config.Action) (x y : Int) (b : Button) :
    PressesNothing (b.move entry x y).2 ∧ basicAction (b.move entry x y).1 = basicAction b := by
  obtain ⟨action, firstMove⟩ := b
  unfold Button.move
  split
  next hmoves =>
    cases action with
    | none => cases hmoves
    | some action =>
      cases action with
      | basic a => exact ⟨.nil, rfl⟩
      | gesture a => exact ⟨a.move_pressesNothing _ x y, rfl⟩
  next =>
    split
    · exact ⟨.nil, rfl⟩
    · exact ⟨.nil, rfl⟩

theorem keysOf_make (codes : EventCodes) (entry : Option Config.Action) (firstMove : Bool) :
    keysOf (basicAction { action := entry.map (ActionObject.make codes), firstMove := firstMove }) =
      entryKeys codes entry := by
  cases entry with
  | none => rfl
  | some config => cases config <;> rfl

theorem keysOf_makeBasic (codes : EventCodes) (config : Option Config.BasicAction) :
    keysOf (config.map (BasicObject.make codes)) = basicKeys codes config := by
  cases config with
  | none => rfl
  | some config => cases config <;> rfl

/-! ## Keys that belong to someone -/

/-- Each key that is down is `other`'s or belongs to the action of a control that is held. -/
def Owned (controls : List ControlInfo) (held : UInt16 → Prop) (buttons : UInt16 → Button)
    (other : UInt32 → Prop) (keyboard : Keyboard) : Prop :=
  ∀ code, keyboard code = true → other code ∨
    ∃ i, held i ∧ i ∈ controls.map ControlInfo.controlID ∧ code ∈ keysOf (basicAction (buttons i))

section Owned

variable {controls : List ControlInfo} {held : UInt16 → Prop} {buttons : UInt16 → Button}
  {other : UInt32 → Prop} {keyboard : Keyboard}

theorem Owned.mono (h : Owned controls held buttons other keyboard) {held' : UInt16 → Prop}
    (hheld : ∀ i, held i → held' i) : Owned controls held' buttons other keyboard := by
  intro code hdown
  rcases h code hdown with hother | ⟨i, hi, hcontrol, hkey⟩
  · exact .inl hother
  · exact .inr ⟨i, hheld i hi, hcontrol, hkey⟩

theorem Owned.press (h : Owned controls held buttons other keyboard) {i : UInt16}
    (hi : i ∈ controls.map ControlInfo.controlID) (entry : Option Config.Action) :
    Owned controls (fun j => held j ∨ j = i)
      (Function.update buttons i ((buttons i).press entry).1) other
      (keyboard.applyAll ((buttons i).press entry).2) := by
  intro code hdown
  rcases press_transfers entry (buttons i) keyboard code hdown with hkey | ⟨hdown, hnot⟩
  · exact .inr ⟨i, .inr rfl, hi, by rwa [Function.update_self]⟩
  · rcases h code hdown with hother | ⟨j, hj, hcontrol, hkey⟩
    · exact .inl hother
    · have hne : j ≠ i := by
        intro heq
        subst heq
        exact hnot hkey
      exact .inr ⟨j, .inl hj, hcontrol, by rwa [Function.update_of_ne hne]⟩

theorem Owned.release (h : Owned controls held buttons other keyboard) (i : UInt16)
    (entry : Option Config.Action) :
    Owned controls (fun j => held j ∧ j ≠ i)
      (Function.update buttons i ((buttons i).release entry).1) other
      (keyboard.applyAll ((buttons i).release entry).2) := by
  intro code hdown
  obtain ⟨hdown, hnot⟩ := release_down hdown
  rcases h code hdown with hother | ⟨j, hj, hcontrol, hkey⟩
  · exact .inl hother
  · have hne : j ≠ i := by
      intro heq
      subst heq
      exact hnot hkey
    exact .inr ⟨j, ⟨hj, hne⟩, hcontrol, by rwa [Function.update_of_ne hne]⟩

/-- Another button in the place of one, which keeps the keys that are down if it is held. -/
theorem Owned.replace (h : Owned controls held buttons other keyboard) {i : UInt16} {b : Button}
    {events : List InputEvent} (hevents : PressesNothing events)
    (hkeep : held i → ∀ code, keyboard.applyAll events code = true →
      code ∈ keysOf (basicAction (buttons i)) → code ∈ keysOf (basicAction b)) :
    Owned controls held (Function.update buttons i b) other (keyboard.applyAll events) := by
  intro code hdown
  rcases h code (hevents keyboard code hdown) with hother | ⟨j, hj, hcontrol, hkey⟩
  · exact .inl hother
  · refine .inr ⟨j, hj, hcontrol, ?_⟩
    by_cases heq : j = i
    · subst heq
      rw [Function.update_self]
      exact hkeep hj code hdown hkey
    · rwa [Function.update_of_ne heq]

end Owned

/-! ## Reports of the buttons -/

theorem pressAdded_owned {controls : List ControlInfo} {entries : ButtonEntries}
    {other : UInt32 → Prop} {is : List UInt16} {held : UInt16 → Prop} {r : RemapButton}
    {keyboard : Keyboard} (h : Owned controls held r.buttons other keyboard) :
    Owned controls (fun j => held j ∨ j ∈ is)
      (RemapButton.pressAdded controls entries is r).1.buttons other
      (keyboard.applyAll (RemapButton.pressAdded controls entries is r).2) := by
  induction is generalizing held r keyboard with
  | nil => exact h.mono fun j hj => .inl hj
  | cons i is ih =>
    rw [RemapButton.pressAdded]
    split
    · refine (ih (r := { r with pressedButtons := r.pressedButtons.erase i }) h).mono ?_
      intro j hj
      rcases hj with hj | hj
      · exact .inl hj
      · exact .inr (List.mem_cons_of_mem i hj)
    · dsimp only
      rw [Keyboard.applyAll_append]
      unfold RemapButton.onButton
      split
      next hi =>
        refine (ih (h.press hi (entries i))).mono ?_
        intro j hj
        rcases hj with (hj | rfl) | hj
        · exact .inl hj
        · exact .inr List.mem_cons_self
        · exact .inr (List.mem_cons_of_mem i hj)
      next =>
        refine (ih h).mono ?_
        intro j hj
        rcases hj with hj | hj
        · exact .inl hj
        · exact .inr (List.mem_cons_of_mem i hj)

/-- A button that is not in the report is left to be released. -/
theorem mem_pressAdded {controls : List ControlInfo} {entries : ButtonEntries} {j : UInt16}
    {is : List UInt16} {r : RemapButton} (hj : j ∈ r.pressedButtons) (hnot : j ∉ is) :
    j ∈ (RemapButton.pressAdded controls entries is r).1.pressedButtons := by
  induction is generalizing r with
  | nil => exact hj
  | cons i is ih =>
    have hne : j ≠ i := fun heq => hnot (heq ▸ List.mem_cons_self)
    have hrest : j ∉ is := fun hmem => hnot (List.mem_cons_of_mem i hmem)
    rw [RemapButton.pressAdded]
    split
    · exact ih ((List.mem_erase_of_ne hne).mpr hj) hrest
    · refine ih ?_ hrest
      unfold RemapButton.onButton
      split
      · exact hj
      · exact hj

theorem releaseRemoved_owned {controls : List ControlInfo} {entries : ButtonEntries}
    {other : UInt32 → Prop} {is : List UInt16} {held : UInt16 → Prop} {r : RemapButton}
    {keyboard : Keyboard} (h : Owned controls held r.buttons other keyboard) :
    Owned controls (fun j => held j ∧ j ∉ is)
      (RemapButton.releaseRemoved controls entries is r).1.buttons other
      (keyboard.applyAll (RemapButton.releaseRemoved controls entries is r).2) := by
  induction is generalizing held r keyboard with
  | nil => exact h.mono fun j hj => ⟨hj, List.not_mem_nil⟩
  | cons i is ih =>
    have hcons : ∀ j, (held j ∧ j ≠ i) ∧ j ∉ is → held j ∧ j ∉ i :: is := by
      intro j hj
      exact ⟨hj.1.1, by simp [hj.1.2, hj.2]⟩
    rw [RemapButton.releaseRemoved]
    dsimp only
    rw [Keyboard.applyAll_append]
    unfold RemapButton.onButton
    split
    next => exact (ih (h.release i (entries i))).mono hcons
    next hi =>
      -- a control that the device does not have owns nothing
      have hother : Owned controls (fun j => held j ∧ j ≠ i) r.buttons other keyboard := by
        intro code hdown
        rcases h code hdown with hother | ⟨j, hj, hcontrol, hkey⟩
        · exact .inl hother
        · exact .inr ⟨j, ⟨hj, fun heq => hi (heq ▸ hcontrol)⟩, hcontrol, hkey⟩
      exact (ih hother).mono hcons

theorem buttonEvent_owned {controls : List ControlInfo} {entries : ButtonEntries}
    {other : UInt32 → Prop} {r : RemapButton} {keyboard : Keyboard}
    (h : Owned controls (fun i => i ∈ r.pressedButtons) r.buttons other keyboard)
    (newState : List UInt16) :
    Owned controls (fun i => i ∈ newState) (r.buttonEvent controls entries newState).1.buttons other
      (keyboard.applyAll (r.buttonEvent controls entries newState).2) := by
  simp only [RemapButton.buttonEvent]
  rw [Keyboard.applyAll_append]
  refine (releaseRemoved_owned (pressAdded_owned h)).mono ?_
  intro j hj
  obtain ⟨hold | hnew, hkept⟩ := hj
  · by_contra hnot
    exact hkept (mem_pressAdded hold hnot)
  · exact hnew

theorem rawXYEvent_owned {controls : List ControlInfo} {held : UInt16 → Prop}
    {entries : ButtonEntries} {other : UInt32 → Prop} {x y : Int} {cs : List ControlInfo}
    {r : RemapButton} {keyboard : Keyboard} (h : Owned controls held r.buttons other keyboard) :
    Owned controls held (RemapButton.rawXYEvent entries x y cs r).1.buttons other
      (keyboard.applyAll (RemapButton.rawXYEvent entries x y cs r).2) := by
  induction cs generalizing r keyboard with
  | nil => exact h
  | cons c cs ih =>
    rw [RemapButton.rawXYEvent]
    dsimp only
    rw [Keyboard.applyAll_append]
    apply ih
    split
    · obtain ⟨hnothing, hsame⟩ := move_spec (entries c.controlID) x y (r.buttons c.controlID)
      apply h.replace hnothing
      intro _ code _ hkey
      rwa [hsame]
    · exact h.replace .nil fun _ code _ hkey => hkey

theorem rawXYEvent_pressedButtons (entries : ButtonEntries) (x y : Int) (cs : List ControlInfo)
    (r : RemapButton) :
    (RemapButton.rawXYEvent entries x y cs r).1.pressedButtons = r.pressedButtons := by
  induction cs generalizing r with
  | nil => rfl
  | cons c cs ih =>
    rw [RemapButton.rawXYEvent]
    exact ih _

/-! ## The thumb wheel -/

/-- The key belongs to an action of the wheel whose flag is set. -/
def WheelOwns (w : ThumbWheel) (code : UInt32) : Prop :=
  (w.lastProxy = true ∧ code ∈ keysOf w.proxy) ∨ (w.lastTouch = true ∧ code ∈ keysOf w.touch)

/-- `Transfers` for the actions of the wheel. -/
def WheelTransfers (w w' : ThumbWheel) (events : List InputEvent) : Prop :=
  ∀ (keyboard : Keyboard) (code : UInt32), keyboard.applyAll events code = true →
    WheelOwns w' code ∨ keyboard code = true ∧ ¬ WheelOwns w code

theorem WheelTransfers.trans {w w₁ w₂ : ThumbWheel} {events more : List InputEvent}
    (h : WheelTransfers w w₁ events) (hmore : WheelTransfers w₁ w₂ more) :
    WheelTransfers w w₂ (events ++ more) := by
  intro keyboard code hdown
  rw [Keyboard.applyAll_append] at hdown
  rcases hmore _ code hdown with howns | ⟨hdown, hnot⟩
  · exact .inl howns
  · rcases h keyboard code hdown with howns | hdown
    · exact absurd howns hnot
    · exact .inr hdown

theorem WheelTransfers.of_same {w w' : ThumbWheel} {events : List InputEvent}
    (hevents : PressesNothing events) (hsame : ∀ code, WheelOwns w code → WheelOwns w' code) :
    WheelTransfers w w' events := by
  intro keyboard code hdown
  by_cases howns : WheelOwns w code
  · exact .inl (hsame code howns)
  · exact .inr ⟨hevents keyboard code hdown, howns⟩

theorem follow_transfers {flag last : Bool} {action : Option BasicObject} {keyboard : Keyboard}
    {code : UInt32}
    (h : keyboard.applyAll (ThumbWheel.follow flag last action).2.2 code = true) :
    ((ThumbWheel.follow flag last action).1 = true ∧
        code ∈ keysOf (ThumbWheel.follow flag last action).2.1) ∨
      keyboard code = true ∧ ¬ (last = true ∧ code ∈ keysOf action) := by
  unfold ThumbWheel.follow at h ⊢
  split at h
  next hsame =>
    rw [if_pos hsame]
    by_cases hkey : last = true ∧ code ∈ keysOf action
    · exact .inl hkey
    · exact .inr ⟨h, hkey⟩
  next hdiffer =>
    rw [if_neg hdiffer]
    cases action with
    | none => exact .inr ⟨h, fun hkey => absurd hkey.2 List.not_mem_nil⟩
    | some a =>
      cases last with
      | false =>
        rcases a.press_transfers keyboard code h with hkey | ⟨hdown, hnot⟩
        · exact .inl ⟨rfl, hkey⟩
        · exact .inr ⟨hdown, fun hkey => hnot hkey.2⟩
      | true =>
        obtain ⟨hdown, hnot⟩ := BasicObject.release_down h
        exact .inr ⟨hdown, fun hkey => hnot hkey.2⟩

theorem moveGesture_pressesNothing (config : Config.Gesture) (movement : Int)
    (g : Option GestureObject) : PressesNothing (ThumbWheel.moveGesture config movement g).2 := by
  cases g with
  | none => exact .nil
  | some g => exact GestureObject.move_pressesNothing config movement _

theorem releaseGesture_pressesNothing (config : Config.Gesture) (g : Option GestureObject) :
    PressesNothing (ThumbWheel.releaseGesture config g).2 := by
  cases g with
  | none => exact .nil
  | some g => exact GestureObject.released_pressesNothing config false g

/-- A rotation uses the gestures alone. -/
structure SameActions (w w' : ThumbWheel) : Prop where
  proxy : w'.proxy = w.proxy
  touch : w'.touch = w.touch
  lastProxy : w'.lastProxy = w.lastProxy
  lastTouch : w'.lastTouch = w.lastTouch

theorem SameActions.refl (w : ThumbWheel) : SameActions w w := ⟨rfl, rfl, rfl, rfl⟩

theorem SameActions.trans {w w₁ w₂ : ThumbWheel} (h : SameActions w w₁) (h' : SameActions w₁ w₂) :
    SameActions w w₂ :=
  ⟨h'.proxy.trans h.proxy, h'.touch.trans h.touch, h'.lastProxy.trans h.lastProxy,
    h'.lastTouch.trans h.lastTouch⟩

theorem SameActions.owns {w w' : ThumbWheel} (h : SameActions w w') {code : UInt32}
    (howns : WheelOwns w code) : WheelOwns w' code := by
  rw [WheelOwns, h.proxy, h.touch, h.lastProxy, h.lastTouch]
  exact howns

theorem scroll_spec (config : Config.ThumbWheel) (w : ThumbWheel) (rotation : Int) :
    PressesNothing (w.scroll config rotation).2 ∧ SameActions w (w.scroll config rotation).1 := by
  unfold ThumbWheel.scroll
  split
  · exact ⟨moveGesture_pressesNothing _ _ _, rfl, rfl, rfl, rfl⟩
  · split
    · exact ⟨moveGesture_pressesNothing _ _ _, rfl, rfl, rfl, rfl⟩
    · exact ⟨.nil, .refl w⟩

theorem stopRotation_spec (config : Config.ThumbWheel) (w : ThumbWheel) :
    PressesNothing (w.stopRotation config).2 ∧ SameActions w (w.stopRotation config).1 :=
  ⟨.append (releaseGesture_pressesNothing _ _) (releaseGesture_pressesNothing _ _),
    rfl, rfl, rfl, rfl⟩

theorem rotate_spec (info : ThumbwheelInfo) (config : Config.ThumbWheel) (w : ThumbWheel)
    (event : ThumbwheelEvent) :
    PressesNothing (w.rotate info config event).2 ∧
      SameActions w (w.rotate info config event).1 := by
  have hstart : SameActions w
      (if event.rotationStatus = rotationStart then w.startRotation config else w) := by
    split
    · exact ⟨rfl, rfl, rfl, rfl⟩
    · exact .refl w
  simp only [ThumbWheel.rotate]
  generalize (if event.rotationStatus = rotationStart then w.startRotation config else w) =
    started at hstart ⊢
  obtain ⟨hmoved, hscroll⟩ := scroll_spec config started
    (Actions.toInt16 (event.rotation.toInt * info.defaultDirection.toInt))
  generalize started.scroll config
    (Actions.toInt16 (event.rotation.toInt * info.defaultDirection.toInt)) = scrolled at hmoved hscroll ⊢
  split
  · obtain ⟨hstopped, hstop⟩ := stopRotation_spec config scrolled.1
    exact ⟨hmoved.append hstopped, (hstart.trans hscroll).trans hstop⟩
  · exact ⟨hmoved.append .nil, hstart.trans hscroll⟩

/-- The wheel after the action of the proxy flag. -/
theorem follow_proxy (w : ThumbWheel) (flag : Bool) :
    WheelTransfers w
      { w with
        lastProxy := (ThumbWheel.follow flag w.lastProxy w.proxy).1
        proxy := (ThumbWheel.follow flag w.lastProxy w.proxy).2.1 }
      (ThumbWheel.follow flag w.lastProxy w.proxy).2.2 := by
  intro keyboard code hdown
  rcases follow_transfers hdown with howns | ⟨hdown, hnot⟩
  · exact .inl (.inl howns)
  · by_cases htouch : w.lastTouch = true ∧ code ∈ keysOf w.touch
    · exact .inl (.inr htouch)
    · exact .inr ⟨hdown, not_or.mpr ⟨hnot, htouch⟩⟩

/-- The wheel after the action of the touch flag. -/
theorem follow_touch (w : ThumbWheel) (flag : Bool) :
    WheelTransfers w
      { w with
        lastTouch := (ThumbWheel.follow flag w.lastTouch w.touch).1
        touch := (ThumbWheel.follow flag w.lastTouch w.touch).2.1 }
      (ThumbWheel.follow flag w.lastTouch w.touch).2.2 := by
  intro keyboard code hdown
  rcases follow_transfers hdown with howns | ⟨hdown, hnot⟩
  · exact .inl (.inr howns)
  · by_cases hproxy : w.lastProxy = true ∧ code ∈ keysOf w.proxy
    · exact .inl (.inl hproxy)
    · exact .inr ⟨hdown, not_or.mpr ⟨hproxy, hnot⟩⟩

theorem tap_transfers (w : ThumbWheel) (fires : Prop) [Decidable fires] :
    WheelTransfers w { w with tap := (if fires then BasicObject.fire w.tap else (w.tap, [])).1 }
      (if fires then BasicObject.fire w.tap else (w.tap, [])).2 := by
  refine .of_same ?_ fun code howns => howns
  split
  · exact BasicObject.fire_pressesNothing w.tap
  · exact .nil

theorem rotation_transfers (info : ThumbwheelInfo) (config : Config.ThumbWheel) (w : ThumbWheel)
    (event : ThumbwheelEvent) (rotates : Prop) [Decidable rotates] :
    WheelTransfers w (if rotates then w.rotate info config event else (w, [])).1
      (if rotates then w.rotate info config event else (w, [])).2 := by
  split
  · obtain ⟨hnothing, hsame⟩ := rotate_spec info config w event
    exact .of_same hnothing fun code howns => hsame.owns howns
  · exact .of_same .nil fun code howns => howns

theorem handleEvent_transfers (info : ThumbwheelInfo) (config : Config.ThumbWheel) (w : ThumbWheel)
    (event : ThumbwheelEvent) :
    WheelTransfers w (w.handleEvent info config event).1 (w.handleEvent info config event).2 := by
  have htap := tap_transfers w (event.flags &&& capabilitySingleTap ≠ 0)
  have hproxy := htap.trans (follow_proxy _ (decide (event.flags &&& capabilityProxy ≠ 0)))
  have htouch := hproxy.trans (follow_touch _ (decide (event.flags &&& capabilityTouch ≠ 0)))
  exact htouch.trans (rotation_transfers info config _ event
    (event.rotationStatus ≠ rotationInactive))

end Logid.Input
