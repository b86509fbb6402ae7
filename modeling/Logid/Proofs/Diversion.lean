import Logid.Backend.Hidpp20.Proofs.FeatureLookup
import Logid.Diversion
import Logid.Proofs.ButtonReports

/-!
# The device diverts what the actions ask

Only a new action changes what a button asks for; everything else that happens to a button leaves the
kind of its action. So the device has to get a request exactly where an action is replaced by one that
asks for something else, and where it may have forgotten what it had.
-/

namespace Logid.Diversion

open Actions (ActionObject BasicObject EventCodes)
open Backend.Hidpp20.ReprogControls
open Config (Profile stringLess)
open Features (Button ButtonCall ButtonEntries RemapButton)

/-! ## One request -/

/-- What an action can ask for. -/
def Asks (flags : UInt8) : Prop :=
  flags = 0 ∨ flags = temporaryDiverted ∨ flags = temporaryDiverted ||| rawXYDiverted

theorem asks_flagsOf (action : Option ActionObject) : Asks (flagsOf action) := by
  cases action with
  | none => exact .inl rfl
  | some action =>
    cases action with
    | basic a => exact .inr (.inl rfl)
    | gesture a => exact .inr (.inr rfl)

theorem flagsOf_eq_zero_iff {action : Option ActionObject} : flagsOf action = 0 ↔ action = none := by
  constructor
  · intro h
    cases action with
    | none => rfl
    | some action => cases action <;> cases h
  · rintro rfl
    rfl

/-- Of what is stored, the bits under the mask are the new ones. -/
theorem masked_and (old new mask : UInt8) :
    (old &&& ~~~mask ||| new &&& mask) &&& mask = new &&& mask := by
  rw [← UInt8.toBitVec_inj]
  simp only [UInt8.toBitVec_and, UInt8.toBitVec_or, UInt8.toBitVec_not]
  ext i
  simp only [BitVec.getElem_and, BitVec.getElem_or, BitVec.getElem_not]
  cases old.toBitVec[i] <;> cases new.toBitVec[i] <;> cases mask.toBitVec[i] <;> rfl

/-- A request of the daemon changes both flags of an action, and only these. -/
theorem changed_rebind {flags : UInt8} (h : Asks flags) :
    changed (rebind ||| flags) = temporaryDiverted ||| rawXYDiverted ∧
      (rebind ||| flags) &&& (temporaryDiverted ||| rawXYDiverted) = flags := by
  obtain rfl | rfl | rfl := h <;> decide

theorem agrees_store {flags : UInt8} (h : Asks flags) (old : Reporting) (cid : UInt16) :
    (old.store (rebind ||| flags) cid).flags &&& (temporaryDiverted ||| rawXYDiverted) = flags := by
  obtain ⟨hchanged, hflags⟩ := changed_rebind h
  rw [Reporting.store, hchanged, masked_and, hflags]

variable {buttons : UInt16 → Button} {reporting : ReportingTable}

/-- The request of a button says what its action asks for, and reaches its control. -/
theorem storeReporting_confFunc (reporting : ReportingTable) (control : Features.ControlInfo)
    (action : Option ActionObject) :
    ∃ params, confFunc .v4 control action = some params ∧
      storeReporting reporting params = Function.update reporting control.controlID
        ((reporting control.controlID).store (rebind ||| flagsOf action) control.controlID) := by
  refine ⟨_, rfl, ?_⟩
  simp only [storeReporting, Backend.Hidpp20.word_bytes]

theorem agrees_storeReporting (reporting : ReportingTable) {control : Features.ControlInfo}
    {action : Option ActionObject} {params : List UInt8}
    (h : confFunc .v4 control action = some params) :
    Agrees (storeReporting reporting params) control (flagsOf action) ∧
      ∀ cid ≠ control.controlID, storeReporting reporting params cid = reporting cid := by
  obtain ⟨params', hparams, hstore⟩ := storeReporting_confFunc reporting control action
  obtain rfl : params' = params := Option.some_inj.mp (hparams.symm.trans h)
  rw [hstore]
  refine ⟨⟨?_, ?_⟩, fun cid hcid => Function.update_of_ne hcid ..⟩
  · rw [Function.update_self]
    exact agrees_store (asks_flagsOf action) _ _
  · rw [Function.update_self, Reporting.store]

/-! ## One call of `configure` -/

/-- The first request of `configure`: the loop goes on, or it stops and the device has got the request
or not. -/
theorem configureButtons_cases (buttons : UInt16 → Button) (control : Features.ControlInfo)
    (controls : List Features.ControlInfo) (replies : List Reply) (reporting : ReportingTable) :
    ∃ stored : ReportingTable,
      Agrees stored control (flagsOf (buttons control.controlID).action) ∧
      (∀ cid ≠ control.controlID, stored cid = reporting cid) ∧
      ((stores replies 0 = true ∧ (∀ k, stores replies (k + 1) = stores replies.tail k) ∧
          configureButtons .v4 buttons (control :: controls) replies reporting =
            configureButtons .v4 buttons controls replies.tail stored) ∨
        (∀ k, stores replies (k + 1) = false) ∧
          configureButtons .v4 buttons (control :: controls) replies reporting =
            if stores replies 0 then stored else reporting) := by
  obtain ⟨params, hparams, -⟩ := storeReporting_confFunc reporting control
    (buttons control.controlID).action
  obtain ⟨hagrees, hother⟩ := agrees_storeReporting reporting hparams
  refine ⟨storeReporting reporting params, hagrees, hother, ?_⟩
  rw [configureButtons, hparams]
  cases replies with
  | nil => exact .inl ⟨rfl, fun k => by cases k <;> rfl, rfl⟩
  | cons reply replies =>
    cases reply with
    | done => exact .inl ⟨rfl, fun k => rfl, rfl⟩
    | refused => exact .inr ⟨fun k => rfl, rfl⟩
    | timeout stored => exact .inr ⟨fun k => rfl, rfl⟩

theorem configureButtons_of_not_mem {controls : List Features.ControlInfo} {replies : List Reply}
    {cid : UInt16} (h : cid ∉ controls.map Features.ControlInfo.controlID) :
    configureButtons .v4 buttons controls replies reporting cid = reporting cid := by
  induction controls generalizing replies reporting with
  | nil => rfl
  | cons control controls ih =>
    rw [List.map_cons, List.mem_cons, not_or] at h
    obtain ⟨stored, -, hother, ⟨-, -, hgoes⟩ | ⟨-, hstops⟩⟩ :=
      configureButtons_cases buttons control controls replies reporting
    · rw [hgoes, ih h.2, hother cid h.1]
    · rw [hstops]
      split
      · exact hother cid h.1
      · rfl

theorem forall_getElem?_cons {α : Type*} {a : α} {as : List α} {P : Nat → α → Prop} :
    (∀ k b, (a :: as)[k]? = some b → P k b) ↔ P 0 a ∧ ∀ k b, as[k]? = some b → P (k + 1) b := by
  constructor
  · intro h
    exact ⟨h 0 a rfl, fun k b hb => h (k + 1) b hb⟩
  · rintro ⟨h, hs⟩ k b hb
    cases k with
    | zero =>
      cases hb
      exact h
    | succ k => exact hs k b hb

theorem agrees_congr {table : ReportingTable} {control : Features.ControlInfo} {flags : UInt8}
    (h : table control.controlID = reporting control.controlID) :
    Agrees table control flags ↔ Agrees reporting control flags := by
  rw [Agrees, Agrees, h]

/-- After `configure` each control is diverted as its action asks exactly if the device has got its
request or did so before. -/
theorem agrees_configureButtons_iff {controls : List Features.ControlInfo} {replies : List Reply}
    (hnodup : (controls.map Features.ControlInfo.controlID).Nodup) :
    (∀ control ∈ controls, Agrees (configureButtons .v4 buttons controls replies reporting) control
        (flagsOf (buttons control.controlID).action)) ↔
      ∀ k control, controls[k]? = some control → stores replies k = true ∨
        Agrees reporting control (flagsOf (buttons control.controlID).action) := by
  induction controls generalizing replies reporting with
  | nil => simp
  | cons control controls ih =>
    rw [List.map_cons, List.nodup_cons] at hnodup
    obtain ⟨hfresh, hnodup⟩ := hnodup
    obtain ⟨stored, hagrees, hother, hcases⟩ :=
      configureButtons_cases buttons control controls replies reporting
    have hsame : ∀ other ∈ controls, ∀ flags,
        (Agrees stored other flags ↔ Agrees reporting other flags) := by
      intro other hmem flags
      have hne : other.controlID ≠ control.controlID :=
        fun heq => hfresh (heq ▸ List.mem_map_of_mem hmem)
      exact agrees_congr (hother _ hne)
    rw [List.forall_mem_cons, forall_getElem?_cons]
    obtain ⟨hfirst, hrest, hgoes⟩ | ⟨hrest, hstops⟩ := hcases
    · -- the requests that are left do not touch the first control
      rw [hgoes, ih hnodup, agrees_congr (configureButtons_of_not_mem hfresh)]
      simp only [hfirst, hrest, hagrees, true_or, true_and]
      refine forall₃_congr fun k other hk => ?_
      rw [hsame other (List.mem_of_getElem? hk)]
    · simp only [hrest, hstops, Bool.false_eq_true, false_or]
      have hleft : (∀ k other, controls[k]? = some other →
            Agrees reporting other (flagsOf (buttons other.controlID).action)) ↔
          ∀ other ∈ controls, Agrees reporting other (flagsOf (buttons other.controlID).action) :=
        ⟨fun h other hmem => (List.mem_iff_getElem?.mp hmem).elim fun k hk => h k other hk,
          fun h k other hk => h other (List.mem_of_getElem? hk)⟩
      rw [hleft]
      cases stores replies 0 with
      | true =>
        simp only [if_true, hagrees, true_or, true_and]
        exact forall₂_congr fun other hmem => hsame other hmem _
      | false => simp only [Bool.false_eq_true, if_false, false_or]

/-! ## The kinds of the actions -/

section
variable {controls : List Features.ControlInfo} {entries : ButtonEntries}

theorem flagsOf_press (entry : Option Config.Action) (b : Button) :
    flagsOf (b.press entry).1.action = flagsOf b.action := by
  obtain ⟨_ | action, firstMove⟩ := b
  · rfl
  · cases action <;> rfl

theorem flagsOf_release (entry : Option Config.Action) (b : Button) :
    flagsOf (b.release entry).1.action = flagsOf b.action := by
  obtain ⟨_ | action, firstMove⟩ := b
  · rfl
  · cases action <;> rfl

theorem flagsOf_move (entry : Option Config.Action) (x y : Int) (b : Button) :
    flagsOf (b.move entry x y).1.action = flagsOf b.action := by
  unfold Button.move
  split
  · obtain ⟨_ | action, firstMove⟩ := b
    · rfl
    · cases action <;> rfl
  · split <;> rfl

/-- The buttons of two states ask for the same. -/
def SameFlags (r r' : RemapButton) : Prop :=
  ∀ cid, flagsOf (r'.buttons cid).action = flagsOf (r.buttons cid).action

theorem SameFlags.update {r : RemapButton} {i : UInt16} {b : Button}
    (h : flagsOf b.action = flagsOf (r.buttons i).action) :
    SameFlags r { r with buttons := Function.update r.buttons i b } := by
  intro cid
  dsimp only
  by_cases hcid : cid = i
  · subst hcid
    rw [Function.update_self, h]
  · rw [Function.update_of_ne hcid]

theorem SameFlags.trans {r r' r'' : RemapButton} (h : SameFlags r r') (h' : SameFlags r' r'') :
    SameFlags r r'' := fun cid => (h' cid).trans (h cid)

theorem sameFlags_perform (calls : List ButtonCall) (r : RemapButton) :
    SameFlags r (ButtonCall.perform entries calls r).1 := by
  induction calls generalizing r with
  | nil => exact fun _ => rfl
  | cons call calls ih =>
    rw [ButtonCall.perform]
    refine SameFlags.trans (.update ?_) (ih _)
    split
    · exact flagsOf_press _ _
    · exact flagsOf_release _ _

theorem sameFlags_buttonEvent (r : RemapButton) (held : List UInt16) :
    SameFlags r (r.buttonEvent controls entries held).1 := by
  rw [RemapButton.buttonEvent_eq_perform]
  exact sameFlags_perform _ r

theorem sameFlags_rawXYEvent (x y : Int) (r : RemapButton) :
    SameFlags r (RemapButton.rawXYEvent entries x y controls r).1 := by
  induction controls generalizing r with
  | nil => exact fun _ => rfl
  | cons control controls ih =>
    rw [RemapButton.rawXYEvent]
    refine SameFlags.trans (.update ?_) (ih _)
    split
    · exact flagsOf_move _ _ _ _
    · rfl

end

variable {device : Input.Device} {s : Input.State}

theorem sameFlags_withButtonAction {t : Input.State} (ht : t.remap = s.remap) {control : UInt16}
    {action : ActionObject} (h : flagsOf (some action) = flagsOf (s.remap.buttons control).action) :
    SameFlags s.remap (Input.withButtonAction t control action).remap := by
  rw [Input.withButtonAction, ht]
  exact .update h

theorem flagsOf_gestureAction {control : UInt16} {a : Actions.GestureAction}
    (h : Input.gestureAction s control = some a) (b : Actions.GestureAction) :
    flagsOf (some (.gesture b)) = flagsOf (s.remap.buttons control).action := by
  unfold Input.gestureAction at h
  split at h
  next hgesture =>
    rw [hgesture]
    rfl
  next => cases h

theorem sameFlags_setGesture (control : UInt16) (direction type : String) :
    SameFlags s.remap (Input.setGesture device s control direction type).remap := by
  unfold Input.setGesture
  split
  next => exact fun _ => rfl
  next a ha => exact sameFlags_withButtonAction rfl (flagsOf_gestureAction ha _)

theorem sameFlags_replaceAt (g : Actions.GestureObject) (entry : Config.Gesture)
    (place : Input.GesturePlace) : SameFlags s.remap (Input.replaceAt s g entry place).remap := by
  cases place with
  | button control d =>
    rw [Input.replaceAt]
    split
    next => exact fun _ => rfl
    next a ha => exact sameFlags_withButtonAction rfl (flagsOf_gestureAction ha _)
  | left => exact fun _ => rfl
  | right => exact fun _ => rfl

theorem sameFlags_setGestureAction (place : Input.GesturePlace) (type : String) :
    SameFlags s.remap (Input.setGestureAction device s place type).remap := by
  unfold Input.setGestureAction
  split
  · exact fun _ => rfl
  · exact sameFlags_replaceAt _ _ place

theorem sameFlags_setKeys (place : Input.KeysPlace) (keys : List String) :
    SameFlags s.remap (Input.setKeys device s place keys).remap := by
  cases place with
  | button control =>
    rw [Input.setKeys]
    split
    next a hbasic =>
      split
      next b events _ =>
        refine sameFlags_withButtonAction rfl ?_
        rw [hbasic]
        rfl
      next => exact fun _ => rfl
    next => exact fun _ => rfl
  | gesture place =>
    rw [Input.setKeys]
    split
    · exact fun _ => rfl
    · split
      · exact sameFlags_replaceAt _ _ place
      · exact fun _ => rfl
  | proxy =>
    rw [Input.setKeys]
    split <;> exact fun _ => rfl
  | tap =>
    rw [Input.setKeys]
    split <;> exact fun _ => rfl
  | touch =>
    rw [Input.setKeys]
    split <;> exact fun _ => rfl

theorem sameFlags_wheelMethod
    (f : Config.ThumbWheel → Features.ThumbWheel → Config.ThumbWheel × Features.ThumbWheel × Bool) :
    SameFlags s.remap (Input.wheelMethod device s f).remap := by
  unfold Input.wheelMethod
  split <;> exact fun _ => rfl

/-- The labels whose step makes no new actions for the buttons. -/
def KeepsActions : Input.Label → Prop
  | .setProfile _ | .clearProfile _ | .setAction .. => False
  | _ => True

/-- Only a switch of the profile and `SetAction` change what the buttons ask for. -/
theorem sameFlags_step {a : Input.Label} (h : KeepsActions a) :
    SameFlags s.remap (Input.step device s a).remap := by
  cases a with
  | buttons held => exact sameFlags_buttonEvent s.remap held
  | rawXY x y => exact sameFlags_rawXYEvent x.toInt y.toInt s.remap
  | wheel event =>
    rw [Input.step, Input.wheelEvent]
    split <;> exact fun _ => rfl
  | setProfile name => exact h.elim
  | clearProfile name => exact h.elim
  | setAction control type => exact h.elim
  | setGesture control direction type => exact sameFlags_setGesture control direction type
  | setGestureAction place type => exact sameFlags_setGestureAction place type
  | setKeys place keys => exact sameFlags_setKeys place keys
  | setProxy type => exact sameFlags_wheelMethod _
  | setTap type => exact sameFlags_wheelMethod _
  | setTouch type => exact sameFlags_wheelMethod _
  | setLeft type => exact sameFlags_wheelMethod _
  | setRight type => exact sameFlags_wheelMethod _

/-! ## Profiles -/

theorem flagsOf_make (codes : EventCodes) (entry : Option Config.Action) :
    flagsOf (entry.map (ActionObject.make codes)) = entryFlags entry := by
  cases entry with
  | none => rfl
  | some entry => cases entry <;> rfl

theorem flagsOf_withoutUnmade (s : Input.State) (unmade : UInt16 → Bool) (cid : UInt16) :
    flagsOf ((withoutUnmade s unmade).remap.buttons cid).action =
      if notMade unmade cid (s.entries cid) then 0 else flagsOf (s.remap.buttons cid).action := by
  rw [withoutUnmade]
  dsimp only
  split <;> rfl

/-- After a switch a button asks for what its entry says, if the action of it is made. -/
theorem flagsOf_switch {device : Device} (s : Input.State) (unmade : UInt16 → Bool)
    {control : Features.ControlInfo} (h : control ∈ device.controls) :
    flagsOf ((withoutUnmade (Input.switch device.toDevice s) unmade).remap.buttons
        control.controlID).action =
      profileFlags device s.profile unmade control.controlID := by
  have hknown : control.controlID ∈ device.controls.map Features.ControlInfo.controlID :=
    List.mem_map_of_mem h
  have hentries : (Input.switch device.toDevice s).entries =
      Input.profileEntries (device.features.setProfile s.profile) := by
    rw [← Input.State.withProfile_profile s device.features.setProfile]
    rfl
  have hmade : flagsOf ((Input.switch device.toDevice s).remap.buttons control.controlID).action =
      entryFlags ((Input.switch device.toDevice s).entries control.controlID) := by
    rw [← flagsOf_make device.codes, Input.switch]
    dsimp only
    rw [RemapButton.setProfile]
    dsimp only
    rw [if_pos hknown]
    rfl
  rw [flagsOf_withoutUnmade, hmade, hentries, profileFlags]

/-- `setProfile` finds the profile of that name, or inserts an empty one. -/
theorem find?_emplace_getD (profiles : SortedMap String Profile stringLess) (name : String) :
    ((profiles.emplace name {}).find? name).getD {} = (profiles.find? name).getD {} := by
  cases hfind : profiles.find? name with
  | none => rw [SortedMap.find?_emplace_self Profiles.stringLess_linear hfind, Option.getD_some,
      Option.getD_none]
  | some profile => rw [SortedMap.find?_emplace_of_some Profiles.stringLess_linear hfind]

/-! ## Steps -/

section
variable {device : Device} {s : State} {outcome : Outcome}

theorem Device.nodup (device : Device) :
    (device.controls.map Features.ControlInfo.controlID).Nodup := by
  rw [List.Nodup, List.pairwise_map]
  exact device.ordered.imp UInt16.ne_of_lt

theorem reconfigures_congr {flags flags' : UInt16 → UInt8}
    (h : ∀ control ∈ device.controls, flags control.controlID = flags' control.controlID) :
    Reconfigures device s outcome flags ↔ Reconfigures device s outcome flags' := by
  refine forall₃_congr fun k control hk => ?_
  rw [h control (List.mem_of_getElem? hk)]

/-- `reconfigure` brings the device to divert what it should exactly if each control gets its request
or needs none. -/
theorem diverts_reconfigure_iff (hversion : device.version = .v4) :
    Diverts device (reconfigure device s outcome) ↔
      Reconfigures device s outcome fun cid => flagsOf (s.input.remap.buttons cid).action := by
  rw [Diverts, reconfigure]
  cases hreached : outcome.reached with
  | true =>
    simp only [if_true, hversion, Reconfigures, hreached, true_and]
    exact agrees_configureButtons_iff device.nodup
  | false =>
    simp only [Bool.false_eq_true, if_false, Reconfigures, hreached, false_and, false_or]
    constructor
    · intro h k control hk
      exact h control (List.mem_of_getElem? hk)
    · intro h control hmem
      obtain ⟨k, hk⟩ := List.mem_iff_getElem?.mp hmem
      exact h k control hk

/-- A control that is diverted as one action asks is so for another exactly if that asks for the
same. -/
theorem Agrees.iff {reporting : ReportingTable} {control : Features.ControlInfo} {flags : UInt8}
    (h : Agrees reporting control flags) (flags' : UInt8) :
    Agrees reporting control flags' ↔ flags' = flags :=
  ⟨fun h' => h'.1.symm.trans h.1, fun heq => heq ▸ h⟩

/-- An action is put in the place of another, and its button is configured. -/
theorem diverts_configureButton_iff (hversion : device.version = .v4) (hs : Diverts device s)
    {control : Features.ControlInfo} (hmem : control ∈ device.controls) {input : Input.State}
    (hother : ∀ cid ≠ control.controlID, input.remap.buttons cid = s.input.remap.buttons cid) :
    Diverts device (configureButton device { s with input := input } control outcome) ↔
      stores outcome.replies 0 = true ∨
        flagsOf (input.remap.buttons control.controlID).action =
          flagsOf (s.input.remap.buttons control.controlID).action := by
  have hone := @agrees_configureButtons_iff input.remap.buttons s.reporting [control]
    outcome.replies (List.nodup_singleton _)
  rw [List.forall_mem_singleton, forall_getElem?_cons, (hs control hmem).iff] at hone
  simp only [List.getElem?_nil, reduceCtorEq, false_implies, implies_true, and_true] at hone
  rw [← hone, Diverts, configureButton, hversion]
  dsimp only
  constructor
  · exact fun h => h control hmem
  · intro h other hmem'
    by_cases hcid : other.controlID = control.controlID
    · obtain rfl : other = control := List.inj_on_of_nodup_map device.nodup hmem' hmem hcid
      exact h
    · have hnot : other.controlID ∉ [control].map Features.ControlInfo.controlID := by
        simpa using hcid
      rw [agrees_congr (configureButtons_of_not_mem hnot), hother _ hcid]
      exact hs other hmem'

/-- The same without a request. -/
theorem diverts_replace_iff (hs : Diverts device s) {control : Features.ControlInfo}
    (hmem : control ∈ device.controls) {input : Input.State}
    (hother : ∀ cid ≠ control.controlID, input.remap.buttons cid = s.input.remap.buttons cid) :
    Diverts device { s with input := input } ↔
      flagsOf (input.remap.buttons control.controlID).action =
        flagsOf (s.input.remap.buttons control.controlID).action := by
  rw [← (hs control hmem).iff]
  constructor
  · exact fun h => h control hmem
  · intro h other hmem'
    by_cases hcid : other.controlID = control.controlID
    · obtain rfl : other = control := List.inj_on_of_nodup_map device.nodup hmem' hmem hcid
      exact h
    · dsimp only
      rw [hother _ hcid]
      exact hs other hmem'

/-- `SetAction` on a known control, with the button that it leaves. -/
theorem step_setAction {cid : UInt16} {type : String} {control : Features.ControlInfo}
    (hcontrol : (device.controls.find? fun c => c.controlID = cid) = some control)
    (haccepts : control.accepts type = true) :
    (Input.step device.toDevice s.input (.setAction cid type)).remap.buttons =
      Function.update s.input.remap.buttons cid
        ((s.input.remap.buttons cid).setAction device.codes type) := by
  rw [Input.step, Input.setAction, hcontrol]
  dsimp only
  rw [if_pos haccepts]
  cases Actions.Action.ofName type <;> rfl

theorem diverts_setAction_iff (hversion : device.version = .v4) (hs : Diverts device s)
    (cid : UInt16) (type : String) :
    Diverts device (setAction device s cid type outcome) ↔
      Delivers device s (.input (.setAction cid type) outcome) := by
  rw [Delivers, setAction]
  cases hcontrol : device.controls.find? fun c => c.controlID = cid with
  | none =>
    have hsame : Input.step device.toDevice s.input (.setAction cid type) = s.input := by
      rw [Input.step, Input.setAction, hcontrol]
    dsimp only
    rw [hsame]
    exact ⟨fun _ control h => (by cases h), fun _ => hs⟩
  | some control =>
    have hmem : control ∈ device.controls := List.mem_of_find?_eq_some hcontrol
    obtain rfl : control.controlID = cid := by simpa using List.find?_some hcontrol
    simp only [Option.some.injEq, forall_eq']
    cases haccepts : control.accepts type with
    | false =>
      have hsame : Input.step device.toDevice s.input (.setAction control.controlID type) =
          s.input := by
        rw [Input.step, Input.setAction, hcontrol]
        dsimp only
        rw [haccepts]
        rfl
      rw [hsame]
      exact ⟨fun _ h => (by cases h), fun _ => hs⟩
    | true =>
      have hbuttons := step_setAction (s := s) hcontrol haccepts
      have hother : ∀ cid ≠ control.controlID,
          (Input.step device.toDevice s.input (.setAction control.controlID type)).remap.buttons cid =
            s.input.remap.buttons cid := by
        intro cid hcid
        rw [hbuttons, Function.update_of_ne hcid]
      have hself := congrFun hbuttons control.controlID
      rw [Function.update_self] at hself
      simp only [if_true, true_implies, SetActionDelivers]
      cases hname : Actions.Action.ofName type with
      | none =>
        have hnone : flagsOf ((s.input.remap.buttons control.controlID).setAction device.codes
            type).action = 0 := by
          rw [Button.setAction, hname]
          rfl
        dsimp only
        rw [diverts_replace_iff hs hmem hother, hself, hnone, eq_comm, flagsOf_eq_zero_iff]
      | some entry =>
        dsimp only
        cases hmade : notMade outcome.unmade control.controlID entry with
        | true =>
          have hother' : ∀ cid ≠ control.controlID,
              (withoutAction (Input.step device.toDevice s.input (.setAction control.controlID type))
                control.controlID).remap.buttons cid = s.input.remap.buttons cid := by
            intro cid hcid
            rw [withoutAction]
            dsimp only
            rw [Function.update_of_ne hcid, hother cid hcid]
          rw [if_pos rfl, if_pos rfl, diverts_replace_iff hs hmem hother', withoutAction]
          dsimp only
          rw [Function.update_self, eq_comm]
          exact flagsOf_eq_zero_iff
        | false =>
          rw [if_neg Bool.false_ne_true, if_neg Bool.false_ne_true,
            diverts_configureButton_iff hversion hs hmem hother, hself, Button.setAction, hname]
          dsimp only
          rw [Option.bind_some, id, flagsOf_make]

/-- The buttons switch to a profile, unless a feature before them throws. -/
theorem diverts_switchTo_iff (hversion : device.version = .v4) (hs : Diverts device s)
    {profiles : SortedMap String Profile stringLess} {name : String} {profile : Profile}
    (hprofile : (profiles.find? name).getD {} = profile) :
    Diverts device (switchTo device s profiles name outcome) ↔
      (outcome.switched = true →
        Reconfigures device s outcome (profileFlags device profile outcome.unmade)) := by
  rw [switchTo]
  cases outcome.switched with
  | false =>
    rw [if_neg Bool.false_ne_true]
    exact ⟨fun _ h => absurd h Bool.false_ne_true, fun _ => hs⟩
  | true =>
    rw [if_pos rfl, diverts_reconfigure_iff hversion, forall_prop_of_true rfl, ← hprofile]
    apply reconfigures_congr
    intro control hmem
    exact flagsOf_switch _ _ hmem

theorem sameFlags_withoutGesture (t : Input.State) (cid : UInt16) (direction : String) :
    SameFlags t.remap (withoutGesture t cid direction).remap := by
  unfold withoutGesture
  split
  next a d ha _ =>
    dsimp only
    split
    · exact sameFlags_withButtonAction rfl (flagsOf_gestureAction ha _)
    · exact fun _ => rfl
  next => exact fun _ => rfl

/-- The action of a button is a gesture with fewer directions, too. -/
theorem sameFlags_setGestureOrNone (cid : UInt16) (direction type : String) :
    SameFlags s.input.remap (setGesture device s cid direction type outcome).input.remap := by
  have hstep : SameFlags s.input.remap
      (Input.step device.toDevice s.input (.setGesture cid direction type)).remap :=
    sameFlags_step (a := .setGesture cid direction type) trivial
  rw [setGesture]
  dsimp only
  split
  · exact hstep.trans (sameFlags_withoutGesture _ cid direction)
  · exact hstep

/-- Without its action a gesture is still the gesture of the same action. -/
theorem sameFlags_withoutGestureAction (place : Input.GesturePlace) (type : String) :
    SameFlags s.input.remap (setGestureAction device s place type outcome).input.remap := by
  have hstep : SameFlags s.input.remap
      (Input.step device.toDevice s.input (.setGestureAction place type)).remap :=
    sameFlags_step (a := .setGestureAction place type) trivial
  rw [setGestureAction]
  split
  · split
    · exact hstep.trans (sameFlags_replaceAt _ _ place)
    · exact hstep
  · exact hstep

theorem Diverts.of_sameFlags (hs : Diverts device s) {t : State}
    (hreporting : t.reporting = s.reporting) (h : SameFlags s.input.remap t.input.remap) :
    Diverts device t := by
  intro control hmem
  rw [hreporting, h control.controlID]
  exact hs control hmem

/-- A step keeps the device diverting what it should exactly if it delivers what it has to. -/
theorem diverts_step_iff (hversion : device.version = .v4) (hs : Diverts device s) (a : Label) :
    Diverts device (step device s a) ↔ Delivers device s a := by
  have hkeeps : ∀ label, KeepsActions label →
      Diverts device { s with input := Input.step device.toDevice s.input label } :=
    fun label hlabel => hs.of_sameFlags rfl (sameFlags_step hlabel)
  cases a with
  | wakeup outcome => exact diverts_reconfigure_iff hversion
  | input label outcome =>
    cases label with
    | setProfile name =>
      exact diverts_switchTo_iff hversion hs (find?_emplace_getD s.input.profiles name)
    | clearProfile name =>
      rw [step, clearProfile, Delivers]
      by_cases hactive : name = s.profileName
      · rw [if_pos hactive, forall_prop_of_true hactive]
        refine diverts_switchTo_iff hversion hs ?_
        rw [SortedMap.find?_assign_self Profiles.stringLess_linear, Option.getD_some]
      · rw [if_neg hactive]
        exact ⟨fun _ h => absurd h hactive, fun _ => hs⟩
    | setAction cid type => exact diverts_setAction_iff hversion hs cid type
    | setGesture cid direction type =>
      exact ⟨fun _ => trivial,
        fun _ => hs.of_sameFlags rfl (sameFlags_setGestureOrNone cid direction type)⟩
    | setGestureAction place type =>
      refine ⟨fun _ => trivial, fun _ => ?_⟩
      refine hs.of_sameFlags ?_ (sameFlags_withoutGestureAction place type)
      rw [step, setGestureAction]
      split
      · split <;> rfl
      · rfl
    | _ => exact ⟨fun _ => trivial, fun _ => hkeeps _ trivial⟩

theorem diverts_initial (hversion : device.version = .v4)
    (profiles : SortedMap String Profile stringLess) (active : String) (start : ReportingTable)
    (unmade : UInt16 → Bool) : Diverts device (initial device profiles active start unmade) := by
  rw [initial, diverts_reconfigure_iff hversion]
  intro k control _
  exact .inl ⟨rfl, rfl⟩

/-- A device of version 4 diverts in every state of a run what the actions of its buttons ask for, and
nothing else, exactly if each step delivers what it has to: at a switch of the profile and at a
wake-up each control gets its request or what the device has agrees with the action already, and a
`SetAction` that changes what a control asks for gets its request through. -/
theorem always_diverts_iff (hversion : device.version = .v4)
    (profiles : SortedMap String Profile stringLess) (active : String) (start : ReportingTable)
    (unmade : UInt16 → Bool) (as : List Label) :
    (machine device profiles active start unmade).Always (Diverts device)
        (machine device profiles active start unmade).init as ↔
      (machine device profiles active start unmade).Meets (Delivers device)
        (machine device profiles active start unmade).init as := by
  refine Machine.always_iff_meets (J := fun _ => True) (fun _ _ _ _ _ _ _ => trivial) ?_ trivial
    (diverts_initial hversion profiles active start unmade)
  intro s a t _ hs hstep
  obtain rfl : step device s a = t :=
    Option.some_inj.mp (Option.ite_none_left_eq_some.mp hstep).2
  exact diverts_step_iff hversion hs a

end

/-- The mouse with one button, driven by version 4. -/
def mouse : Device where
  toDevice := Input.oneButton
  version := .v4
  ordered := List.pairwise_singleton _ _

/-- The mouse comes back from sleep diverting nothing and refuses the request for the button, so the
key on it is dead. -/
theorem always_diverts_iff_refused :
    ¬ (machine mouse Input.ctrlProfiles "default" (fun _ => {}) fun _ => false).Always (Diverts mouse)
      (machine mouse Input.ctrlProfiles "default" (fun _ => {}) fun _ => false).init
      [.wakeup { start := some fun _ => {}, replies := [.refused] }] := by
  rw [always_diverts_iff rfl]
  intro hmeets
  obtain ⟨hdelivers, -⟩ := hmeets _ rfl
  rcases hdelivers 0 { controlID := 0x52, temporaryDivertable := true, rawXY := false } rfl with
    hstored | hagrees
  · exact absurd hstored.2 (by decide)
  · exact absurd hagrees.2 (by decide)

end Logid.Diversion
