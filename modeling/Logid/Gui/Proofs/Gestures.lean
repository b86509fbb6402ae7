import Logid.Actions.Proofs.Entries
import Logid.Gui.GestureModel

/-!
# Which edits the gesture model shows as the daemon has them

`SetGesture` makes a new entry for the direction, and the model keeps the granularity and, between
the discrete modes, the action of the old one. So a new mode agrees exactly if there was nothing to
keep. The other edits change one member on both sides.
-/

namespace Logid.Gui.GestureModel

open Actions (Direction)

/-! ## The entries of the daemon -/

theorem isCardinal_name {direction : String} (h : isCardinal direction = true) :
    ∃ d : Direction, d ≠ .none ∧ direction = d.name := by
  simp only [isCardinal, Bool.or_eq_true, beq_iff_eq] at h
  rcases h with ((rfl | rfl) | rfl) | rfl
  · exact ⟨.up, by simp, rfl⟩
  · exact ⟨.down, by simp, rfl⟩
  · exact ⟨.left, by simp, rfl⟩
  · exact ⟨.right, by simp, rfl⟩

theorem nodeDirection_name (d : Direction) : nodeDirection d.name = some d := by
  simp [nodeDirection, Direction.ofName_name]

/-- A call on the node of a direction changes its entry as the method says. -/
theorem run_param {config config' : Config.GestureAction} {d : Direction} {type : String}
    {method : Param} (h : Call.run config (.param d.name type method) = some config') :
    ∃ g g', Actions.GestureAction.entry config d = some g ∧ method.run g = some g' ∧
      ∀ e, Actions.GestureAction.entry config' e =
        if d = e then some g' else Actions.GestureAction.entry config e := by
  simp only [Call.run, nodeDirection_name, Option.bind_eq_bind, Option.bind_some,
    Option.bind_eq_some_iff] at h
  obtain ⟨g, hg, h⟩ := h
  split at h
  · cases h
  · simp only [Option.bind_eq_some_iff, Option.pure_def, Option.some_inj] at h
    obtain ⟨g', hg', rfl⟩ := h
    exact ⟨g, g', hg, hg', Actions.GestureAction.entry_modifyEntry hg⟩

/-! ## Agreement after an edit -/

/-- An edit of one direction is right if its entry is shown. -/
theorem agrees_setState {m : GestureModel} {config config' : Config.GestureAction} {d : Direction}
    {st : DirectionState} {g : Config.Gesture} (h : Agrees m config) (hd : d ≠ .none)
    (hentry : ∀ e, Actions.GestureAction.entry config' e =
      if d = e then some g else Actions.GestureAction.entry config e) :
    Agrees (m.setState d.name st) config' ↔ Shows st g := by
  constructor
  · intro hagrees
    have hshows := hagrees d hd
    rw [hentry d, if_pos rfl] at hshows
    simpa [setState] using hshows
  · intro hshows e he
    rw [hentry e]
    by_cases heq : d = e
    · subst heq
      simpa [setState] using hshows
    · have hname : e.name ≠ d.name := fun hname => heq (Direction.name_injective hname).symm
      rw [if_neg heq]
      simpa [setState, Function.update_of_ne hname] using h e he

theorem shows_of_agrees {m : GestureModel} {config : Config.GestureAction} {d : Direction}
    {g : Config.Gesture} (h : Agrees m config) (hd : d ≠ .none)
    (hg : Actions.GestureAction.entry config d = some g) : Shows (m.dirs d.name) g := by
  have hshows := h d hd
  rwa [hg] at hshows

theorem plainModeForType_mapMode {plainMode type : String} (h : mapMode plainMode = some type) :
    plainModeForType type = plainMode := by
  unfold mapMode at h
  split at h <;> cases h <;> rfl

/-- The modes that clear the action. -/
theorem mapMode_clears {plainMode type : String} (h : mapMode plainMode = some type) :
    (type = "None" ∨ type = "Axis") ↔
      (plainMode = "Nothing" ∨ plainMode = "Adjust proportionally") := by
  unfold mapMode at h
  split at h <;> cases h <;> decide

/-- A new entry has neither granularity nor action. -/
theorem ofType_spec {type : String} {g : Config.Gesture}
    (h : Actions.Gesture.ofType type = some g) :
    Actions.Gesture.interfaceName g = type ∧ entryActionType g = "" ∧ entryGranularity g = 0 := by
  unfold Actions.Gesture.ofType at h
  split at h <;> cases h <;> exact ⟨rfl, rfl, rfl⟩

theorem toInt_eq_zero_iff (n : Int32) : (n.toInt : Rat) = 0 ↔ n = 0 := by
  rw [Rat.intCast_eq_zero_iff, ← Int32.toInt_zero, Int32.toInt_inj]

theorem deliverAll_singleton (config : Config.GestureAction) (call : Call) :
    deliverAll config [call] = call.run config := by
  simp [deliverAll]

theorem agrees_setMode {m m' : GestureModel} {config config' : Config.GestureAction}
    {direction plainMode : String} {calls : List Call} (h : Agrees m config)
    (hedit : m.setMode direction plainMode = some (m', calls))
    (hcalls : deliverAll config calls = some config') :
    Agrees m' config' ↔ DropsNothing m (.mode direction plainMode) := by
  unfold setMode at hedit
  split at hedit
  next hcardinal =>
    obtain ⟨d, hd, rfl⟩ := isCardinal_name hcardinal
    obtain ⟨type, htype, heq⟩ := Option.map_eq_some_iff.mp hedit
    cases heq
    rw [deliverAll_singleton, Call.run] at hcalls
    split at hcalls
    next config'' hset =>
      cases hcalls
      obtain ⟨g, hg, hentry⟩ := Actions.GestureAction.entry_setGesture hd hset
      obtain ⟨hmode, haction, hgranularity⟩ := ofType_spec hg
      rw [agrees_setState h hd hentry, DropsNothing, ← mapMode_clears htype,
        ← toInt_eq_zero_iff]
      constructor
      · intro hshows
        split at hshows
        next hclears => exact ⟨hshows.granularity.trans hgranularity, .inr hclears⟩
        next =>
          exact ⟨hshows.granularity.trans hgranularity, .inl (hshows.actionType.trans haction)⟩
      · intro hdrops
        obtain ⟨hzero, hkept⟩ := hdrops
        split
        next =>
          exact ⟨hmode.symm, (plainModeForType_mapMode htype).symm, haction.symm,
            hzero.trans hgranularity.symm⟩
        next hclears =>
          rcases hkept with hempty | hclear
          · exact ⟨hmode.symm, (plainModeForType_mapMode htype).symm, hempty.trans haction.symm,
              hzero.trans hgranularity.symm⟩
          · exact absurd hclear hclears
    next => cases hcalls
  next => cases hedit

/-- The setter for the granularity changes what is shown of it and nothing else. -/
theorem run_granularityMethod {mode : String} {rawValue : Int32} {method : Param}
    {g g' : Config.Gesture} (hmethod : granularityMethod mode rawValue = some method)
    (hmode : mode = Actions.Gesture.interfaceName g) (hrun : method.run g = some g') :
    Actions.Gesture.interfaceName g' = Actions.Gesture.interfaceName g ∧
      entryActionType g' = entryActionType g ∧
      entryGranularity g' = rawValue.toInt := by
  have hreset : ((Actions.Gesture.resetZero rawValue).getD 0).toInt = rawValue.toInt := by
    unfold Actions.Gesture.resetZero
    split
    next hzero =>
      subst hzero
      rfl
    next => rfl
  subst hmode
  cases g with
  | none g =>
    cases hmethod
  | axis g =>
    cases hmethod
    cases hrun
    exact ⟨rfl, rfl, rfl⟩
  | interval g =>
    cases hmethod
    cases hrun
    exact ⟨rfl, rfl, by simp only [entryGranularity, hreset]⟩
  | fewPixels g =>
    cases hmethod
    cases hrun
    exact ⟨rfl, rfl, by simp only [entryGranularity, hreset]⟩
  | release g =>
    cases hmethod
    cases hrun
    exact ⟨rfl, rfl, by simp only [entryGranularity, Actions.Gesture.withThreshold, hreset]⟩
  | threshold g =>
    cases hmethod
    cases hrun
    exact ⟨rfl, rfl, by simp only [entryGranularity, Actions.Gesture.withThreshold, hreset]⟩

theorem agrees_setGranularity {m m' : GestureModel} {config config' : Config.GestureAction}
    {direction : String} {rawValue : Int32} {calls : List Call} (h : Agrees m config)
    (hedit : m.setGranularity direction rawValue = some (m', calls))
    (hcalls : deliverAll config calls = some config') : Agrees m' config' := by
  unfold setGranularity at hedit
  split at hedit
  next hvalid =>
    obtain ⟨d, hd, rfl⟩ := isCardinal_name hvalid.1
    obtain ⟨method, hmethod, heq⟩ := Option.map_eq_some_iff.mp hedit
    cases heq
    rw [deliverAll_singleton] at hcalls
    obtain ⟨g, g', hg, hrun, hentry⟩ := run_param hcalls
    have hshows := shows_of_agrees h hd hg
    obtain ⟨hmode, haction, hgranularity⟩ := run_granularityMethod hmethod hshows.mode hrun
    rw [agrees_setState h hd hentry]
    exact ⟨hshows.mode.trans hmode.symm, hshows.plainMode, hshows.actionType.trans haction.symm,
      hgranularity.symm⟩
  next => cases hedit

theorem withAction_spec {value : Option Config.BasicAction} {g g' : Config.Gesture}
    (h : Actions.Gesture.withAction value g = some g') :
    Actions.Gesture.interfaceName g' = Actions.Gesture.interfaceName g ∧
      Actions.Gesture.action g' = value ∧ entryGranularity g' = entryGranularity g := by
  cases g with
  | none g => cases h
  | axis g => cases h
  | interval g =>
    cases h
    exact ⟨rfl, rfl, rfl⟩
  | fewPixels g =>
    cases h
    exact ⟨rfl, rfl, rfl⟩
  | release g =>
    cases h
    exact ⟨rfl, rfl, rfl⟩
  | threshold g =>
    cases h
    exact ⟨rfl, rfl, rfl⟩

theorem run_setAction {type : String} {g g' : Config.Gesture}
    (h : Param.run g (.setAction type) = some g') :
    ∃ value, Actions.BasicAction.ofName type = some value ∧
      Actions.Gesture.withAction value g = some g' :=
  Option.bind_eq_some_iff.mp (show Actions.Gesture.setAction type g = some g' from h)

theorem agrees_setGestureAction {m m' : GestureModel} {config config' : Config.GestureAction}
    {direction actionType : String} {calls : List Call} (h : Agrees m config)
    (hedit : m.setGestureAction direction actionType = some (m', calls))
    (hcalls : deliverAll config calls = some config') :
    Agrees m' config' ↔ DropsNothing m (.action direction actionType) := by
  simp only [setGestureAction] at hedit
  split at hedit
  next hvalid =>
    obtain ⟨d, hd, rfl⟩ := isCardinal_name hvalid.1
    cases hedit
    rw [deliverAll_singleton] at hcalls
    obtain ⟨g, g', hg, hrun, hentry⟩ := run_param hcalls
    have hshows := shows_of_agrees h hd hg
    obtain ⟨value, hvalue, hwith⟩ := run_setAction hrun
    obtain ⟨hmode, haction, hgranularity⟩ := withAction_spec hwith
    have hkept : Shows { m.dirs d.name with actionType := actionType } g' ↔
        actionType = entryActionType g' :=
      ⟨fun hshows => hshows.actionType, fun htype => ⟨hshows.mode.trans hmode.symm,
        hshows.plainMode, htype, hshows.granularity.trans hgranularity.symm⟩⟩
    rw [agrees_setState h hd hentry, hkept, DropsNothing, entryActionType, haction]
    cases value with
    | none =>
      -- the entry has no action, and the model shows the type that is not empty
      have hdefault := Actions.BasicAction.ofName_eq_some_none.mp hvalue
      subst hdefault
      decide
    | some action =>
      have hname := Actions.BasicAction.interfaceName_ofName hvalue
      refine iff_of_true hname.symm ?_
      intro hdefault
      rw [Actions.BasicAction.ofName_eq_some_none.mpr hdefault] at hvalue
      cases hvalue
  next => cases hedit

theorem agrees_setGestureKeypress {m m' : GestureModel} {config config' : Config.GestureAction}
    {direction : String} {evdevNames : List String} {calls : List Call} (h : Agrees m config)
    (hedit : m.setGestureKeypress direction evdevNames = some (m', calls))
    (hcalls : deliverAll config calls = some config') : Agrees m' config' := by
  simp only [setGestureKeypress] at hedit
  split at hedit
  next hvalid =>
    obtain ⟨d, hd, rfl⟩ := isCardinal_name hvalid.1
    cases hedit
    simp only [deliverAll, List.foldlM_cons, List.foldlM_nil, Option.bind_eq_bind,
      Option.bind_eq_some_iff, Option.pure_def, Option.some_inj] at hcalls
    obtain ⟨config₁, haction, config₂, hkeys, rfl⟩ := hcalls
    obtain ⟨g, g₁, hg, hrun, hentry⟩ := run_param haction
    obtain ⟨g₁', g₂, hg₁, hrun₁, hentry₁⟩ := run_param hkeys
    rw [hentry d, if_pos rfl, Option.some_inj] at hg₁
    subst hg₁
    have hboth : ∀ e, Actions.GestureAction.entry config₂ e =
        if d = e then some g₂ else Actions.GestureAction.entry config e := by
      intro e
      rw [hentry₁ e]
      split
      next => rfl
      next hne => rw [hentry e, if_neg hne]
    have hshows := shows_of_agrees h hd hg
    obtain ⟨value, -, hwith⟩ := run_setAction hrun
    obtain ⟨hmode, -, hgranularity⟩ := withAction_spec hwith
    simp only [Param.run, Actions.Gesture.setKeys] at hrun₁
    split at hrun₁
    next =>
      obtain ⟨hmode₁, haction₁, hgranularity₁⟩ := withAction_spec hrun₁
      rw [agrees_setState h hd hboth]
      refine ⟨?_, hshows.plainMode, ?_, ?_⟩
      · exact hshows.mode.trans (hmode₁.trans hmode).symm
      · simp only [entryActionType, haction₁]
        rfl
      · exact hshows.granularity.trans (hgranularity₁.trans hgranularity).symm
    next => cases hrun₁
  next => cases hedit

/-- With its calls delivered, an edit keeps the agreement exactly if it drops nothing. -/
theorem agrees_edit {m m' : GestureModel} {config config' : Config.GestureAction} {e : Edit}
    {calls : List Call} (h : Agrees m config) (hedit : m.edit e = some (m', calls))
    (hcalls : deliverAll config calls = some config') : Agrees m' config' ↔ DropsNothing m e := by
  cases e with
  | mode direction plainMode => exact agrees_setMode h hedit hcalls
  | granularity direction rawValue =>
    exact iff_of_true (agrees_setGranularity h hedit hcalls) trivial
  | action direction actionType => exact agrees_setGestureAction h hedit hcalls
  | keypress direction evdevNames =>
    exact iff_of_true (agrees_setGestureKeypress h hedit hcalls) trivial

/-! ## Runs -/

theorem deliverAll_append (config : Config.GestureAction) (before after : List Call) :
    deliverAll config (before ++ after) =
      (deliverAll config before).bind fun config => deliverAll config after :=
  List.foldlM_append

/-- The calls on their way all succeed. -/
def Succeeds (s : State) : Prop := (deliverAll s.daemon s.calls).isSome = true

theorem inSync_step {s t : State} {a : Label} (hcalls : Succeeds s) (hsync : InSync s)
    (h : step s a = some t) : (InSync t ↔ EditsDropNothing s a) ∧ Succeeds t := by
  cases a with
  | edit e =>
    simp only [step, Option.bind_eq_bind, Option.bind_eq_some_iff] at h
    obtain ⟨⟨m', calls⟩, hedit, h⟩ := h
    split at h
    next hsome =>
      cases h
      refine ⟨?_, hsome⟩
      obtain ⟨config', hconfig'⟩ := Option.isSome_iff_exists.mp hsome
      have hall := hconfig'
      rw [deliverAll_append] at hall
      obtain ⟨config, hconfig, hlast⟩ := Option.bind_eq_some_iff.mp hall
      have hedited := agrees_edit (hsync config hconfig) hedit hlast
      constructor
      · intro hsync'
        exact hedited.mp (hsync' config' hconfig')
      · intro hdrops config'' hconfig''
        rw [hconfig', Option.some_inj] at hconfig''
        subst hconfig''
        exact hedited.mpr hdrops
    next => cases h
  | deliver =>
    simp only [step] at h
    split at h
    next call calls hqueue =>
      obtain ⟨daemon, hdaemon, rfl⟩ := Option.map_eq_some_iff.mp h
      have hsame : deliverAll s.daemon s.calls = deliverAll daemon calls := by
        rw [hqueue, deliverAll, List.foldlM_cons, hdaemon]
        rfl
      refine ⟨iff_of_true ?_ trivial, ?_⟩
      · intro config hconfig
        exact hsync config (hsame.trans hconfig)
      · rw [Succeeds, hsame] at hcalls
        exact hcalls
    next => cases h

/-- From a model in sync, whatever the edits and whenever their calls are delivered, the model agrees
with the daemon exactly as long as no edit drops something that the model goes on showing. -/
theorem inSync_iff (start : Start) (as : List Label) :
    (machine start).Always InSync (machine start).init as ↔
      (machine start).Meets EditsDropNothing (machine start).init as := by
  have hkeep : ∀ s a t, Succeeds s → InSync s → (machine start).step s a = some t → InSync t →
      Succeeds t :=
    fun s a t hcalls hsync hstep _ => (inSync_step hcalls hsync hstep).2
  have hiff : ∀ s a t, Succeeds s → InSync s → (machine start).step s a = some t →
      (InSync t ↔ EditsDropNothing s a) :=
    fun s a t hcalls hsync hstep => (inSync_step hcalls hsync hstep).1
  refine Machine.always_iff_meets hkeep hiff rfl ?_
  intro config hconfig
  cases hconfig
  exact start.agrees

/-- A button whose gestures are not configured yet. -/
def unconfigured : Start where
  model := { dirs := fun _ => {} }
  daemon := {}
  agrees := fun _ _ => rfl

/-- A direction gets a granularity and then another mode. -/
def modeAfterGranularity : List Label := [
  .edit (.mode "up" "Repeat while moving"), .edit (.granularity "up" 50),
  .edit (.mode "up" "Do once when moved far enough")]

theorem modeAfterGranularity_disagrees :
    ¬ (machine unconfigured).Always InSync (machine unconfigured).init modeAfterGranularity := by
  intro h
  have hend : ((machine unconfigured).run (machine unconfigured).init modeAfterGranularity).map
      (fun s => ((s.model.dirs "up").granularity,
        (deliverAll s.daemon s.calls).bind fun config =>
          Actions.GestureAction.entry config .up)) = some (50, some (.release {})) := by decide
  obtain ⟨s, hrun, heq⟩ := Option.map_eq_some_iff.mp hend
  rw [Prod.mk.injEq] at heq
  obtain ⟨hgranularity, hentry⟩ := heq
  obtain ⟨config, hconfig, hentry⟩ := Option.bind_eq_some_iff.mp hentry
  rw [← List.append_nil modeAfterGranularity] at h
  have hshows := shows_of_agrees (h.of_run hrun config hconfig) (by decide) hentry
  have hzero := hshows.granularity
  rw [show (Direction.up).name = "up" from rfl, hgranularity] at hzero
  exact absurd hzero (by decide)

end Logid.Gui.GestureModel
