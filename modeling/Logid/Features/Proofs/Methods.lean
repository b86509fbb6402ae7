import Logid.Actions.Proofs.Entries
import Logid.Features.Methods

/-!
# What a rejected type leaves

A method that sets an action or a gesture drops what is there, makes the entry and looks at the type
in its own order, so what a type that it rejects leaves differs. For each method it is said what it
must find to leave everything as it was.
-/

namespace Logid.Features

open Actions (ActionObject Direction EventCodes GestureObject)

/-! ## Actions -/

theorem Button.setAction_of_unknown {codes : EventCodes} {type : String} (b : Button)
    (h : Actions.Action.ofName type = none) : b.setAction codes type = { b with action := none } := by
  simp [Button.setAction, h]

/-- A type that is no action for a button is not "Gesture". -/
theorem ne_gesture_of_unknown {type : String} (h : Actions.Action.ofName type = none) :
    type ≠ "Gesture" := by
  intro heq
  subst heq
  revert h
  decide

theorem Button.failsCleanly_iff {codes : EventCodes} {control : ControlInfo} {type : String}
    {entry : Option Config.Action} {b : Button} (h : Actions.Action.ofName type = none) :
    (b.callSetAction codes control type entry).FailsCleanly entry b
        { b with action := entry.map (ActionObject.make codes) } ↔
      control.temporaryDivertable = false ∨ b.action = none ∨ entry = none := by
  by_cases hdivertable : control.temporaryDivertable
  · have hcall : b.callSetAction codes control type entry =
        ⟨entry, { b with action := none }, .invalidAction type⟩ := by
      simp [callSetAction, h, hdivertable, ne_gesture_of_unknown h, Button.setAction_of_unknown]
    rw [hcall]
    cases b with
    | mk action firstMove => cases entry <;> simp [Called.FailsCleanly, hdivertable, eq_comm]
  · have hcall : b.callSetAction codes control type entry =
        ⟨entry, b, .invalidArgument "Non-remappable"⟩ := by
      simp [callSetAction, hdivertable]
    rw [hcall]
    simp [Called.FailsCleanly, hdivertable]

theorem IntervalGesture.failsCleanly {codes : EventCodes} {type : String}
    {entry : Config.IntervalGesture} {g : Actions.IntervalGesture}
    (h : Actions.BasicAction.ofName type = none) :
    (callSetAction codes type entry g).FailsCleanly entry g
      { g with action := entry.action.map (.make codes) } := by
  simp only [callSetAction, h]
  exact ⟨nofun, rfl, .inr rfl⟩

theorem ReleaseGesture.failsCleanly {codes : EventCodes} {type : String}
    {entry : Config.ReleaseGesture} {g : Actions.ReleaseGesture}
    (h : Actions.BasicAction.ofName type = none) :
    (callSetAction codes type entry g).FailsCleanly entry g
      { g with action := entry.action.map (.make codes) } := by
  simp only [callSetAction, h]
  exact ⟨nofun, rfl, .inr rfl⟩

theorem ThresholdGesture.failsCleanly_iff {codes : EventCodes} {type : String}
    {entry : Config.ThresholdGesture} {g : Actions.ThresholdGesture}
    (h : Actions.BasicAction.ofName type = none) :
    (callSetAction codes type entry g).FailsCleanly entry g
        { g with action := entry.action.map (.make codes) } ↔
      g.action = none ∨ entry.action = none := by
  simp only [callSetAction, h]
  cases g with
  | mk axis executed action => simp [Called.FailsCleanly, eq_comm]

/-- The three methods of the thumb wheel make its section before they look at the type. -/
theorem ThumbWheel.callAction_failsCleanly_iff {set : Config.ThumbWheel → ThumbWheel →
      Config.ThumbWheel × ThumbWheel × Bool} {type : String} {config : Option Config.ThumbWheel}
    {w rebuilt : ThumbWheel} (h : ∀ conf w, set conf w = (conf, w, false)) :
    (callAction set type config w).FailsCleanly config w rebuilt ↔ config ≠ none := by
  cases config <;> simp [Called.FailsCleanly, callAction, h, parentConfig]

/-- A method leaves everything as it was, for a type that is no action, exactly when it finds what it
must find: a button that is not remappable or has nothing to lose, a threshold gesture without an
action, a profile with a section of the thumb wheel. The two gestures that restore their action always
do. -/
theorem ActionMethod.rejectedAction_failsCleanly_iff (codes : EventCodes) (m : ActionMethod) (type : String)
    (entry : m.Entry) (object : m.Object) (h : m.recognises type = false) :
    m.FailsCleanly codes type entry object ↔ m.KeepsOnFailure entry object := by
  have hknown : ∀ {α : Type} {o : Option α}, o.isSome = false → o = none := by
    intro α o ho
    simpa using ho
  cases m with
  | button control => exact Button.failsCleanly_iff (hknown h)
  | intervalGesture => exact iff_of_true (IntervalGesture.failsCleanly (hknown h)) trivial
  | releaseGesture => exact iff_of_true (ReleaseGesture.failsCleanly (hknown h)) trivial
  | thresholdGesture => exact ThresholdGesture.failsCleanly_iff (hknown h)
  | wheelProxy =>
    have hunknown : Actions.BasicAction.ofName type = none := hknown h
    apply ThumbWheel.callAction_failsCleanly_iff
    simp [ThumbWheel.setProxy, ThumbWheel.makeAction, hunknown]
  | wheelTap =>
    have hunknown : Actions.BasicAction.ofName type = none := hknown h
    apply ThumbWheel.callAction_failsCleanly_iff
    simp [ThumbWheel.setTap, ThumbWheel.makeAction, hunknown]
  | wheelTouch =>
    have hunknown : Actions.BasicAction.ofName type = none := hknown h
    apply ThumbWheel.callAction_failsCleanly_iff
    simp [ThumbWheel.setTouch, ThumbWheel.makeAction, hunknown]

/-- The code of one key. -/
def keyA : EventCodes where
  keyCode name := if name = "KEY_A" then some 30 else none
  axisCode _ := none

def pressA : Config.KeypressAction := { keys := some (.inl "KEY_A") }

theorem interval_keeps_keypress :
    ActionMethod.intervalGesture.FailsCleanly keyA "Mute"
      { action := some (.keypress pressA) } { action := some (.make keyA (.keypress pressA)) } :=
  (ActionMethod.rejectedAction_failsCleanly_iff keyA .intervalGesture "Mute" _ _ (by decide)).mpr
    trivial

/-- A button that sends a key does nothing after the rejected type. -/
theorem button_loses_keypress :
    (ActionMethod.button ⟨0xc4, true, false⟩).recognises "Mute" = false ∧
      ¬ (ActionMethod.button ⟨0xc4, true, false⟩).FailsCleanly keyA "Mute"
        (some (.keypress pressA)) (.make keyA (some (.keypress pressA))) := by
  have hunknown : Actions.Action.ofName "Mute" = none := by decide
  refine ⟨by decide, fun h => ?_⟩
  rcases (Button.failsCleanly_iff hunknown).mp h with hcontrol | haction | hentry
  · cases hcontrol
  · cases haction
  · cases hentry

/-! ## Gestures -/

theorem GestureMethod.failsCleanly_of_call {codes : EventCodes} {wheels : Wheels}
    {m : GestureMethod} {type : String} {entry : m.Entry} {object : m.Object}
    {r : Called m.Entry m.Object} (hcall : m.call codes wheels type entry object = some r)
    (hreply : r.reply ≠ .ok) :
    m.FailsCleanly codes wheels type entry object ↔
      (∀ d, m.entryOf d r.entry = m.entryOf d entry) ∧
        ∀ d, m.gestureOf d r.object = m.gestureOf d object ∨
          m.target = some d ∧ m.Rebuilt codes wheels (m.entryOf d entry) (m.gestureOf d r.object) := by
  constructor
  · intro hclean
    obtain ⟨r', hr', -, hclean⟩ := hclean
    rw [hcall, Option.some_inj] at hr'
    subst hr'
    exact hclean
  · intro hclean
    exact ⟨r, hcall, hreply, hclean⟩

/-- `SetGesture` on the map of a gesture action. -/
theorem GestureAction.failsCleanly_iff {codes : EventCodes} {wheels : Wheels}
    {direction type : String} {config : Config.GestureAction} {a : Actions.GestureAction}
    (h : Actions.Gesture.ofType type = none) :
    (GestureMethod.setGesture direction).FailsCleanly codes wheels type config a ↔
      ∀ d, Direction.ofName direction = some d → Actions.GestureAction.entry config d ≠ none := by
  let r := callSetGesture codes direction type config a
  have hreply : r.reply ≠ .ok := by
    have hfails := Actions.GestureAction.setGesture_unknown config direction h
    cases hnone : (Direction.ofName direction).isNone <;> simp [r, callSetGesture, hfails, hnone]
  have hiff : (GestureMethod.setGesture direction).FailsCleanly codes wheels type config a ↔
      (∀ d, Actions.GestureAction.entry r.entry d = Actions.GestureAction.entry config d) ∧
        ∀ d, r.object.gestures d = a.gestures d ∨ Direction.ofName direction = some d ∧
          r.object.gestures d = (Actions.GestureAction.entry config d).map (.make codes) :=
    GestureMethod.failsCleanly_of_call (m := .setGesture direction) (r := r) rfl hreply
  rw [hiff]
  cases hd : Direction.ofName direction with
  | none =>
    have hsame : r.entry = config ∧ r.object = a := by
      simp [r, callSetGesture, Actions.GestureAction.setGesture,
        Actions.GestureAction.replaceGesture, hd]
    rw [hsame.1, hsame.2]
    refine iff_of_true ⟨fun _ => rfl, fun _ => .inl rfl⟩ ?_
    intro e he
    cases he
  | some d =>
    have hentries : (∀ e, Actions.GestureAction.entry r.entry e =
        Actions.GestureAction.entry config e) ↔ Actions.GestureAction.entry config d ≠ none :=
      Actions.GestureAction.entry_setGesture_unknown_iff hd h
    constructor
    · intro hclean e he
      cases he
      exact hentries.mp hclean.1
    · intro hpresent
      have hsame := hentries.mpr (hpresent d rfl)
      refine ⟨hsame, fun e => ?_⟩
      have hgesture := Actions.GestureAction.gestures_replaceGesture codes config a type hd e
      by_cases he : e = d
      · subst he
        -- the gesture is made of the entry again
        rw [if_pos rfl, h, Option.getD_none] at hgesture
        obtain ⟨g, hg⟩ := Option.ne_none_iff_exists'.mp (hpresent e rfl)
        have hentry : Actions.GestureAction.entry
            (Actions.GestureAction.setGesture config direction type).1 e = some g :=
          (hsame e).trans hg
        rw [Actions.GestureAction.gestureConfig, hentry, Option.getD_some] at hgesture
        exact .inr ⟨rfl, hgesture.trans (by rw [hg]; rfl)⟩
      · rw [if_neg he] at hgesture
        exact .inl hgesture

theorem Turn.ofDirection_direction (turn : Turn) : Turn.ofDirection turn.direction = some turn := by
  cases turn <;> rfl

namespace HiresScroll

theorem entry_setEntry (conf : Config.HiresScroll) (value : Option Config.Gesture) (turn other : Turn) :
    entry (setEntry conf value turn) other = if other = turn then value else entry conf other := by
  cases turn <;> cases other <;> rfl

theorem side_setSide (h : HiresScroll) (value : WheelSide) (turn other : Turn) :
    (h.setSide value turn).side other = if other = turn then value else h.side other := by
  cases turn <;> cases other <;> rfl

/-- The entries are as they were exactly if the one that is written is. -/
theorem entries_iff {conf : Config.HiresScroll} {value : Option Config.Gesture} {turn : Turn} :
    (∀ d, (Turn.ofDirection d).bind (entry (setEntry conf value turn)) =
      (Turn.ofDirection d).bind (entry conf)) ↔ value = entry conf turn := by
  constructor
  · intro h
    have hturn := h turn.direction
    rw [Turn.ofDirection_direction, Option.bind_some, Option.bind_some, entry_setEntry,
      if_pos rfl] at hturn
    exact hturn
  · intro h d
    cases Turn.ofDirection d with
    | none => rfl
    | some other =>
      rw [Option.bind_some, Option.bind_some, entry_setEntry]
      split
      next heq => rw [h, heq]
      next => rfl

theorem failsCleanly_unknown_iff {codes : EventCodes} {wheels : Wheels} {turn : Turn} {type : String}
    {config : HiresEntry} {h : HiresScroll} (htype : Actions.Gesture.ofType type = none) :
    (GestureMethod.setTurn turn).FailsCleanly codes wheels type config h ↔
      entry (parentConfig config) turn ≠ none := by
  let conf := parentConfig config
  let r : Called HiresEntry HiresScroll :=
    ⟨some (.inr (setEntry conf (some ((entry conf turn).getD (.none {}))) turn)), h, .invalidGesture⟩
  have hcall : (GestureMethod.setTurn turn).call codes wheels type config h = some r := by
    simp only [GestureMethod.call, callSetGesture, setGesture, htype]
    rfl
  rw [GestureMethod.failsCleanly_of_call hcall nofun]
  have hentries : (∀ d, (GestureMethod.setTurn turn).entryOf d r.entry =
      (GestureMethod.setTurn turn).entryOf d config) ↔
        some ((entry conf turn).getD (.none {})) = entry conf turn := entries_iff
  rw [hentries]
  constructor
  · intro hclean hnone
    rw [hnone] at hclean
    cases hclean.1
  · intro hpresent
    obtain ⟨g, hg⟩ := Option.ne_none_iff_exists'.mp hpresent
    refine ⟨?_, fun d => .inl rfl⟩
    rw [show entry conf turn = some g from hg, Option.getD_some]

theorem failsCleanly_incompatible_iff {codes : EventCodes} {wheels : Wheels} {turn : Turn}
    {type : String} {config : HiresEntry} {h : HiresScroll} {g : Config.Gesture}
    (htype : Actions.Gesture.ofType type = some g)
    (hbad : (GestureObject.make codes g).wheelCompatibility = false) :
    (GestureMethod.setTurn turn).FailsCleanly codes wheels type config h ↔
      (h.side turn).node = true ∧ entry (parentConfig config) turn = none ∧
        (h.side turn).gesture = some (.make codes g) := by
  by_cases hnode : (h.side turn).node
  · let conf := parentConfig config
    let object := h.setSide ⟨some (.make codes g), false⟩ turn
    let r : Called HiresEntry HiresScroll :=
      ⟨some (.inr (setEntry conf none turn)), object, .invalidArgument "incompatible gesture"⟩
    have hcall : (GestureMethod.setTurn turn).call codes wheels type config h = some r := by
      simp only [GestureMethod.call, callSetGesture, setGesture, htype, hnode, hbad, if_true]
      rfl
    rw [GestureMethod.failsCleanly_of_call hcall nofun]
    have hentries : (∀ d, (GestureMethod.setTurn turn).entryOf d r.entry =
        (GestureMethod.setTurn turn).entryOf d config) ↔ none = entry conf turn := entries_iff
    have hside : (object.side turn).gesture = some (.make codes g) := by
      rw [side_setSide, if_pos rfl]
    rw [hentries]
    constructor
    · intro hclean
      obtain ⟨hnone, hgestures⟩ := hclean
      refine ⟨hnode, hnone.symm, ?_⟩
      have hturn := hgestures turn.direction
      simp only [GestureMethod.gestureOf, GestureMethod.entryOf, GestureMethod.Rebuilt,
        Turn.ofDirection_direction, Option.bind_some] at hturn
      rcases hturn with hold | ⟨-, hrebuilt⟩
      · exact hold.symm.trans hside
      · -- nothing is made of an entry that is not there
        rw [hside, show entry (parentConfig config) turn = none from hnone.symm] at hrebuilt
        cases hrebuilt
    · intro hclean
      obtain ⟨-, hnone, hgesture⟩ := hclean
      refine ⟨hnone.symm, fun d => .inl ?_⟩
      simp only [GestureMethod.gestureOf]
      cases hd : Turn.ofDirection d with
      | none => rfl
      | some other =>
        rw [Option.bind_some, Option.bind_some]
        by_cases heq : other = turn
        · subst heq
          exact hside.trans hgesture.symm
        · rw [side_setSide, if_neg heq]
  · have hcall : (GestureMethod.setTurn turn).call codes wheels type config h = none := by
      simp only [GestureMethod.call, callSetGesture, setGesture, htype, hnode]
      rfl
    refine iff_of_false ?_ fun hclean => hnode hclean.1
    intro hclean
    obtain ⟨r, hr, -⟩ := hclean
    rw [hcall] at hr
    cases hr

end HiresScroll

namespace ThumbWheel

/-- What the class makes of an entry is nothing exactly if it makes no gesture of it. -/
theorem rebuilt_none_iff {codes : EventCodes} {wheels : Wheels} {entry : Option Config.Gesture}
    {m : GestureMethod} (hm : m = .setLeft ∨ m = .setRight) :
    m.Rebuilt codes wheels entry none ↔ genGesture codes entry = none := by
  rcases hm with rfl | rfl <;> cases hgesture : genGesture codes entry <;>
    simp [GestureMethod.Rebuilt, hgesture]

/-- A call that writes the left side and nothing else. -/
theorem failsCleanly_left_iff {codes : EventCodes} {wheels : Wheels} {type : String}
    {config : Option Config.ThumbWheel} {w : ThumbWheel} {value : Option Config.Gesture}
    {gesture : Option GestureObject} {reply : CallReply}
    (hcall : GestureMethod.setLeft.call codes wheels type config w = some
      ⟨some { parentConfig config with left := value }, { w with left := gesture }, reply⟩)
    (hreply : reply ≠ .ok) :
    GestureMethod.setLeft.FailsCleanly codes wheels type config w ↔
      value = (parentConfig config).left ∧ (gesture = w.left ∨
        GestureMethod.setLeft.Rebuilt codes wheels (parentConfig config).left gesture) := by
  rw [GestureMethod.failsCleanly_of_call hcall hreply]
  constructor
  · intro hclean
    obtain ⟨hentries, hgestures⟩ := hclean
    exact ⟨hentries .left, (hgestures .left).imp_right And.right⟩
  · intro hclean
    obtain ⟨hvalue, hgesture⟩ := hclean
    refine ⟨fun d => ?_, fun d => ?_⟩
    · cases d with
      | left => exact hvalue
      | _ => rfl
    · cases d with
      | left => exact hgesture.imp_right fun h => ⟨rfl, h⟩
      | _ => exact .inl rfl

/-- The same for the right side. -/
theorem failsCleanly_right_iff {codes : EventCodes} {wheels : Wheels} {type : String}
    {config : Option Config.ThumbWheel} {w : ThumbWheel} {value : Option Config.Gesture}
    {gesture : Option GestureObject} {reply : CallReply}
    (hcall : GestureMethod.setRight.call codes wheels type config w = some
      ⟨some { parentConfig config with right := value }, { w with right := gesture }, reply⟩)
    (hreply : reply ≠ .ok) :
    GestureMethod.setRight.FailsCleanly codes wheels type config w ↔
      value = (parentConfig config).right ∧ (gesture = w.right ∨
        GestureMethod.setRight.Rebuilt codes wheels (parentConfig config).right gesture) := by
  rw [GestureMethod.failsCleanly_of_call hcall hreply]
  constructor
  · intro hclean
    obtain ⟨hentries, hgestures⟩ := hclean
    exact ⟨hentries .right, (hgestures .right).imp_right And.right⟩
  · intro hclean
    obtain ⟨hvalue, hgesture⟩ := hclean
    refine ⟨fun d => ?_, fun d => ?_⟩
    · cases d with
      | right => exact hvalue
      | _ => rfl
    · cases d with
      | right => exact hgesture.imp_right fun h => ⟨rfl, h⟩
      | _ => exact .inl rfl

/-- The entry that a method makes where there is none is a change. -/
theorem some_entry_eq_iff {conf : Option Config.Gesture} : some (entry conf) = conf ↔ conf ≠ none := by
  cases conf <;> simp [entry]

/-- The entry and the gesture are cleared, which goes unnoticed where there is no entry. -/
theorem cleared_clean_iff {codes : EventCodes} {entry : Option Config.Gesture}
    {held : Option GestureObject} :
    (none = entry ∧ (none = held ∨ genGesture codes entry = none)) ↔ entry = none := by
  constructor
  · intro hclean
    exact hclean.1.symm
  · intro hnone
    subst hnone
    exact ⟨rfl, .inr rfl⟩

theorem failsCleanly_setLeft_iff {codes : EventCodes} {wheels : Wheels} {type : String}
    {config : Option Config.ThumbWheel} {w : ThumbWheel}
    (h : GestureMethod.setLeft.rejects codes type = true) :
    GestureMethod.setLeft.FailsCleanly codes wheels type config w ↔
      GestureMethod.setLeft.KeepsOnFailure codes type config w := by
  have hleft : GestureMethod.setLeft = .setLeft ∨ GestureMethod.setLeft = .setRight := .inl rfl
  cases htype : Actions.Gesture.ofType type with
  | none =>
    have hcall : GestureMethod.setLeft.call codes wheels type config w = some
        ⟨some { parentConfig config with left := some (entry (parentConfig config).left) },
          { w with left := none }, .invalidGesture⟩ := by
      simp [GestureMethod.call, callGesture, setLeft, htype]
    rw [failsCleanly_left_iff hcall nofun, rebuilt_none_iff hleft, some_entry_eq_iff]
    simp [GestureMethod.KeepsOnFailure, htype, eq_comm]
  | some g =>
    have hbad : (GestureObject.make codes g).wheelCompatibility = false := by
      simpa [GestureMethod.rejects, htype] using h
    have hcall : GestureMethod.setLeft.call codes wheels type config w = some
        ⟨some { parentConfig config with left := none }, { w with left := none },
          .invalidArgument "incompatible gesture"⟩ := by
      simp [GestureMethod.call, callGesture, setLeft, htype, hbad]
    rw [failsCleanly_left_iff hcall nofun, rebuilt_none_iff hleft]
    simp only [GestureMethod.KeepsOnFailure, htype, reduceCtorEq, if_false]
    exact cleared_clean_iff

theorem failsCleanly_setRight_iff {codes : EventCodes} {wheels : Wheels} {type : String}
    {config : Option Config.ThumbWheel} {w : ThumbWheel}
    (h : GestureMethod.setRight.rejects codes type = true) :
    GestureMethod.setRight.FailsCleanly codes wheels type config w ↔
      GestureMethod.setRight.KeepsOnFailure codes type config w := by
  cases htype : Actions.Gesture.ofType type with
  | none =>
    have hcall : GestureMethod.setRight.call codes wheels type config w = some
        ⟨some { parentConfig config with right := some (entry (parentConfig config).right) },
          { w with right := w.right }, .invalidGesture⟩ := by
      simp [GestureMethod.call, callGesture, setRight, htype]
    rw [failsCleanly_right_iff hcall nofun, some_entry_eq_iff]
    simp [GestureMethod.KeepsOnFailure, htype]
  | some g =>
    have hbad : (GestureObject.make codes g).wheelCompatibility = false := by
      simpa [GestureMethod.rejects, htype] using h
    have hcall : GestureMethod.setRight.call codes wheels type config w = some
        ⟨some { parentConfig config with right := none }, { w with right := none },
          .invalidArgument "incompatible gesture"⟩ := by
      simp [GestureMethod.call, callGesture, setRight, htype, hbad]
    rw [failsCleanly_right_iff hcall nofun, rebuilt_none_iff (.inr rfl)]
    simp only [GestureMethod.KeepsOnFailure, htype, reduceCtorEq, if_false]
    exact cleared_clean_iff

end ThumbWheel

def someWheels : Wheels := { info := ⟨120, 1⟩, multiplier := 8 }

end Logid.Features
