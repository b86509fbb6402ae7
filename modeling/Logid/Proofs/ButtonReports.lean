import Logid.ButtonReports
import Logid.Proofs.Input
import Mathlib.Data.List.Chain
import Mathlib.Data.List.Nodup

/-!
# Edge detection of the button reports

The loops of `_buttonEvent` compute the two differences of the remembered set and the new one, so from
report to report the calls are the edges of the sets.
-/

namespace Logid.Features

open Actions (InputEvent)

/-! ## One report -/

namespace ButtonCall

theorem perform_append (entries : ButtonEntries) (calls more : List ButtonCall) (r : RemapButton) :
    perform entries (calls ++ more) r =
      ((perform entries more (perform entries calls r).1).1,
        (perform entries calls r).2 ++ (perform entries more (perform entries calls r).1).2) := by
  induction calls generalizing r with
  | nil => rfl
  | cons call calls ih => simp only [List.cons_append, perform, ih, List.append_assoc]

theorem pressedButtons_perform (entries : ButtonEntries) (calls : List ButtonCall)
    (r : RemapButton) : (perform entries calls r).1.pressedButtons = r.pressedButtons := by
  induction calls generalizing r with
  | nil => rfl
  | cons call calls ih =>
    rw [perform]
    exact ih _

/-- The calls read the buttons only. -/
theorem perform_withPressed (entries : ButtonEntries) (calls : List ButtonCall) (r : RemapButton)
    (left : List UInt16) :
    perform entries calls { r with pressedButtons := left } =
      ({ (perform entries calls r).1 with pressedButtons := left }, (perform entries calls r).2) := by
  induction calls generalizing r with
  | nil => rfl
  | cons call calls ih =>
    simp only [perform]
    rw [ih { r with buttons := _ }]

end ButtonCall

namespace RemapButton

open ButtonCall (perform perform_append perform_withPressed pressedButtons_perform)

variable {controls : List ControlInfo}

theorem callOn_of_mem {call : ButtonCall} (h : call.control ∈ controls.map ControlInfo.controlID) :
    callOn controls call = [call] := if_pos h

theorem callOn_of_not_mem {call : ButtonCall}
    (h : call.control ∉ controls.map ControlInfo.controlID) : callOn controls call = [] := if_neg h

theorem perform_callOn (entries : ButtonEntries) (call : ButtonCall) (r : RemapButton) :
    perform entries (callOn controls call) r = r.onButton controls call.control
      (if call.isPress then Button.press (entries call.control)
        else Button.release (entries call.control)) := by
  unfold onButton
  split
  next hi =>
    rw [callOn_of_mem hi]
    cases call <;> simp [perform, ButtonCall.control, ButtonCall.isPress]
  next hi =>
    rw [callOn_of_not_mem hi]
    rfl

theorem perform_callOn_press (entries : ButtonEntries) (i : UInt16) (r : RemapButton) :
    perform entries (callOn controls (.press i)) r =
      r.onButton controls i (Button.press (entries i)) := perform_callOn entries (.press i) r

theorem perform_callOn_release (entries : ButtonEntries) (i : UInt16) (r : RemapButton) :
    perform entries (callOn controls (.release i)) r =
      r.onButton controls i (Button.release (entries i)) := perform_callOn entries (.release i) r

theorem pressAdded_eq_perform (entries : ButtonEntries) (is : List UInt16) (r : RemapButton) :
    pressAdded controls entries is r =
      ({ (perform entries (addedCalls controls is r.pressedButtons).1 r).1 with
          pressedButtons := (addedCalls controls is r.pressedButtons).2 },
        (perform entries (addedCalls controls is r.pressedButtons).1 r).2) := by
  induction is generalizing r with
  | nil => rfl
  | cons i is ih =>
    rw [pressAdded, addedCalls]
    split
    next => rw [ih, perform_withPressed]
    next =>
      have hsame := pressedButtons_perform entries (callOn controls (.press i)) r
      simp only [perform_append, ← perform_callOn_press]
      rw [ih, hsame]

theorem releaseRemoved_eq_perform (entries : ButtonEntries) (is : List UInt16) (r : RemapButton) :
    releaseRemoved controls entries is r = perform entries (removedCalls controls is) r := by
  induction is generalizing r with
  | nil => rfl
  | cons i is ih =>
    rw [releaseRemoved, removedCalls, perform_append, perform_callOn_release]
    simp only [ih]

/-- `_buttonEvent` makes its calls, in order, and remembers the new set. -/
theorem buttonEvent_eq_perform (entries : ButtonEntries) (r : RemapButton)
    (newState : List UInt16) :
    r.buttonEvent controls entries newState =
      ({ (perform entries (eventCalls controls r.pressedButtons newState) r).1 with
          pressedButtons := newState },
        (perform entries (eventCalls controls r.pressedButtons newState) r).2) := by
  simp only [buttonEvent, eventCalls, pressAdded_eq_perform, releaseRemoved_eq_perform,
    perform_append, perform_withPressed]

/-! ## The differences -/

/-- Erasing what is in the new set leaves what is not in it. -/
theorem addedCalls_left {is pressedButtons : List UInt16} (hnodup : pressedButtons.Nodup) :
    (addedCalls controls is pressedButtons).2 = pressedButtons.filter fun i => i ∉ is := by
  induction is generalizing pressedButtons with
  | nil => simp [addedCalls]
  | cons i is ih =>
    rw [addedCalls]
    split
    next hi =>
      rw [ih (hnodup.erase i), hnodup.erase_eq_filter, List.filter_filter]
      apply List.filter_congr
      intro j _
      simp only [List.mem_cons, not_or, Bool.decide_and, Bool.and_comm, bne, beq_eq_decide,
        decide_not]
    next hi =>
      rw [ih hnodup]
      apply List.filter_congr
      intro j hj
      have hne : j ≠ i := fun heq => hi (heq ▸ hj)
      simp [hne]

/-- The first loop presses what is new. -/
theorem addedCalls_presses {is pressedButtons : List UInt16} (his : is.Nodup)
    (hnodup : pressedButtons.Nodup) :
    (addedCalls controls is pressedButtons).1 =
      (is.filter fun i => i ∈ controls.map ControlInfo.controlID ∧ i ∉ pressedButtons).map
        ButtonCall.press := by
  induction is generalizing pressedButtons with
  | nil => rfl
  | cons i is ih =>
    obtain ⟨hfresh, his⟩ := List.nodup_cons.mp his
    rw [addedCalls]
    split
    next hi =>
      rw [ih his (hnodup.erase i), List.filter_cons_of_neg (by simp [hi])]
      congr 1
      apply List.filter_congr
      intro j hj
      have hne : j ≠ i := fun heq => hfresh (heq ▸ hj)
      simp [hne]
    next hi =>
      simp only [ih his hnodup]
      by_cases hknown : i ∈ controls.map ControlInfo.controlID
      · rw [List.filter_cons_of_pos (by simpa [hi] using hknown), callOn_of_mem hknown]
        rfl
      · rw [List.filter_cons_of_neg (by simpa [hi] using hknown), callOn_of_not_mem hknown]
        rfl

theorem removedCalls_eq (is : List UInt16) :
    removedCalls controls is =
      (is.filter fun i => i ∈ controls.map ControlInfo.controlID).map ButtonCall.release := by
  induction is with
  | nil => rfl
  | cons i is ih =>
    rw [removedCalls, ih]
    by_cases hknown : i ∈ controls.map ControlInfo.controlID
    · rw [List.filter_cons_of_pos (by simpa using hknown), callOn_of_mem hknown]
      rfl
    · rw [List.filter_cons_of_neg (by simpa using hknown), callOn_of_not_mem hknown]
      rfl

theorem eventCalls_eq {before now : List UInt16} (hnow : now.Nodup) (hbefore : before.Nodup) :
    eventCalls controls before now =
      (now.filter fun i => i ∈ controls.map ControlInfo.controlID ∧ i ∉ before).map
        ButtonCall.press ++
      ((before.filter fun i => i ∉ now).filter fun i =>
        i ∈ controls.map ControlInfo.controlID).map ButtonCall.release := by
  simp only [eventCalls, addedCalls_presses hnow hbefore, addedCalls_left hbefore, removedCalls_eq]

end RemapButton

end Logid.Features

namespace Logid.Input

open Backend.Hidpp20.ReprogControls (divertedButtonEvent reportedCids)
open Features
open RemapButton (eventCalls eventCalls_eq)

variable {controls : List ControlInfo}

/-- The calls of a report are its edges. -/
theorem reportEdges_eventCalls {before now : List UInt16} (hbefore : before.Nodup)
    (hnow : now.Nodup) : ReportEdges controls before now (eventCalls controls before now) := by
  rw [eventCalls_eq hnow hbefore]
  refine ⟨?_, ?_, ?_⟩
  · intro i
    simp only [List.mem_append, List.mem_map, List.mem_filter]
    simp
    tauto
  · intro i
    simp
    tauto
  · rw [List.nodup_append]
    refine ⟨(hnow.filter _).map ?_, ((hbefore.filter _).filter _).map ?_, ?_⟩
    · intro i j heq
      cases heq
      rfl
    · intro i j heq
      cases heq
      rfl
    · intro a ha b hb heq
      obtain ⟨i, -, rfl⟩ := List.mem_map.mp ha
      obtain ⟨j, -, rfl⟩ := List.mem_map.mp hb
      cases heq

/-! ## All reports -/

/-- The calls from a remembered set on. -/
def callsFrom (controls : List ControlInfo) : List UInt16 → List (List UInt16) →
    List (List ButtonCall)
  | _, [] => []
  | before, now :: sets => eventCalls controls before now :: callsFrom controls now sets

theorem length_callsFrom (before : List UInt16) (sets : List (List UInt16)) :
    (callsFrom controls before sets).length = sets.length := by
  induction sets generalizing before with
  | nil => rfl
  | cons now sets ih => rw [callsFrom, List.length_cons, ih, List.length_cons]

theorem getElem?_callsFrom {before : List UInt16} {sets : List (List UInt16)} {n : Nat}
    {last now : List UInt16} {calls : List ButtonCall} (hlast : (before :: sets)[n]? = some last)
    (hnow : sets[n]? = some now) (hcalls : (callsFrom controls before sets)[n]? = some calls) :
    calls = eventCalls controls last now := by
  induction sets generalizing before n with
  | nil => cases hnow
  | cons set sets ih =>
    cases n with
    | zero =>
      cases hlast
      cases hnow
      cases hcalls
      rfl
    | succ n => exact ih hlast hnow hcalls

/-- The call that a control had last, seen from whether it is held. -/
def lastCall (i : UInt16) (held : List UInt16) : ButtonCall :=
  if i ∈ held then .press i else .release i

theorem filter_eq_self_of_nodup {l : List UInt16} (h : l.Nodup) (i : UInt16) :
    l.filter (fun j => j = i) = if i ∈ l then [i] else [] := by
  rw [List.filter_eq, h.count]
  split <;> rfl

/-- A report calls a control that changes, and then the other way than last. -/
theorem filter_eventCalls {before now : List UInt16} (hbefore : before.Nodup) (hnow : now.Nodup)
    {i : UInt16} (hi : i ∈ controls.map ControlInfo.controlID) :
    (eventCalls controls before now).filter (fun call => call.control = i) =
      if lastCall i now = lastCall i before then [] else [lastCall i now] := by
  rw [eventCalls_eq hnow hbefore, List.filter_append, List.filter_map, List.filter_map]
  have hpress : (fun call : ButtonCall => decide (call.control = i)) ∘ ButtonCall.press =
    fun j => decide (j = i) := rfl
  have hrelease : (fun call : ButtonCall => decide (call.control = i)) ∘ ButtonCall.release =
    fun j => decide (j = i) := rfl
  rw [hpress, hrelease, filter_eq_self_of_nodup (hnow.filter _),
    filter_eq_self_of_nodup ((hbefore.filter _).filter _)]
  by_cases hb : i ∈ before
  · by_cases hn : i ∈ now <;> simp [lastCall, hb, hn, List.mem_map.mp hi]
  · by_cases hn : i ∈ now <;> simp [lastCall, hb, hn, List.mem_map.mp hi]

/-- An unknown control gets no call. -/
theorem filter_eventCalls_unknown {before now : List UInt16} (hbefore : before.Nodup)
    (hnow : now.Nodup) {i : UInt16} (hi : i ∉ controls.map ControlInfo.controlID) :
    (eventCalls controls before now).filter (fun call => call.control = i) = [] := by
  obtain ⟨hpressed, hreleased, -⟩ := @reportEdges_eventCalls controls before now hbefore hnow
  rw [List.filter_eq_nil_iff]
  intro call hcall hcontrol
  cases call with
  | press j =>
    obtain rfl : j = i := of_decide_eq_true hcontrol
    exact hi ((hpressed j).mp hcall).1
  | release j =>
    obtain rfl : j = i := of_decide_eq_true hcontrol
    exact hi ((hreleased j).mp hcall).1

/-- The calls of a known control alternate, from the last one before them on. -/
theorem alternating_callsFrom {i : UInt16} (hi : i ∈ controls.map ControlInfo.controlID)
    {before : List UInt16} {sets : List (List UInt16)} (hbefore : before.Nodup)
    (hsets : ∀ set ∈ sets, set.Nodup) :
    (lastCall i before ::
      (callsFrom controls before sets).flatten.filter fun call => call.control = i).IsChain
        (· ≠ ·) := by
  induction sets generalizing before with
  | nil => exact List.isChain_singleton _
  | cons now sets ih =>
    have hnow : now.Nodup := hsets now List.mem_cons_self
    have hrest := ih hnow fun set hset => hsets set (List.mem_cons_of_mem now hset)
    rw [callsFrom, List.flatten_cons, List.filter_append, filter_eventCalls hbefore hnow hi]
    split
    next hsame =>
      rw [← hsame]
      exact hrest
    next hchange => exact List.isChain_cons_cons.mpr ⟨fun heq => hchange heq.symm, hrest⟩

theorem filter_callsFrom_unknown {i : UInt16} (hi : i ∉ controls.map ControlInfo.controlID)
    {before : List UInt16} {sets : List (List UInt16)} (hbefore : before.Nodup)
    (hsets : ∀ set ∈ sets, set.Nodup) :
    (callsFrom controls before sets).flatten.filter (fun call => call.control = i) = [] := by
  induction sets generalizing before with
  | nil => rfl
  | cons now sets ih =>
    have hnow : now.Nodup := hsets now List.mem_cons_self
    rw [callsFrom, List.flatten_cons, List.filter_append,
      filter_eventCalls_unknown hbefore hnow hi, List.nil_append,
      ih hnow fun set hset => hsets set (List.mem_cons_of_mem now hset)]

theorem edgeCalls_callsFrom {sets : List (List UInt16)} (hsets : ∀ set ∈ sets, set.Nodup) :
    EdgeCalls controls sets (callsFrom controls [] sets) where
  length := length_callsFrom [] sets
  edges := by
    intro n before now calls hbefore hnow hcalls
    rw [getElem?_callsFrom hbefore hnow hcalls]
    apply reportEdges_eventCalls
    · rcases List.mem_cons.mp (List.mem_of_getElem? hbefore) with rfl | hmem
      · exact List.nodup_nil
      · exact hsets before hmem
    · exact hsets now (List.mem_of_getElem? hnow)
  alternating := by
    intro i
    by_cases hi : i ∈ controls.map ControlInfo.controlID
    · exact (alternating_callsFrom hi List.nodup_nil hsets).tail
    · rw [filter_callsFrom_unknown hi List.nodup_nil hsets]
      exact List.isChain_nil
  pressFirst := by
    intro i call hhead
    have hcontrol : call.control = i := by
      have hmem := List.mem_filter.mp (List.mem_of_head? hhead)
      exact of_decide_eq_true hmem.2
    by_cases hi : i ∈ controls.map ControlInfo.controlID
    · have hchain := alternating_callsFrom hi List.nodup_nil hsets
      obtain ⟨rest, hrest⟩ := List.head?_eq_some_iff.mp hhead
      rw [hrest, List.isChain_cons_cons] at hchain
      cases call with
      | press j => exact congrArg ButtonCall.press hcontrol
      | release j => exact absurd (congrArg ButtonCall.release hcontrol.symm) hchain.1
    · rw [filter_callsFrom_unknown hi List.nodup_nil hsets] at hhead
      cases hhead

/-! ## Runs -/

theorem replaceAt_pressedButtons (s : State) (g : Actions.GestureObject) (entry : Config.Gesture)
    (place : GesturePlace) :
    (replaceAt s g entry place).remap.pressedButtons = s.remap.pressedButtons := by
  cases place with
  | button control d =>
    rw [replaceAt]
    split <;> rfl
  | left => rfl
  | right => rfl

theorem setKeys_pressedButtons (device : Device) (s : State) (place : KeysPlace)
    (keys : List String) :
    (setKeys device s place keys).remap.pressedButtons = s.remap.pressedButtons := by
  cases place with
  | button control =>
    rw [setKeys]
    split
    · split <;> rfl
    · rfl
  | gesture place =>
    rw [setKeys]
    split
    · rfl
    · split
      · exact replaceAt_pressedButtons _ _ _ _
      · rfl
  | proxy =>
    rw [setKeys]
    split <;> rfl
  | tap =>
    rw [setKeys]
    split <;> rfl
  | touch =>
    rw [setKeys]
    split <;> rfl

theorem wheelMethod_pressedButtons (device : Device) (s : State)
    (f : Config.ThumbWheel → ThumbWheel → Config.ThumbWheel × ThumbWheel × Bool) :
    (wheelMethod device s f).remap.pressedButtons = s.remap.pressedButtons := by
  rw [wheelMethod]
  split <;> rfl

/-- Nothing but a report of the buttons changes the remembered set. -/
theorem step_pressedButtons (device : Device) (s : State) {a : Label}
    (ha : ∀ held, a ≠ .buttons held) :
    (step device s a).remap.pressedButtons = s.remap.pressedButtons := by
  cases a with
  | buttons held => exact absurd rfl (ha held)
  | rawXY x y => exact rawXYEvent_pressedButtons _ _ _ _ _
  | wheel event =>
    rw [step, wheelEvent]
    split <;> rfl
  | setProfile name => rfl
  | clearProfile name =>
    rw [step, clearProfile]
    split <;> rfl
  | setAction control type =>
    rw [step, setAction]
    split
    · rfl
    · split
      · split <;> rfl
      · rfl
  | setGesture control direction type =>
    rw [step, setGesture]
    split <;> rfl
  | setGestureAction place type =>
    rw [step, setGestureAction]
    split
    · rfl
    · exact replaceAt_pressedButtons _ _ _ _
  | setKeys place keys => exact setKeys_pressedButtons device s place keys
  | setProxy type => exact wheelMethod_pressedButtons device s _
  | setTap type => exact wheelMethod_pressedButtons device s _
  | setTouch type => exact wheelMethod_pressedButtons device s _
  | setLeft type => exact wheelMethod_pressedButtons device s _
  | setRight type => exact wheelMethod_pressedButtons device s _

theorem step_buttons_pressedButtons (device : Device) (s : State) (held : List UInt16) :
    (step device s (.buttons held)).remap.pressedButtons = held := rfl

/-- The calls of a run depend on the remembered set and the reports only. -/
theorem callLog_eq_callsFrom (device : Device) (as : List Label) (s : State) :
    callLog device s as = callsFrom device.controls s.remap.pressedButtons (buttonSets as) := by
  fun_induction callLog device s as with
  | case1 s => rfl
  | case2 s held as ih =>
    rw [ih, step_buttons_pressedButtons, buttonSets, callsFrom]
  | case3 s a as ha ih =>
    rw [ih, step_pressedButtons device s ha]
    cases a with
    | buttons held => exact absurd rfl (ha held)
    | _ => rfl

theorem getLastD_buttonSets (device : Device) {as : List Label} {s t : State}
    {profiles : SortedMap String Config.Profile Config.stringLess} {active : String}
    (hrun : (machine device profiles active).run s as = some t) :
    t.remap.pressedButtons = (buttonSets as).getLastD s.remap.pressedButtons := by
  induction as generalizing s with
  | nil =>
    cases hrun
    rfl
  | cons a as ih =>
    have hrest := ih (s := step device s a) hrun
    by_cases ha : ∃ held, a = .buttons held
    · obtain ⟨held, rfl⟩ := ha
      rw [hrest, buttonSets, List.getLastD_cons]
      rfl
    · rw [hrest, step_pressedButtons device s fun held heq => ha ⟨held, heq⟩]
      cases a with
      | buttons held => exact absurd ⟨held, rfl⟩ ha
      | _ => rfl

theorem DecodedReports.nodup {as : List Label} (h : DecodedReports as) :
    ∀ set ∈ buttonSets as, set.Nodup := by
  intro set hset
  have hmem : .buttons set ∈ as := by
    clear h
    fun_induction buttonSets as with
    | case1 => cases hset
    | case2 held as ih =>
      rcases List.mem_cons.mp hset with rfl | hset
      · exact List.mem_cons_self
      · exact List.mem_cons_of_mem _ (ih hset)
    | case3 a as ha ih => exact List.mem_cons_of_mem a (ih hset)
  obtain ⟨report, rfl⟩ := h set hmem
  exact SortedMap.nodup_keys _

/-- In any run of a device the buttons get exactly the edges of the sets that the reports decode to,
and the last of them is remembered. -/
theorem edgeCalls_of_run {device : Device}
    {profiles : SortedMap String Config.Profile Config.stringLess} {active : String}
    {as : List Label} (has : DecodedReports as) :
    EdgeCalls device.controls (buttonSets as) (callLog device (initial device profiles active) as) ∧
    (∀ t, (machine device profiles active).run (initial device profiles active) as = some t →
      t.remap.pressedButtons = (buttonSets as).getLastD []) ∧
    (∀ report i, i ∈ (divertedButtonEvent report).keys ↔ i ∈ reportedCids report) ∧
    ∀ entries (r : RemapButton) newState, r.buttonEvent device.controls entries newState =
      ({ (ButtonCall.perform entries (eventCalls device.controls r.pressedButtons newState) r).1 with
          pressedButtons := newState },
        (ButtonCall.perform entries (eventCalls device.controls r.pressedButtons newState) r).2) := by
  refine ⟨?_, fun t ht => getLastD_buttonSets device ht, ?_,
    RemapButton.buttonEvent_eq_perform⟩
  · rw [callLog_eq_callsFrom]
    exact edgeCalls_callsFrom has.nodup
  · intro report i
    exact Backend.Hidpp20.ReprogControls.mem_divertedButtonEvent

/-- The control of the mouse with one button, and one that it does not have. -/
def bothReport : Backend.Hidpp.Report :=
  (Backend.Hidpp.Report.ofFeature .long 1 5 0 0).copyParams [0x00, 0x52, 0x00, 0x53]

def otherReport : Backend.Hidpp.Report :=
  (Backend.Hidpp.Report.ofFeature .long 1 5 0 0).copyParams [0x00, 0x53]

def twoReports : List Label :=
  [.buttons (divertedButtonEvent bothReport).keys, .rawXY 3 0,
    .buttons (divertedButtonEvent otherReport).keys]

theorem edgeCalls_of_run_oneButton :
    EdgeCalls oneButton.controls [[0x52, 0x53], [0x53]] [[.press 0x52], [.release 0x52]] := by
  have hdecoded : DecodedReports twoReports := by
    intro held hheld
    simp only [twoReports, List.mem_cons, Label.buttons.injEq, reduceCtorEq, List.not_mem_nil,
      or_false, false_or] at hheld
    rcases hheld with rfl | rfl
    · exact ⟨bothReport, rfl⟩
    · exact ⟨otherReport, rfl⟩
  have hsets : buttonSets twoReports = [[0x52, 0x53], [0x53]] := by decide
  have hlog : callLog oneButton (initial oneButton ctrlProfiles "default") twoReports =
      [[.press 0x52], [.release 0x52]] := by
    rw [callLog_eq_callsFrom, hsets]
    decide
  have hedges := (@edgeCalls_of_run oneButton ctrlProfiles "default" twoReports hdecoded).1
  rw [hsets, hlog] at hedges
  exact hedges

end Logid.Input
