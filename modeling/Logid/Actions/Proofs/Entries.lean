import Logid.Actions.Objects

/-!
# The entries of a gesture action

The map of the gestures has one entry for each direction, so a method changes the entry of the
direction that it names and no other.
-/

namespace Logid.Actions

/-! ## Names of directions -/

theorem toLower_eq_iff {k l : String} :
    toLower k = toLower l ↔ k.toList.map Char.toLower = l.toList.map Char.toLower := by
  rw [toLower, toLower, String.ofList_inj]

theorem equiv_lessCaseless {k l : String} :
    SortedMap.equiv Config.lessCaseless k l = true ↔ toLower k = toLower l := by
  rw [toLower_eq_iff, ← LexLess.equiv_iff]
  simp only [SortedMap.equiv, Config.lessCaseless, LexLess.keyLess, Config.lessCaselessLoop_eq_less]

theorem Direction.ofName_eq_some_iff {name : String} {d : Direction} :
    Direction.ofName name = some d ↔ toLower name = d.name := by
  constructor
  · intro h
    unfold Direction.ofName at h
    split at h <;> cases h <;> assumption
  · intro h
    rw [Direction.ofName, h]
    cases d <;> rfl

/-- The names that a map takes for the name of a direction are those that are read as it. -/
theorem Direction.equiv_name_iff {name : String} {d : Direction} :
    SortedMap.equiv Config.lessCaseless d.name name = true ↔ Direction.ofName name = some d := by
  have hname : toLower d.name = d.name := Direction.ofName_eq_some_iff.mp (Direction.ofName_name d)
  rw [equiv_lessCaseless, hname, Direction.ofName_eq_some_iff, eq_comm]

theorem Direction.equiv_name (d e : Direction) :
    SortedMap.equiv Config.lessCaseless d.name e.name = true ↔ d = e := by
  rw [Direction.equiv_name_iff, Direction.ofName_name, Option.some_inj, eq_comm]

theorem Direction.name_injective {d e : Direction} (h : d.name = e.name) : d = e := by
  have hd := Direction.ofName_name d
  rw [h, Direction.ofName_name, Option.some_inj] at hd
  exact hd.symm

/-! ## Entries -/

namespace GestureAction

theorem entry_modifyEntry {config : Config.GestureAction} {d : Direction} {g g' : Config.Gesture}
    (h : entry config d = some g) (e : Direction) :
    entry (modifyEntry config d g') e =
      if d = e then some g' else entry config e := by
  obtain ⟨gestures, hgestures, hfind⟩ := Option.bind_eq_some_iff.mp h
  simp only [entry, modifyEntry, hgestures,
    Option.map_some, Option.bind_some]
  rw [SortedMap.find?_modify Config.lessCaseless_weak]
  simp only [Direction.equiv_name]
  split
  next heq =>
    subst heq
    rw [hfind]
    rfl
  next => rfl

theorem entry_setGesture {config config' : Config.GestureAction} {d : Direction} {type : String}
    (hd : d ≠ .none) (h : setGesture config d.name type = (config', true)) :
    ∃ g, Gesture.ofType type = some g ∧ ∀ e, entry config' e =
      if d = e then some g else entry config e := by
  simp only [setGesture, Direction.ofName_name] at h
  split at h
  next => cases h
  next g hg =>
    rw [if_neg hd] at h
    cases h
    refine ⟨g, hg, fun e => ?_⟩
    simp only [entry, Option.bind_some]
    rw [SortedMap.find?_assign Config.lessCaseless_weak]
    simp only [Direction.equiv_name]
    split
    next => rfl
    next =>
      cases config.gestures with
      | none => rfl
      | some gestures => rfl

theorem setGesture_unknown (config : Config.GestureAction) (direction : String) {type : String}
    (h : Gesture.ofType type = none) : (setGesture config direction type).2 = false := by
  unfold setGesture
  split
  · rfl
  · simp [h]

/-- A type that is not known leaves the entries as they were exactly if the direction has one. -/
theorem entry_setGesture_unknown_iff {config : Config.GestureAction} {d : Direction}
    {direction type : String} (hd : Direction.ofName direction = some d)
    (htype : Gesture.ofType type = none) :
    (∀ e, entry (setGesture config direction type).1 e = entry config e) ↔ entry config d ≠ none := by
  have hentry : ∀ e, entry (setGesture config direction type).1 e =
      if d = e ∧ entry config e = none then some (.none {}) else entry config e := by
    intro e
    have hfind : (config.gestures.getD .empty).find? e.name = entry config e := by
      cases hgestures : config.gestures with
      | none =>
        simp only [entry, hgestures]
        rfl
      | some gestures => simp [entry, hgestures]
    have hnew : entry (setGesture config direction type).1 e =
        ((config.gestures.getD .empty).emplace d.name (.none {})).find? e.name := by
      simp [setGesture, hd, htype, entry]
    rw [hnew, SortedMap.find?_emplace Config.lessCaseless_weak, hfind]
    simp only [Direction.equiv_name]
  constructor
  · intro h hnone
    have hkept := h d
    rw [hentry, if_pos ⟨rfl, hnone⟩, hnone] at hkept
    cases hkept
  · intro h e
    rw [hentry, if_neg]
    intro hboth
    obtain ⟨rfl, hnone⟩ := hboth
    exact h hnone

/-- A release of one gesture leaves the others. -/
theorem gestures_releaseGesture {config : Config.GestureAction} {a : GestureAction} {d e : Direction}
    {primary : Bool} (h : e ≠ d) : (a.releaseGesture config d primary).1.gestures e = a.gestures e := by
  unfold releaseGesture onGesture
  split
  · exact Function.update_of_ne h _ _
  · rfl

/-- What `setGesture` does to the objects: the one of the direction is made anew. -/
theorem gestures_replaceGesture (codes : EventCodes) (config : Config.GestureAction)
    (a : GestureAction) {d : Direction} {direction : String} (type : String)
    (hd : Direction.ofName direction = some d) (e : Direction) :
    (a.replaceGesture codes config direction type).1.gestures e =
      if e = d then
        some (.make codes ((Gesture.ofType type).getD
          (gestureConfig (setGesture config direction type).1 d)))
      else a.gestures e := by
  simp only [replaceGesture, hd]
  by_cases he : e = d
  · subst he
    rw [if_pos rfl]
    exact Function.update_self _ _ _
  · rw [if_neg he]
    refine (Function.update_of_ne he _ _).trans ?_
    split
    · exact gestures_releaseGesture he
    · rfl

end GestureAction

end Logid.Actions
