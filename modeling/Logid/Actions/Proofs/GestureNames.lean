import Logid.Actions.GestureNames
import Logid.Actions.Proofs.Entries
import Logid.Config.Caseless

/-!
# One entry for each direction

The comparator of the map tells names apart up to case, so the names of a map differ in more than case
and `SetGesture` finds the entry of its direction under whatever name it has.
-/

namespace Logid.Actions

open Config (lessCaseless lessCaselessBytes EqualUpToCase)

theorem lessCaseless_isStrictWeakOrder :
    IsStrictWeakOrder String fun k l => lessCaseless.lt k l = true := by
  have hless : (fun k l => lessCaseless.lt k l = true) =
      Order.Preimage String.toList fun as bs => LexLess.less Char.toLower as bs = true := by
    rw [← Config.lessCaselessLoop_eq_less]
    rfl
  have := LexLess.isStrictWeakOrder Char.toLower
  rw [hless]
  infer_instance

namespace GestureAction

theorem find?_congr (gestures : SortedMap String Config.Gesture lessCaseless) {k l : String}
    (h : toLower k = toLower l) : gestures.find? k = gestures.find? l := by
  have hequiv : ∀ m, SortedMap.equiv lessCaseless k m = SortedMap.equiv lessCaseless l m :=
    SortedMap.equiv_congr Config.lessCaseless_weak (equiv_lessCaseless.mpr h)
  simp only [SortedMap.find?, hequiv]

/-- The names of a map differ in more than case. -/
theorem names_pairwise (gestures : SortedMap String Config.Gesture lessCaseless) :
    gestures.entries.Pairwise fun e f => toLower e.1 ≠ toLower f.1 := by
  refine gestures.sorted.imp ?_
  intro e f hlt heq
  have hequiv := equiv_lessCaseless.mpr heq
  simp [SortedMap.equiv, hlt] at hequiv

theorem eq_of_toLower_eq {gestures : SortedMap String Config.Gesture lessCaseless}
    {e f : String × Config.Gesture} (he : e ∈ gestures.entries) (hf : f ∈ gestures.entries)
    (h : toLower e.1 = toLower f.1) : e = f := by
  by_contra hne
  have : Std.Symm fun e f : String × Config.Gesture => toLower e.1 ≠ toLower f.1 :=
    ⟨fun _ _ h => h.symm⟩
  exact (names_pairwise gestures).forall he hf hne h

/-- The entry that has a name of the direction is changed, in whatever case the name is. -/
theorem entries_modify {gestures : SortedMap String Config.Gesture lessCaseless}
    {e : String × Config.Gesture} {d : Direction} (he : e ∈ gestures.entries)
    (hd : Direction.ofName e.1 = some d) (f : Config.Gesture → Config.Gesture) :
    (gestures.modify d.name f).entries =
      gestures.entries.map fun x => if x.1 = e.1 then (e.1, f e.2) else x := by
  apply List.map_congr_left
  intro x hx
  beta_reduce
  by_cases hxe : x.1 = e.1
  · obtain rfl : x = e := eq_of_toLower_eq hx he (congrArg toLower hxe)
    rw [if_pos rfl, if_pos (Direction.equiv_name_iff.mpr hd)]
  · rw [if_neg hxe, if_neg]
    intro hequiv
    have hlower := Direction.ofName_eq_some_iff.mp (Direction.equiv_name_iff.mp hequiv)
    rw [← Direction.ofName_eq_some_iff.mp hd] at hlower
    exact hxe (congrArg Prod.fst (eq_of_toLower_eq hx he hlower))

/-- `SetGesture` changes the entry that is there for its direction, and adds none. -/
theorem entries_setGesture {config : Config.GestureAction} {e : String × Config.Gesture}
    {d : Direction} {direction : String} (he : e ∈ (gesturesOf config).entries)
    (hd : Direction.ofName e.1 = some d) (hdirection : Direction.ofName direction = some d)
    (type : String) :
    (gesturesOf (setGesture config direction type).1).entries =
      (gesturesOf config).entries.map fun x =>
        if x.1 = e.1 then (e.1, gestureOfType d type e.2) else x := by
  have hemplace : ∀ g, (gesturesOf config).emplace d.name g = gesturesOf config :=
    fun g => SortedMap.emplace_of_equiv he (Direction.equiv_name_iff.mpr hd)
  simp only [setGesture, hdirection, gestureOfType]
  cases Gesture.ofType type with
  | none =>
    change ((gesturesOf config).emplace d.name (.none {})).entries = _
    rw [hemplace]
    refine (List.map_id' _).symm.trans (List.map_congr_left fun x hx => ?_)
    split
    next hxe =>
      exact eq_of_toLower_eq hx he (congrArg toLower hxe)
    next => rfl
  | some g =>
    change ((gesturesOf config).assign d.name _).entries = _
    rw [SortedMap.assign, hemplace, entries_modify he hd]

/-- What a file brings is found under every spelling of its name, unless there was an entry. -/
theorem gestureNamed_fromFile (config : Config.GestureAction) (name : String)
    (gesture : Config.Gesture) :
    Inserted config (insert config (.fromFile name gesture)) (.fromFile name gesture) := by
  intro k
  show ((gesturesOf config).emplace name gesture).find? k = _
  rw [SortedMap.find?_emplace Config.lessCaseless_weak]
  simp only [equiv_lessCaseless, eq_comm (a := toLower k)]
  by_cases hname : toLower name = toLower k
  · have hsame : (gesturesOf config).find? k = gestureNamed config name :=
      (find?_congr _ hname).symm
    rw [if_pos hname, hsame]
    cases gestureNamed config name with
    | none => exact if_pos ⟨hname, rfl⟩
    | some g => exact if_neg fun h => Option.some_ne_none g h.2
  · rw [if_neg hname, if_neg fun h => hname h.1]
    rfl

/-- `SetGesture` is found under every spelling of its direction. -/
theorem gestureNamed_setGesture (config : Config.GestureAction) (direction type : String) :
    Inserted config (insert config (.setGesture direction type)) (.setGesture direction type) := by
  rw [Inserted]
  cases hdirection : Direction.ofName direction with
  | none => simp only [insert, setGesture, hdirection]
  | some d =>
    intro k
    have hlower : toLower d.name = d.name :=
      Direction.ofName_eq_some_iff.mp (Direction.ofName_name d)
    simp only [insert, setGesture, hdirection, gestureOfType]
    cases Gesture.ofType type with
    | none =>
      show ((gesturesOf config).emplace d.name (.none {})).find? k = _
      have h := gestureNamed_fromFile config d.name (.none {}) k
      rw [hlower] at h
      exact h
    | some g =>
      show ((gesturesOf config).assign d.name _).find? k = _
      rw [SortedMap.find?_assign Config.lessCaseless_weak]
      simp only [equiv_lessCaseless, hlower, eq_comm (a := toLower k)]
      rfl

theorem inserted (config : Config.GestureAction) (i : GestureInsertion) :
    Inserted config (insert config i) i := by
  cases i with
  | fromFile name gesture => exact gestureNamed_fromFile config name gesture
  | setGesture direction type => exact gestureNamed_setGesture config direction type

end GestureAction

/-- The comparator is a strict weak order of all strings in which those are equivalent that are equal up
to case. However entries come into a map, each is found under its name in any spelling, there is one for
each direction at most, and `SetGesture` changes the one that the file made under any spelling. -/
theorem caseless_names :
    IsStrictWeakOrder (List Int8) (fun as bs => lessCaselessBytes as bs = true) ∧
    (∀ as bs, lessCaselessBytes as bs = false ∧ lessCaselessBytes bs as = false ↔
      EqualUpToCase as bs) ∧
    IsStrictWeakOrder String (fun k l => lessCaseless.lt k l = true) ∧
    (∀ k l, lessCaseless.lt k l = false ∧ lessCaseless.lt l k = false ↔ toLower k = toLower l) ∧
    ∀ insertions : List GestureInsertion,
      let config := insertions.foldl GestureAction.insert {}
      (GestureAction.gesturesOf config).entries.Pairwise (fun e f => toLower e.1 ≠ toLower f.1) ∧
      (∀ i, GestureAction.Inserted config (GestureAction.insert config i) i) ∧
      ∀ e ∈ (GestureAction.gesturesOf config).entries, ∀ d, Direction.ofName e.1 = some d →
        ∀ direction type, Direction.ofName direction = some d →
          (GestureAction.gesturesOf (GestureAction.setGesture config direction type).1).entries =
            (GestureAction.gesturesOf config).entries.map fun x =>
              if x.1 = e.1 then (e.1, GestureAction.gestureOfType d type e.2) else x := by
  refine ⟨?_, ?_, lessCaseless_isStrictWeakOrder, ?_, ?_⟩
  · rw [Config.lessCaselessBytes_eq]
    exact LexLess.isStrictWeakOrder Config.tolower
  · intro as bs
    rw [← Config.map_tolower_eq_iff, ← LexLess.equiv_iff, Config.lessCaselessBytes_eq, SortedMap.equiv]
    simp [LexLess.keyLess]
  · intro k l
    rw [← equiv_lessCaseless, SortedMap.equiv]
    simp
  · intro insertions config
    refine ⟨GestureAction.names_pairwise _, GestureAction.inserted config, ?_⟩
    intro e he d hd direction type hdirection
    exact GestureAction.entries_setGesture he hd hdirection type

/-- The entry that a file calls "UP" is the one that `SetGesture` sets. -/
theorem caseless_names_upper :
    GestureAction.gestureNamed (GestureAction.insert {} (.fromFile "UP" (.axis {}))) "uP" =
        some (.axis {}) ∧
      (GestureAction.gesturesOf (GestureAction.setGesture
        (GestureAction.insert {} (.fromFile "UP" (.axis {}))) "up" "OnRelease").1).entries =
          [("UP", .release {})] := by
  obtain ⟨-, -, -, -, hinsert⟩ := caseless_names
  refine ⟨?_, ?_⟩
  · exact ((hinsert []).2.1 (.fromFile "UP" (.axis {})) "uP").trans (if_pos (by decide))
  · exact (hinsert [.fromFile "UP" (.axis {})]).2.2 ("UP", .axis {}) (List.mem_singleton_self _) .up
      (by decide) "up" "OnRelease" (by decide)

end Logid.Actions
