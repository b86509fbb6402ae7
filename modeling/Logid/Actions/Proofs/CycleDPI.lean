import Mathlib.Data.List.Rotate
import Logid.Actions.CycleDPI

/-!
# Presses of CycleDPI

The branch that moves the iterator is taken for empty lists only, where it cannot be moved, so a press
never asks for an entry.
-/

namespace Logid.Actions.CycleDPI

/-! ## The entries -/

/-- As many presses as the list has entries ask for each of them once. -/
theorem entries_round (dpis : List Int32) (count : Nat) :
    (List.range' count dpis.length).map (entry dpis) = (dpis.rotate count).map some := by
  apply List.ext_getElem
  · simp
  · intro i hi _
    have hlt : i < dpis.length := by simpa using hi
    have hmod : (i + count) % dpis.length < dpis.length := Nat.mod_lt _ (by omega)
    simp only [List.getElem_map, List.getElem_range', List.getElem_rotate, entry, Nat.one_mul]
    rw [Nat.add_comm count i, List.getElem?_eq_getElem hmod]

theorem entry_isSome {dpis : List Int32} (hdpis : dpis ≠ []) (count : Nat) :
    ∃ dpi, entry dpis count = some dpi := by
  have hmod : count % dpis.length < dpis.length :=
    Nat.mod_lt _ (List.length_pos_iff.mpr hdpis)
  exact ⟨_, List.getElem?_eq_getElem hmod⟩

/-! ## One press -/

/-- No iterator of an empty list can be moved. -/
theorem increment_nil (current : Option Nat) : increment [] current = none := by
  cases current <;> rfl

/-- A press is defined exactly if the list is not empty or the feature is missing, and then it changes
nothing and asks for nothing. -/
theorem press_eq_some_iff (o o' : Object) (request : Option Request) :
    press o = some (o', request) ↔
      (o.config.dpis = some [] → o.dpi = false) ∧ o' = o ∧ request = none := by
  have hsame : (some (o, (none : Option Request)) = some (o', request)) ↔ o' = o ∧ request = none := by
    rw [Option.some_inj, Prod.mk.injEq, eq_comm, @eq_comm _ none]
  rw [press]
  cases hdpis : o.config.dpis with
  | none => simpa using hsame
  | some dpis =>
    cases dpis with
    | nil =>
      cases hdpi : o.dpi with
      | true => simp [increment_nil]
      | false => simpa using hsame
    | cons dpi dpis => simpa using hsame

/-! ## Runs -/

/-- The iterator stays at the begin of the list, if there is one. -/
theorem current_eq_begin {dpi : Bool} {config : Config.CycleDPI} {s : State}
    (hs : (machine dpi config).Reachable s) :
    s.object.current = s.object.config.dpis.map fun _ => 0 := by
  refine Machine.invariant (I := fun s => s.object.current = s.object.config.dpis.map fun _ => 0)
    rfl ?_ hs
  intro s label t hbegin h
  cases label with
  | setDPIs dpis =>
    cases h
    rfl
  | press =>
    obtain ⟨⟨o, request⟩, hpress, h⟩ := Option.bind_eq_some_iff.mp h
    obtain ⟨-, rfl, -⟩ := (press_eq_some_iff _ _ _).mp hpress
    cases h
    exact hbegin

/-- A press is defined and asks for its entry exactly if it finds no list. -/
theorem step_cycles_iff {s : State} (hs : Cycles s) (label : Label) :
    (∃ t, step s label = some t ∧ Cycles t) ↔ FindsNoList s label := by
  cases label with
  | setDPIs dpis => exact iff_of_true ⟨_, rfl, hs⟩ trivial
  | press =>
    constructor
    · rintro ⟨t, h, hcycles⟩
      obtain ⟨⟨o, request⟩, hpress, h⟩ := Option.bind_eq_some_iff.mp h
      obtain ⟨hempty, rfl, rfl⟩ := (press_eq_some_iff _ _ _).mp hpress
      cases h
      have hnothing := hcycles _ List.mem_cons_self
      cases hdpis : s.object.config.dpis with
      | none => exact .inl hdpis
      | some dpis =>
        by_cases hnil : dpis = []
        · subst hnil
          exact .inr ⟨hempty hdpis, hdpis⟩
        · -- the entry that the press has not asked for
          obtain ⟨dpi, hentry⟩ := entry_isSome hnil (s.count + 1)
          rw [hdpis] at hnothing
          simp [hentry] at hnothing
    · intro hfinds
      have hpress : press s.object = some (s.object, none) := by
        refine (press_eq_some_iff _ _ _).mpr ⟨fun hempty => ?_, rfl, rfl⟩
        rcases hfinds with hnone | ⟨hmissing, -⟩
        · rw [hnone] at hempty
          cases hempty
        · exact hmissing
      refine ⟨_, by rw [step, hpress]; rfl, ?_⟩
      intro p hp
      rcases List.mem_cons.mp hp with rfl | hp
      · rcases hfinds with hnone | ⟨-, hempty⟩
        · simp [hnone]
        · simp [hempty, entry]
      · exact hs p hp

/-- Every press of a run asks for the entry of its count exactly if none finds a list. -/
theorem cycles_iff_findsNoList (dpi : Bool) (config : Config.CycleDPI) (labels : List Label) :
    (machine dpi config).Completes Cycles (machine dpi config).init labels ↔
      (machine dpi config).Follows FindsNoList (machine dpi config).init labels := by
  have hinit : Cycles (machine dpi config).init := fun _ h => nomatch h
  exact Machine.completes_iff_follows (J := fun _ => True) (fun _ _ _ _ _ => trivial)
    (fun _ label _ hs => step_cycles_iff hs label) trivial hinit

/-- One press with two values asks for nothing. -/
theorem press_asks_for_nothing :
    ¬∀ (dpi : Bool) (config : Config.CycleDPI) (labels : List Label),
      (machine dpi config).Completes Cycles (machine dpi config).init labels := by
  intro h
  obtain ⟨t, hrun, hcycles⟩ := (h true { dpis := some [800, 1600] } [.press]).last
  cases hrun
  have hrequest := hcycles _ List.mem_cons_self
  cases hrequest

end Logid.Actions.CycleDPI
