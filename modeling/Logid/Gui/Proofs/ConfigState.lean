import Logid.Gui.ConfigState

/-!
# When the mark of unsaved changes is right

A reply of success takes the mark away whatever was changed since `Save` was called. So the mark is
right all along a run exactly if nothing is changed between a call that succeeds and its reply.
-/

namespace Logid.Gui.ConfigState

/-- The pending `Save` covers no more than was marked and no less than the earlier ones. -/
structure Ordered (s : Session) : Prop where
  pending_le : ∀ covered, s.pendingSave = some covered → covered ≤ s.marked
  saves_le : ∀ earlier ∈ s.saves, earlier ≤ s.marked
  saves_le_pending : ∀ covered, s.pendingSave = some covered → ∀ earlier ∈ s.saves, earlier ≤ covered

theorem ordered_init : Ordered {} where
  pending_le := by simp
  saves_le := by simp
  saves_le_pending := by simp

/-- What a step does to the mark and the counts of the changes. -/
inductive StepKind (s : Session) : Label → Session → Prop
  | kept {t : Session} {a : Label} (ha : NoChangeSince s a)
      (hdirty : t.state.dirty = s.state.dirty) (hmarked : t.marked = s.marked)
      (hpending : t.pendingSave = s.pendingSave) (hsaves : t.saves = s.saves) : StepKind s a t
  | marked {t : Session} {a : Label} (ha : NoChangeSince s a) (hdirty : t.state.dirty = true)
      (hmarked : t.marked = s.marked + 1) (hpending : t.pendingSave = s.pendingSave)
      (hsaves : t.saves = s.saves) : StepKind s a t
  | saveCalled {t : Session} (hdirty : t.state.dirty = s.state.dirty) (hmarked : t.marked = s.marked)
      (hpending : t.pendingSave = some s.marked) (hsaves : t.saves = s.saves) : StepKind s .save t
  | saveReplied {t : Session} (reply : Reply) (covered : Nat)
      (hcovered : s.pendingSave = some covered)
      (ht : t = { s with
        state := s.state.onSaveReplied reply
        pendingSave := none
        saves := if reply = .success then covered :: s.saves else s.saves }) :
      StepKind s (.saveReplied reply) t

theorem stepKind {s t : Session} {a : Label} (hstep : step s a = some t) : StepKind s a t := by
  cases a with
  | setDevicePath path =>
    cases hstep
    exact .kept trivial rfl rfl rfl rfl
  | markDirty =>
    cases hstep
    exact .marked trivial rfl rfl rfl rfl
  | save =>
    simp only [step, save] at hstep
    split at hstep
    next hsave =>
      cases hstep
      exact .kept trivial rfl rfl rfl rfl
    next state hsave =>
      cases hstep
      split at hsave
      · cases hsave
      · cases hsave
        exact .saveCalled rfl rfl rfl rfl
  | saveReplied reply =>
    simp only [step, Option.bind_eq_bind, Option.bind_eq_some_iff, Option.pure_def,
      Option.some_inj] at hstep
    obtain ⟨covered, hcovered, ht⟩ := hstep
    exact .saveReplied reply covered hcovered ht.symm
  | restoreDefaults profile =>
    simp only [step] at hstep
    split at hstep
    · cases hstep
      exact .kept trivial rfl rfl rfl rfl
    · cases hstep
      exact .kept trivial rfl rfl rfl rfl
  | clearReplied n reply =>
    simp only [step, Option.bind_eq_bind, Option.bind_eq_some_iff, Option.pure_def,
      Option.some_inj] at hstep
    obtain ⟨call, -, rfl⟩ := hstep
    cases reply with
    | success => exact .marked trivial rfl rfl rfl rfl
    | error name message => exact .kept trivial rfl rfl rfl rfl

/-- Further changes keep the order. -/
theorem Ordered.mark {s t : Session} (h : Ordered s) (hmarked : s.marked ≤ t.marked)
    (hpending : t.pendingSave = s.pendingSave) (hsaves : t.saves = s.saves) : Ordered t where
  pending_le := by
    intro covered hcovered
    rw [hpending] at hcovered
    exact (h.pending_le covered hcovered).trans hmarked
  saves_le := by
    intro earlier hearlier
    rw [hsaves] at hearlier
    exact (h.saves_le earlier hearlier).trans hmarked
  saves_le_pending := by
    rw [hpending, hsaves]
    exact h.saves_le_pending

theorem ordered_step {s t : Session} {a : Label} (h : Ordered s) (hstep : step s a = some t) :
    Ordered t := by
  cases stepKind hstep with
  | kept ha hdirty hmarked hpending hsaves => exact h.mark hmarked.ge hpending hsaves
  | marked ha hdirty hmarked hpending hsaves =>
    exact h.mark (hmarked ▸ Nat.le_succ s.marked) hpending hsaves
  | saveCalled hdirty hmarked hpending hsaves =>
    constructor
    · intro covered hcovered
      rw [hpending, Option.some_inj] at hcovered
      rw [hmarked, hcovered]
    · rw [hsaves, hmarked]
      exact h.saves_le
    · intro covered hcovered
      rw [hpending, Option.some_inj] at hcovered
      rw [hsaves, ← hcovered]
      exact h.saves_le
  | saveReplied reply covered hcovered ht =>
    subst ht
    refine ⟨by simp, ?_, by simp⟩
    intro earlier hearlier
    dsimp only at hearlier
    split at hearlier
    · rcases List.mem_cons.mp hearlier with rfl | hearlier
      · exact h.pending_le _ hcovered
      · exact h.saves_le earlier hearlier
    · exact h.saves_le earlier hearlier

/-- A success leaves the mark away, so it must cover all that was marked. -/
theorem saved_of_success_iff {s : Session} (h : Ordered s) {covered : Nat}
    (hcovered : s.pendingSave = some covered) :
    Session.Saved { s with
        state := s.state.onSaveReplied .success
        pendingSave := none
        saves := covered :: s.saves } ↔ s.pendingSave = some s.marked := by
  have hle : covered ≤ s.marked := h.pending_le covered hcovered
  rw [hcovered, Option.some_inj]
  constructor
  · intro hsaved
    by_contra hne
    obtain ⟨last, hlast, hlt⟩ := hsaved rfl covered (lt_of_le_of_ne hle hne)
    rcases List.mem_cons.mp hlast with rfl | hlast
    · exact absurd hlt (lt_irrefl _)
    · exact absurd (h.saves_le_pending covered hcovered last hlast) (Nat.not_le.mpr hlt)
  · intro heq _ change hchange
    exact ⟨covered, List.mem_cons_self, heq ▸ hchange⟩

theorem saved_step_iff {s t : Session} {a : Label} (h : Ordered s) (hsaved : s.Saved)
    (hstep : step s a = some t) : t.Saved ↔ NoChangeSince s a := by
  cases stepKind hstep with
  | kept ha hdirty hmarked hpending hsaves =>
    refine iff_of_true ?_ ha
    rw [Session.Saved, hdirty, hmarked, hsaves]
    exact hsaved
  | marked ha hdirty hmarked hpending hsaves =>
    refine iff_of_true ?_ ha
    intro hclean
    rw [hdirty] at hclean
    cases hclean
  | saveCalled hdirty hmarked hpending hsaves =>
    refine iff_of_true ?_ trivial
    rw [Session.Saved, hdirty, hmarked, hsaves]
    exact hsaved
  | saveReplied reply covered hcovered ht =>
    subst ht
    cases reply with
    | success => exact saved_of_success_iff h hcovered
    | error name message => exact iff_of_true hsaved trivial

/-- The mark is missing only while everything is saved, in every state of a run, exactly if no
change is marked between a call of `Save` and its reply of success. -/
theorem always_saved_iff (as : List Label) :
    machine.Always Session.Saved {} as ↔ machine.Meets NoChangeSince {} as := by
  have hJ : ∀ s a t, Ordered s → s.Saved → machine.step s a = some t → t.Saved → Ordered t :=
    fun s a t h _ hstep _ => ordered_step h hstep
  have hiff : ∀ s a t, Ordered s → s.Saved → machine.step s a = some t →
      (t.Saved ↔ NoChangeSince s a) := fun s a t h hsaved hstep => saved_step_iff h hsaved hstep
  exact Machine.always_iff_meets hJ hiff ordered_init nofun

/-- A change is made while the first one is being saved. -/
def changeWhileSaving : List Label := [.markDirty, .save, .markDirty, .saveReplied .success]

theorem changeWhileSaving_hidden : ¬ machine.Always Session.Saved {} changeWhileSaving := by
  have hrun : machine.run {} changeWhileSaving =
      some { marked := 2, saves := [1] } := by decide
  intro h
  rw [← List.append_nil changeWhileSaving] at h
  obtain ⟨covered, hcovered, hlt⟩ := h.of_run hrun rfl 1 (by decide)
  simp only [List.mem_singleton] at hcovered
  omega

end Logid.Gui.ConfigState
