import Mathlib.Algebra.Group.Nat.Even
import Logid.Actions.Presses

/-!
# Presses are not lost while what they read is current

A press takes effect with its write. If the setting then is as the press has read it, the write is
the whole press done at once, so the finished presses were done one after another.
-/

namespace Logid.Actions

open Backend.Hidpp20 (Hardware)
open Features (Info)

theorem press_readSetting {info : Info} {hw : Hardware} {press : Press} {task : PressTask}
    (h : press.readSetting info hw = some task) : task.press = press := by
  cases press with
  | toggleSmartShift =>
    obtain ⟨version, -, rfl⟩ := Option.map_eq_some_iff.mp h
    rfl
  | toggleHiresScroll =>
    cases h
    rfl
  | changeDPI inc sensor =>
    simp only [Press.readSetting] at h
    split at h
    · cases h
      rfl
    · cases h

theorem isActive_store (old : UInt8) (active : Bool) :
    Backend.Hidpp20.SmartShift.isActive
      (Backend.Hidpp20.SmartShift.store old ((if active then 1 else 0) + 1)) = active := by
  cases active <;> rfl

/-- A toggle of `SmartShift` inverts the state. -/
theorem isActive_effect {info : Info} {hw hw' : Hardware}
    (hsupported : Press.toggleSmartShift.supported info = true)
    (h : Press.toggleSmartShift.effect info hw = some hw') :
    Backend.Hidpp20.SmartShift.isActive hw'.wheelMode =
      !Backend.Hidpp20.SmartShift.isActive hw.wheelMode := by
  obtain ⟨version, hversion⟩ := Option.isSome_iff_exists.mp hsupported
  simp only [Press.effect, Press.readSetting, hversion, Option.map_some, PressTask.write,
    Option.some_inj] at h
  subst h
  exact isActive_store _ _

theorem scrollMode_effect {info : Info} {hw hw' : Hardware}
    (h : Press.toggleHiresScroll.effect info hw = some hw') :
    hw'.scrollMode = hw.scrollMode ^^^ Backend.Hidpp20.HiresScroll.hiRes := by
  cases h
  rfl

namespace Presses

theorem act_eq_write {info : Info} {s : Shared} {task : PressTask}
    (h : ∀ press, task ≠ .read press) :
    act info s task =
      (task.write info s.hardware).map fun hw => ({ s with hardware := hw }, [], none) := by
  cases task with
  | read press => exact absurd rfl (h press)
  | _ => rfl

theorem system_operates (info : Info) :
    (system info).Operates PressTask.press Shared.pressed Shared.hardware where
  outside := by
    intro s press x new h
    simp only [system] at h
    split at h
    · cases h
      exact ⟨rfl, List.Perm.refl _⟩
    · cases h
      exact ⟨rfl, List.Perm.refl _⟩
  act := by
    intro s task e x new rest h
    by_cases hread : ∃ press, task = .read press
    · obtain ⟨press, rfl⟩ := hread
      cases h
      refine ⟨rfl, rfl, ?_⟩
      cases hsetting : press.readSetting info s.hardware with
      | none => exact .inr rfl
      | some task => exact .inl ⟨task, rfl, press_readSetting hsetting, rfl⟩
    · push Not at hread
      obtain ⟨hw, -, heq⟩ := Option.map_eq_some_iff.mp ((act_eq_write hread).symm.trans h)
      cases heq
      exact ⟨rfl, rfl, .inr rfl⟩

/-- The last step of a task has the effect of the whole press, when what it read is current. -/
theorem effect_of_last {info : Info} {s : Shared} {task : PressTask} {x : Shared}
    (hcurrent : (∀ press, task ≠ .read press) →
      task.write info s.hardware = task.press.effect info s.hardware)
    (h : act info s task = some (x, [], none)) :
    task.press.effect info s.hardware = some x.hardware := by
  by_cases hread : ∃ press, task = .read press
  · obtain ⟨press, rfl⟩ := hread
    simp only [act, Option.some_inj, Prod.mk.injEq] at h
    obtain ⟨rfl, -, hnone⟩ := h
    simp only [PressTask.press, Press.effect, hnone]
  · push Not at hread
    rw [← hcurrent hread]
    obtain ⟨hw, hwrite, heq⟩ := Option.map_eq_some_iff.mp ((act_eq_write hread).symm.trans h)
    cases heq
    exact hwrite

/-- The presses are those of features that the device has, and they are not lost. -/
structure Invariant (info : Info) (hw : Hardware) (s : State) : Prop where
  supported : ∀ press ∈ s.shared.pressed, press.supported info = true
  serial : JobSystem.Serial PressTask.press Shared.pressed Shared.hardware (Press.effect info) hw s

theorem invariant_step {info : Info} {workers : Nat} {hw : Hardware} {s t : State} {a : Label}
    (h : Invariant info hw s) (hcurrent : ReadIsCurrent info s a)
    (hstep : (system info).step workers s a = some t) : Invariant info hw t where
  supported := by
    cases JobSystem.step_transition hstep with
    | outside hresult hshared _ =>
      subst hshared
      simp only [system] at hresult
      split at hresult
      next hsupported =>
        simp only [Option.some_inj, Prod.mk.injEq] at hresult
        rw [← hresult.1]
        exact List.forall_mem_cons.mpr ⟨hsupported, h.supported⟩
      next =>
        simp only [Option.some_inj, Prod.mk.injEq] at hresult
        rw [← hresult.1]
        exact h.supported
    | start hshared _ =>
      rw [hshared]
      exact h.supported
    | act _ hresult hshared _ _ =>
      subst hshared
      rw [((system_operates info).act hresult).2.1]
      exact h.supported
  serial := by
    apply h.serial.step (system_operates info) hstep
    intro i e task x heq hruns hlast
    subst heq
    exact effect_of_last (hcurrent task hruns) hlast

theorem invariant_init (info : Info) (workers : Nat) (hw : Hardware) :
    Invariant info hw (machine info workers hw).init where
  supported := by simp [machine, JobSystem.machine]
  serial := by
    show JobSystem.Serial _ _ _ _ (Shared.hardware { hardware := hw, pressed := [] }) _
    exact JobSystem.serial_init workers rfl

theorem noLostPress_of_invariant {info : Info} {hw : Hardware} {s : State}
    (h : Invariant info hw s) : NoLostPress info hw s := by
  intro hquiet
  obtain ⟨order, hperm, hperform⟩ := h.serial.quiet hquiet
  refine ⟨⟨order, hperm, hperform⟩, fun heven => ⟨?_, ?_⟩⟩
  · intro hall
    have hstep : ∀ press ∈ order, ∀ v w, press.effect info v = some w →
        Backend.Hidpp20.SmartShift.isActive w.wheelMode =
          !Backend.Hidpp20.SmartShift.isActive v.wheelMode := by
      intro press hpress v w hw
      have hmem := hperm.mem_iff.mp hpress
      rw [hall press hmem] at hw
      exact isActive_effect (by rw [← hall press hmem]; exact h.supported press hmem) hw
    have hiterate := JobSystem.perform_iterate (g := not) hstep hperform
    rw [hperm.length_eq, Bool.involutive_not.iterate_even heven] at hiterate
    exact hiterate
  · intro hall
    have hstep : ∀ press ∈ order, ∀ v w, press.effect info v = some w →
        w.scrollMode = v.scrollMode ^^^ Backend.Hidpp20.HiresScroll.hiRes := by
      intro press hpress v w hw
      rw [hall press (hperm.mem_iff.mp hpress)] at hw
      exact scrollMode_effect hw
    have hinvolutive : Function.Involutive
        fun mode : UInt8 => mode ^^^ Backend.Hidpp20.HiresScroll.hiRes := by
      intro mode
      show mode ^^^ _ ^^^ _ = mode
      rw [UInt8.xor_assoc, UInt8.xor_self, UInt8.xor_zero]
    have hiterate := JobSystem.perform_iterate
      (g := fun mode : UInt8 => mode ^^^ Backend.Hidpp20.HiresScroll.hiRes) hstep hperform
    rw [hperm.length_eq, hinvolutive.iterate_even heven] at hiterate
    exact hiterate

/-- No press is lost in a run in which every task that writes finds the setting as it has read it. -/
theorem noLostPress_of_readIsCurrent (info : Info) (workers : Nat) (hw : Hardware)
    (as : List Label)
    (h : (machine info workers hw).Meets (ReadIsCurrent info) (machine info workers hw).init as) :
    (machine info workers hw).Always (NoLostPress info hw) (machine info workers hw).init as :=
  Machine.always_of_meets (fun _ => noLostPress_of_invariant)
    (fun _ _ _ hi hc hstep => invariant_step hi hc hstep) (invariant_init info workers hw) h

/-- A wheel in ratchet mode. -/
def ratchet : Hardware where
  dpi _ := 0
  wheelMode := 2
  autoDisengage := 10
  torque := 0
  scrollMode := 0
  thumbDiverted := false
  thumbInverted := false

/-- Two presses; the second task reads after the first has written. -/
def oneAfterAnother : List Label := [
  .outside .toggleSmartShift, .outside .toggleSmartShift, .start 0, .start 0,
  .act 0 (), .act 0 (), .act 0 (), .act 0 ()]

theorem noLostPress_oneAfterAnother :
    (machine { smartShift := some .v1 } 2 ratchet).Always
      (NoLostPress { smartShift := some .v1 } ratchet)
      (machine { smartShift := some .v1 } 2 ratchet).init oneAfterAnother := by
  apply noLostPress_of_readIsCurrent
  have hread : ∀ {info : Info} {s : State} {i : Nat} {press : Press},
      s.running[i]? = some (.read press) → ReadIsCurrent info s (.act i ()) := by
    intro info s i press hruns task htask hnot
    rw [hruns, Option.some_inj] at htask
    exact absurd htask.symm (hnot press)
  refine .cons rfl trivial (.cons rfl trivial (.cons rfl trivial (.cons rfl trivial ?_)))
  refine .cons rfl (hread rfl) (.cons rfl ?_ (.cons rfl (hread rfl) (.cons rfl ?_ trivial)))
  · intro task htask _
    cases htask
    rfl
  · intro task htask _
    cases htask
    rfl

/-- Two presses; both tasks read before one writes. -/
def bothReadFirst : List Label := [
  .outside .toggleSmartShift, .outside .toggleSmartShift, .start 0, .start 0,
  .act 0 (), .act 1 (), .act 0 (), .act 0 ()]

theorem bothReadFirst_loses_press :
    ¬ (machine { smartShift := some .v1 } 2 ratchet).Always
      (NoLostPress { smartShift := some .v1 } ratchet)
      (machine { smartShift := some .v1 } 2 ratchet).init bothReadFirst := by
  intro h
  rw [← List.append_nil bothReadFirst] at h
  have hend := h.of_run rfl
  have hactive := ((hend ⟨rfl, rfl⟩).2 (by decide)).1 (by decide)
  cases hactive

end Presses

end Logid.Actions
