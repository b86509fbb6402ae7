import Logid.Gui.DaemonConnection

/-!
# When the screen is right

Once the last `Enumerate` has succeeded the screen should tell whether a device is held. A reply to
an earlier call that fails then takes the screen away, an earlier failure is never repaired by the
last success, and the first device that a signal adds leaves the screen empty. Those steps apart, the
screen stays right.
-/

namespace Logid.Gui.DaemonConnection

open Session

/-- The calls of `Enumerate` and what became of the last one are as they were. -/
structure SameCalls (s t : Session) : Prop where
  enumerates : t.enumerates = s.enumerates
  lastEnumerate : t.lastEnumerate = s.lastEnumerate
  succeeded : t.succeeded = s.succeeded
  nameLost : t.nameLost = s.nameLost

theorem SameCalls.refl (s : Session) : SameCalls s s := ⟨rfl, rfl, rfl, rfl⟩

theorem SameCalls.trans {s t u : Session} (h : SameCalls s t) (h' : SameCalls t u) : SameCalls s u where
  enumerates := h'.enumerates.trans h.enumerates
  lastEnumerate := h'.lastEnumerate.trans h.lastEnumerate
  succeeded := h'.succeeded.trans h.succeeded
  nameLost := h'.nameLost.trans h.nameLost

theorem SameCalls.settled_iff {s t : Session} (h : SameCalls s t) : t.Settled ↔ s.Settled := by
  rw [Settled, Settled, h.succeeded, h.nameLost]

theorem sameCalls_recomputePopulation (s : Session) : SameCalls s s.recomputePopulation := by
  unfold recomputePopulation
  split <;> exact ⟨rfl, rfl, rfl, rfl⟩

theorem sameCalls_addDevice (s : Session) (path : String) : SameCalls s (s.addDevice path) := by
  unfold addDevice
  split <;> exact ⟨rfl, rfl, rfl, rfl⟩

theorem sameCalls_foldl_addDevice (paths : List String) :
    ∀ s : Session, SameCalls s (paths.foldl addDevice s) := by
  induction paths with
  | nil => exact SameCalls.refl
  | cons path paths ih =>
    intro s
    exact (sameCalls_addDevice s path).trans (ih (s.addDevice path))

/-- A failed `Enumerate` shows one of the two errors. -/
theorem onEnumerated_error (s : Session) (name : String) :
    ∃ state, (state = .accessDenied ∨ state = .daemonDown) ∧
      s.onEnumerated (.error name) = s.setScreenState state := by
  rw [onEnumerated]
  by_cases hname : name = "org.freedesktop.DBus.Error.AccessDenied"
  · exact ⟨.accessDenied, .inl rfl, if_pos hname⟩
  · exact ⟨.daemonDown, .inr rfl, if_neg hname⟩

theorem sameCalls_onEnumerated (s : Session) (reply : EnumerateReply) :
    SameCalls s (s.onEnumerated reply) := by
  cases reply with
  | paths paths =>
    cases paths with
    | nil => exact ⟨rfl, rfl, rfl, rfl⟩
    | cons path paths =>
      exact (sameCalls_foldl_addDevice (path :: paths) s).trans (sameCalls_recomputePopulation _)
  | error name =>
    obtain ⟨state, -, heq⟩ := onEnumerated_error s name
    rw [heq]
    exact ⟨rfl, rfl, rfl, rfl⟩

/-- The reply to a `GetAll` recomputes after a change of the rows, or is ignored. -/
theorem onProperties_cases (s : Session) (path : String) (reply : GetAllReply) :
    (∃ model, s.onProperties path reply = recomputePopulation { s with model := model }) ∨
      s.onProperties path reply = s := by
  unfold onProperties
  by_cases hhas : s.deviceProxies.Has path
  · exact .inl ⟨_, if_pos hhas⟩
  · rw [if_neg hhas]
    cases reply with
    | properties props => exact .inr rfl
    | error => exact .inl ⟨s.model, rfl⟩

theorem sameCalls_noteAnswer (s : Session) (path : String) (number : Nat) (reply : GetAllReply) :
    SameCalls s (s.noteAnswer path number reply) := by
  unfold noteAnswer
  split
  · exact SameCalls.refl s
  · split
    · split <;> exact ⟨rfl, rfl, rfl, rfl⟩
    · exact SameCalls.refl s

/-! ## The screen -/

theorem population_of_noProxies {s : Session} (h : s.NoProxies) : s.population = .empty := if_pos h

theorem population_of_proxies {s : Session} (h : ¬ s.NoProxies) : s.population = .populated := if_neg h

/-- The screen and whether it can be empty are as they were. -/
structure SameScreen (s t : Session) : Prop where
  screenState : t.screenState = s.screenState
  noProxies : t.NoProxies ↔ s.NoProxies

theorem SameScreen.screenRight_iff {s t : Session} (h : SameScreen s t) (hcalls : SameCalls s t) :
    t.ScreenRight ↔ s.ScreenRight := by
  unfold ScreenRight population
  rw [hcalls.settled_iff, h.screenState]
  simp only [h.noProxies]

/-- The screen is not one that a recomputation leaves alone. -/
def Recomputes (s : Session) : Prop := s.screenState ≠ .daemonDown ∧ s.screenState ≠ .accessDenied

theorem recomputes_of_population {s : Session} (h : s.screenState = s.population) : Recomputes s := by
  unfold population at h
  split at h <;> simp [Recomputes, h]

/-- A recomputation makes the screen right unless it leaves it alone. -/
theorem recomputePopulation_right_iff {s : Session} :
    s.recomputePopulation.screenState = s.recomputePopulation.population ↔ Recomputes s := by
  unfold recomputePopulation
  split
  next herror =>
    refine iff_of_false ?_ ?_
    · intro h
      exact herror.elim (recomputes_of_population h).1 (recomputes_of_population h).2
    · intro h
      exact herror.elim h.1 h.2
  next herror =>
    push Not at herror
    exact iff_of_true rfl herror

theorem noProxies_addDevice {s : Session} {path : String} :
    (s.addDevice path).NoProxies ↔ s.NoProxies ∧ path = "" := by
  unfold addDevice
  split
  next hguard =>
    rcases hguard with rfl | hhas
    · simp
    · have hsome : ¬ s.NoProxies := by
        intro hnone
        rw [AssocMap.Has, show s.deviceProxies.entries = [] from hnone] at hhas
        cases hhas
      exact iff_of_false hsome fun h => hsome h.1
  next hguard =>
    push Not at hguard
    refine iff_of_false ?_ fun h => hguard.1 h.2
    simp [NoProxies, AssocMap.emplace_entries hguard.2]

theorem screenState_addDevice (s : Session) (path : String) :
    (s.addDevice path).screenState = s.screenState := by
  unfold addDevice
  split <;> rfl

theorem screenState_foldl_addDevice (paths : List String) :
    ∀ s : Session, (paths.foldl addDevice s).screenState = s.screenState := by
  induction paths with
  | nil => exact fun _ => rfl
  | cons path paths ih =>
    intro s
    exact (ih (s.addDevice path)).trans (screenState_addDevice s path)

/-- What the replies to `Enumerate` make of the screen. -/
theorem onEnumerated_right_iff {s : Session} (reply : EnumerateReply) :
    (s.onEnumerated reply).screenState = (s.onEnumerated reply).population ↔
      match reply with
      | .paths [] => s.NoProxies
      | .paths (_ :: _) => Recomputes s
      | .error _ => False := by
  cases reply with
  | paths paths =>
    cases paths with
    | nil =>
      by_cases hnone : s.NoProxies
      · exact iff_of_true (population_of_noProxies hnone).symm hnone
      · refine iff_of_false ?_ hnone
        intro h
        have hpopulated : s.population = .populated := population_of_proxies hnone
        have hempty : ScreenState.empty = .populated := h.trans hpopulated
        cases hempty
    | cons path paths =>
      have hscreen := screenState_foldl_addDevice (path :: paths) s
      refine recomputePopulation_right_iff.trans ?_
      rw [Recomputes, hscreen]
      exact Iff.rfl
  | error name =>
    refine iff_of_false ?_ not_false
    intro h
    have hrecomputes := recomputes_of_population h
    obtain ⟨state, hstate, heq⟩ := onEnumerated_error s name
    rw [heq] at hrecomputes
    rcases hstate with rfl | rfl
    · exact hrecomputes.2 rfl
    · exact hrecomputes.1 rfl

theorem enumerated_right_iff {s t : Session} {number : Nat} {reply : EnumerateReply}
    (hright : s.ScreenRight) (hstep : step s (.enumerated number reply) = some t) :
    t.ScreenRight ↔ KeepsScreen s (.enumerated number reply) := by
  simp only [step] at hstep
  split at hstep
  next hpending =>
    rw [Option.some_inj] at hstep
    subst hstep
    rw [ScreenRight, (sameCalls_onEnumerated _ reply).settled_iff, onEnumerated_right_iff]
    cases reply with
    | error name => simp [Settled, KeepsScreen, takeEnumerate, EnumerateReply.isSuccess]
    | paths paths =>
      by_cases hlast : number = s.lastEnumerate
      · have hsucceeded : (s.takeEnumerate number (.paths paths)).succeeded = true := by
          simp [takeEnumerate, EnumerateReply.isSuccess, hlast]
        have hlost : (s.takeEnumerate number (.paths paths)).nameLost = s.nameLost := rfl
        rw [Settled, hsucceeded, hlost]
        cases paths <;> simp [KeepsScreen, hlast, Recomputes, NoProxies, takeEnumerate]
      · have hsettled : (s.takeEnumerate number (.paths paths)).Settled ↔ s.Settled := by
          simp [Settled, takeEnumerate, hlast]
        rw [hsettled]
        cases paths with
        | nil => simp [KeepsScreen, hlast, NoProxies, takeEnumerate]
        | cons path paths =>
          -- an older reply with devices finds a screen that is right
          refine iff_of_true ?_ (by simp [KeepsScreen, hlast])
          exact fun hold => recomputes_of_population (hright hold)
  next => cases hstep

theorem sameScreen_noteAnswer (s : Session) (path : String) (number : Nat) (reply : GetAllReply) :
    SameScreen s (s.noteAnswer path number reply) := by
  unfold noteAnswer
  split
  · exact ⟨rfl, Iff.rfl⟩
  · split
    · split
      · exact ⟨rfl, by simp [NoProxies, AssocMap.set]⟩
      · exact ⟨rfl, Iff.rfl⟩
    · exact ⟨rfl, Iff.rfl⟩

/-- A recomputation keeps a right screen, also after a change of the rows and the proxies. -/
theorem screenRight_recompute {s t : Session} (h : s.ScreenRight) (hcalls : SameCalls s t)
    (hscreen : t.screenState = s.screenState) : t.recomputePopulation.ScreenRight := by
  intro hsettled
  rw [(sameCalls_recomputePopulation t).settled_iff, hcalls.settled_iff] at hsettled
  have hrecomputes : Recomputes s := recomputes_of_population (h hsettled)
  rw [recomputePopulation_right_iff, Recomputes, hscreen]
  exact hrecomputes

theorem onProperties_right {s : Session} (h : s.ScreenRight) (path : String) (reply : GetAllReply) :
    (s.onProperties path reply).ScreenRight := by
  rcases onProperties_cases s path reply with ⟨model, heq⟩ | heq
  · rw [heq]
    exact screenRight_recompute h ⟨rfl, rfl, rfl, rfl⟩ rfl
  · rw [heq]
    exact h

theorem addDevice_right_iff {s : Session} (hright : s.ScreenRight) (path : String) :
    (s.addDevice path).ScreenRight ↔ (s.Settled → path = "" ∨ ¬ s.NoProxies) := by
  rw [ScreenRight, (sameCalls_addDevice s path).settled_iff, screenState_addDevice]
  refine imp_congr_right fun hsettled => ?_
  rw [hright hsettled]
  by_cases hnone : s.NoProxies
  · rw [population_of_noProxies hnone]
    by_cases hpath : path = ""
    · have hstill : (s.addDevice path).NoProxies := noProxies_addDevice.mpr ⟨hnone, hpath⟩
      exact iff_of_true (population_of_noProxies hstill).symm (.inl hpath)
    · have hheld : ¬ (s.addDevice path).NoProxies := fun h => hpath (noProxies_addDevice.mp h).2
      rw [population_of_proxies hheld]
      simp [hpath, hnone]
  · have hheld : ¬ (s.addDevice path).NoProxies := fun h => hnone (noProxies_addDevice.mp h).1
    rw [population_of_proxies hnone, population_of_proxies hheld]
    exact iff_of_true rfl (.inr hnone)

theorem screenRight_step_iff {s t : Session} {a : Label} (hright : s.ScreenRight)
    (hstep : step s a = some t) : t.ScreenRight ↔ KeepsScreen s a := by
  cases a with
  | enumerated number reply => exact enumerated_right_iff hright hstep
  | daemonUp =>
    cases hstep
    exact iff_of_true (fun hsettled => absurd hsettled.1 Bool.false_ne_true) trivial
  | daemonDown =>
    cases hstep
    exact iff_of_true (fun hsettled => absurd hsettled.2 (by simp [onDaemonDown])) trivial
  | retry =>
    cases hstep
    exact iff_of_true (fun hsettled => absurd hsettled.1 Bool.false_ne_true) trivial
  | deviceAdded path =>
    cases hstep
    exact addDevice_right_iff hright path
  | deviceRemoved path =>
    cases hstep
    exact iff_of_true (screenRight_recompute hright ⟨rfl, rfl, rfl, rfl⟩ rfl) trivial
  | properties path number reply =>
    refine iff_of_true ?_ trivial
    simp only [step] at hstep
    split at hstep
    · cases hstep
      rw [(sameScreen_noteAnswer _ path number reply).screenRight_iff
        (sameCalls_noteAnswer _ path number reply)]
      have hright' : (s.takeGetAll path number).ScreenRight := hright
      exact onProperties_right hright' path reply
    · cases hstep
  | statusChanged path active =>
    cases hstep
    exact iff_of_true hright trivial
  | batteryChanged path percent charging known =>
    cases hstep
    exact iff_of_true hright trivial

/-- The screen is right in every state of a run exactly if none of its steps is one of the three: a
late failure of an earlier call, a success that finds an earlier failure or, without devices, a
proxy, and the first device added by a signal. -/
theorem always_screenRight_iff (as : List Label) :
    machine.Always ScreenRight constructed as ↔ machine.Meets KeepsScreen constructed as := by
  have hiff : ∀ s a t, True → s.ScreenRight → machine.step s a = some t →
      (t.ScreenRight ↔ KeepsScreen s a) := fun s a t _ hright hstep =>
    screenRight_step_iff hright hstep
  have hinit : constructed.ScreenRight := fun hsettled => absurd hsettled.1 Bool.false_ne_true
  exact Machine.always_iff_meets (fun _ _ _ _ _ _ _ => trivial) hiff trivial hinit

/-- The daemon starts late: the call of the constructor fails after that of the restart was sent. -/
def lateStart : List Label := [
  .daemonUp, .enumerated 1 (.error "org.freedesktop.DBus.Error.ServiceUnknown"),
  .enumerated 2 (.paths ["/pizza/pixl/logiops/devices/0"])]

theorem lateStart_daemonDown : ¬ machine.Always ScreenRight constructed lateStart := by
  have hrun : (machine.run constructed lateStart).map
      (fun s => (s.screenState, s.succeeded, s.nameLost)) = some (.daemonDown, true, false) := by
    decide
  intro h
  obtain ⟨s, hs, heq⟩ := Option.map_eq_some_iff.mp hrun
  simp only [Prod.mk.injEq] at heq
  obtain ⟨hdown, hsucceeded, hlost⟩ := heq
  rw [← List.append_nil lateStart] at h
  have hright : s.screenState = s.population := h.of_run hs ⟨hsucceeded, hlost⟩
  exact (recomputes_of_population hright).1 hdown

end Logid.Gui.DaemonConnection
