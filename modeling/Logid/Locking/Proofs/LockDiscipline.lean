import Logid.Locking.Device

/-!
# Whether an operation takes a lock it holds

The locks of each function are bounded bottom up, by the rules of `LockProgram.Acquires`. No
feature takes a lock of the device but the battery, which stores what it has read under
`_state_lock`; and `wakeup` holds that lock while it reconfigures the features.
-/

namespace Logid.Locking

open LockProgram

variable (d : Device) (S : Set Lock)

theorem acquires_call : Acquires (call d) S := by
  refine (acquires_get S).bind fun s => (acquires_modify _ S).bind fun _ => ?_
  exact acquires_ofExcept _ S

theorem acquires_command : Acquires (command d) S :=
  (acquires_call d S).bind fun _ => acquires_pure _ S

theorem acquires_lookup : Acquires (lookup d) S := by
  refine Acquires.bind ?_ fun index => ?_
  · refine (acquires_call d S).handle fun e => ?_
    exact (acquires_raise _ S).ite (acquires_raise _ S)
  · exact (acquires_raise _ S).ite (acquires_pure _ S)

theorem acquires_config (f : Feature) : Acquires f.config S :=
  (acquires_get S).bind fun _ => acquires_pure _ S

theorem acquires_ignoring {caught : Exception → Bool} {p : Program Unit} {S : Set Lock}
    (h : Acquires p S) : Acquires (ignoring caught p) S := by
  refine h.handle fun e => ?_
  exact (acquires_pure _ S).ite (acquires_raise _ S)

theorem acquires_registerKey (key : EventCode) : Acquires (registerKey d key) S := by
  cases key with
  | name =>
    exact acquires_ignoring ((acquires_command d S).bind fun _ => acquires_command d S)
  | code => exact acquires_command d S

theorem acquires_makeBasicAction (action : BasicAction) :
    Acquires (makeBasicAction d action) S := by
  cases action with
  | keypress keys => exact acquires_forM fun key _ => acquires_registerKey d S key
  | changeHost => exact acquires_ignoring (acquires_lookup d S)
  | _ => exact acquires_pure _ S

theorem acquires_makeOptional (action : Option BasicAction) :
    Acquires (makeOptional d action) S := by
  cases action with
  | none => exact acquires_pure _ S
  | some action => exact acquires_makeBasicAction d S action

theorem acquires_makeGesture (gesture : Gesture) : Acquires (makeGesture d gesture) S := by
  cases gesture with
  | none => exact acquires_pure _ S
  | axis axis =>
    rcases axis with _ | _ | _
    · exact acquires_pure _ S
    · refine Acquires.bind ?_ fun known => (acquires_command d S).ite (acquires_pure _ S)
      refine ((acquires_command d S).bind fun _ => acquires_pure _ S).handle fun e => ?_
      exact (acquires_pure _ S).ite (acquires_raise _ S)
    · exact acquires_command d S
  | interval action => exact acquires_ignoring (acquires_makeOptional d S action)
  | release action => exact acquires_makeOptional d S action
  | threshold action => exact acquires_ignoring (acquires_makeOptional d S action)

theorem acquires_makeAction (action : Action) : Acquires (makeAction d action) S := by
  cases action with
  | basic action => exact acquires_makeBasicAction d S action
  | gestures gestures =>
    refine acquires_forM fun x _ => acquires_ignoring ?_
    exact (acquires_makeGesture d S x.2).ite (acquires_raise _ S)

theorem acquires_setBattery (notifies : Bool) : Acquires (d.setBattery notifies) {.state} :=
  Acquires.withLock rfl ((acquires_command d _).ite (acquires_pure _ _))

/-- The locks that belong to the features. -/
def featureLocks : Set Lock := {l | l ≠ .state ∧ l ≠ .profile}

theorem acquires_fillDPILists {S : Set Lock} (hlists : .dpiLists ∈ S) (sensor : UInt8) :
    Acquires (DPI.fillDPILists d sensor) S := by
  refine Acquires.bind (Acquires.withLock hlists ?_) fun needsFill => ?_
  · exact (acquires_get _).bind fun s => acquires_pure _ _
  · refine Acquires.ite (Acquires.withLock hlists ?_) (acquires_pure _ S)
    refine (acquires_get _).bind fun s => acquires_forM fun _ _ => ?_
    exact (acquires_command d _).bind fun _ => acquires_modify _ _

theorem acquires_setSensorDPI (i : Nat) : Acquires (DPI.setSensorDPI d i) S :=
  (acquires_get S).bind fun _ => (acquires_raise _ S).ite (acquires_command d S)

theorem acquires_setSensorDPIs (i : Nat) (dpis : List Int) :
    Acquires (DPI.setSensorDPIs d i dpis) S := by
  induction dpis generalizing i with
  | nil => exact acquires_pure _ S
  | cons dpi dpis ih =>
    have hrest : Acquires (DPI.setSensorDPIs d (i + 1) dpis) S := ih (i + 1)
    refine Acquires.ite ?_ hrest
    exact (acquires_setSensorDPI d S i).bind fun _ => hrest

theorem acquires_configureDPI : Acquires (DPI.configure d) featureLocks := by
  have hlists : Lock.dpiLists ∈ featureLocks \ {Lock.dpiConfig} := ⟨⟨nofun, nofun⟩, nofun⟩
  refine Acquires.withLock ⟨nofun, nofun⟩ ((acquires_config _ .dpi).bind fun config => ?_)
  split
  · exact acquires_pure _ _
  · refine (acquires_fillDPILists d hlists 0).bind fun _ => Acquires.withLock hlists ?_
    exact (acquires_setSensorDPI d _ 0).ite (acquires_pure _ _)
  · refine (acquires_pure _ _).ite ?_
    refine (acquires_fillDPILists d hlists _).bind fun _ => Acquires.withLock hlists ?_
    exact acquires_setSensorDPIs d _ 0 _

theorem acquires_configureSmartShift : Acquires (SmartShift.configure d) featureLocks := by
  refine Acquires.withLock ⟨nofun, nofun⟩ ((acquires_config _ .smartShift).bind fun config => ?_)
  exact (acquires_command d _).ite (acquires_pure _ _)

theorem acquires_configureHiresScroll : Acquires (HiresScroll.configure d) featureLocks :=
  Acquires.withLock ⟨nofun, nofun⟩ ((acquires_command d _).bind fun _ => acquires_command d _)

theorem acquires_configureRemapButton : Acquires (RemapButton.configure d) featureLocks :=
  acquires_forM fun _ _ => Acquires.withLock ⟨nofun, nofun⟩ (acquires_command d _)

theorem acquires_configureThumbWheel : Acquires (ThumbWheel.configure d) featureLocks := by
  refine Acquires.withLock ⟨nofun, nofun⟩ ((acquires_config _ .thumbWheel).bind fun config => ?_)
  exact (acquires_command d _).ite (acquires_pure _ _)

/-- The battery is the only feature that takes a lock of the device. -/
theorem acquires_configureBattery : Acquires (DeviceBattery.configure d) {.state} :=
  acquires_ignoring ((acquires_command d _).bind fun _ => acquires_setBattery d false)

theorem acquires_configure {f : Feature} (hf : f ≠ .deviceBattery) :
    Acquires (f.configure d) featureLocks := by
  cases f with
  | dpi => exact acquires_configureDPI d
  | smartShift => exact acquires_configureSmartShift d
  | hiresScroll => exact acquires_configureHiresScroll d
  | remapButton => exact acquires_configureRemapButton d
  | deviceStatus => exact acquires_pure _ _
  | deviceBattery => exact absurd rfl hf
  | thumbWheel => exact acquires_configureThumbWheel d

theorem acquires_makeWheelGesture {S : Set Lock} (side : Side) (hside : .gesture side ∈ S)
    (gesture : Option Gesture) : Acquires (HiresScroll.makeWheelGesture d side gesture) S := by
  have hpress : ∀ g, Acquires (HiresScroll.press side g) S := by
    intro g
    cases g with
    | none => exact acquires_pure _ S
    | _ => exact Acquires.withLock hside (acquires_pure _ _)
  have hfix : ∀ g, Acquires (HiresScroll.fixGesture d side g) S := by
    intro g
    cases g with
    | axis axis => exact (acquires_command d S).bind fun _ => hpress _
    | _ => exact hpress _
  cases gesture with
  | none => exact acquires_pure _ S
  | some g => exact (acquires_makeGesture d S g).bind fun _ => hfix g

theorem acquires_setProfileHiresScroll (profile : Profile) :
    Acquires (HiresScroll.setProfile d profile) featureLocks := by
  have hside : ∀ side, Lock.gesture side ∈ featureLocks \ {Lock.hiresScrollConfig} :=
    fun side => ⟨⟨nofun, nofun⟩, nofun⟩
  refine Acquires.withLock ⟨nofun, nofun⟩ ((acquires_modify _ _).bind fun _ => ?_)
  refine (acquires_config _ .hiresScroll).bind fun config => ?_
  split
  · refine (acquires_makeWheelGesture d .up (hside .up) _).bind fun _ => ?_
    exact acquires_makeWheelGesture d .down (hside .down) _
  · exact acquires_pure _ _

theorem acquires_setProfileRemapButton (profile : Profile) :
    Acquires (RemapButton.setProfile d profile) featureLocks := by
  refine Acquires.withLock ⟨nofun, nofun⟩ ((acquires_modify _ _).bind fun _ => ?_)
  refine acquires_forM fun cid _ => Acquires.withLock ⟨⟨nofun, nofun⟩, nofun⟩ ?_
  split
  · exact acquires_ignoring (acquires_makeAction d _ _)
  · exact acquires_pure _ _

theorem acquires_setProfileThumbWheel (profile : Profile) :
    Acquires (ThumbWheel.setProfile d profile) featureLocks := by
  have hgesture : ∀ S g, Acquires (ThumbWheel.genGesture d g) S := by
    intro S g
    cases g with
    | none => exact acquires_pure _ S
    | some g => exact acquires_ignoring (acquires_makeGesture d S g)
  have haction : ∀ S a, Acquires (ThumbWheel.genAction d a) S := by
    intro S a
    cases a with
    | none => exact acquires_pure _ S
    | some a => exact acquires_ignoring (acquires_makeBasicAction d S a)
  refine Acquires.withLock ⟨nofun, nofun⟩ ((acquires_modify _ _).bind fun _ => ?_)
  refine (acquires_config _ .thumbWheel).bind fun config => ?_
  split
  · refine (hgesture _ _).bind fun _ => (hgesture _ _).bind fun _ => ?_
    refine (haction _ _).bind fun _ => (haction _ _).bind fun _ => ?_
    exact haction _ _
  · exact acquires_pure _ _

theorem acquires_setProfile (profile : Profile) (f : Feature) :
    Acquires (f.setProfile d profile) featureLocks := by
  cases f with
  | dpi => exact Acquires.withLock ⟨nofun, nofun⟩ (acquires_modify _ _)
  | smartShift => exact Acquires.withLock ⟨nofun, nofun⟩ (acquires_modify _ _)
  | hiresScroll => exact acquires_setProfileHiresScroll d profile
  | remapButton => exact acquires_setProfileRemapButton d profile
  | deviceStatus => exact acquires_pure _ _
  | deviceBattery => exact acquires_pure _ _
  | thumbWheel => exact acquires_setProfileThumbWheel d profile

theorem acquires_reset : Acquires d.reset S := by
  refine Acquires.ite ?_ (acquires_pure _ S)
  refine (acquires_lookup d S).bind fun _ => (acquires_command d S).bind fun _ => ?_
  exact acquires_command d S

/-- Without a battery no feature takes `_state_lock`. -/
theorem acquires_reconfigure_features (hbattery : d.has .deviceBattery = false) :
    Acquires d.reconfigure featureLocks := by
  refine (acquires_reset d _).bind fun _ => acquires_forM fun f hf => acquires_configure d ?_
  intro heq
  subst heq
  rw [Device.features, List.mem_filter, hbattery] at hf
  cases hf.2

theorem acquires_reconfigure : Acquires d.reconfigure {l | l ≠ .profile} := by
  refine (acquires_reset d _).bind fun _ => acquires_forM fun f _ => ?_
  by_cases hf : f = .deviceBattery
  · subst hf
    refine (acquires_configureBattery d).mono ?_
    intro l heq
    subst heq
    exact nofun
  · exact (acquires_configure d hf).mono fun l hl => hl.2

theorem acquires_applyProfile (profile : Profile) :
    Acquires (d.applyProfile profile) {l | l ≠ .profile} := by
  refine (acquires_forM fun f _ => ?_).bind fun _ => acquires_reconfigure d
  exact (acquires_setProfile d profile f).mono fun l hl => hl.2

/-- Every operation but `wakeup` can take all its locks. -/
theorem acquires_run {op : Operation} (hop : op ≠ .wakeup) : Acquires (op.run d) Set.univ := by
  have hprofile : (Set.univ : Set Lock) \ {.profile} = {l | l ≠ .profile} := by
    ext l
    exact ⟨And.right, fun hl => ⟨trivial, hl⟩⟩
  cases op with
  | sleep =>
    refine Acquires.withLock (Set.mem_univ _) ((acquires_get _).bind fun s => ?_)
    refine Acquires.ite ?_ (acquires_pure _ _)
    exact (acquires_modify _ _).bind fun _ => acquires_command d _
  | wakeup => exact absurd rfl hop
  | setBattery notifies => exact (acquires_setBattery d notifies).mono (Set.subset_univ _)
  | setProfile name =>
    refine Acquires.withLock (Set.mem_univ _) ((acquires_modify _ _).bind fun _ => ?_)
    rw [hprofile]
    exact (acquires_get _).bind fun s => acquires_applyProfile d _
  | clearProfile name =>
    refine Acquires.withLock (Set.mem_univ _) ((acquires_get _).bind fun s => ?_)
    refine Acquires.ite ?_ (Acquires.ite (acquires_modify _ _) (acquires_raise _ _))
    rw [hprofile]
    exact (acquires_modify _ _).bind fun _ => acquires_applyProfile d _
  | removeProfile name =>
    refine Acquires.withLock (Set.mem_univ _) ((acquires_get _).bind fun s => ?_)
    refine Acquires.ite (acquires_raise _ _) (Acquires.ite (acquires_raise _ _) ?_)
    exact acquires_modify _ _
  | reconfigure => exact (acquires_reconfigure d).mono (Set.subset_univ _)

/-- The `n`-th call answers. -/
def Answers (n : Nat) : Prop := ∃ result, d.answer n = .ok result

/-- The three calls of the reset mechanism answer, and the first finds the feature. -/
def ResetAnswers (n : Nat) : Prop :=
  (∃ index, d.answer n = .ok index ∧ index ≠ 0) ∧ Answers d (n + 1) ∧ Answers d (n + 2)

/-- The number of calls that a `reset` makes when they all answer. -/
def resetCalls : Nat := if d.resetMechanism then 3 else 0

/-- The device has a battery, and waking it up gets as far as its status. -/
def BatteryAnswers (s : State) : Prop :=
  d.has .deviceBattery = true ∧ (d.resetMechanism = true → ResetAnswers d s.calls) ∧
    Answers d (s.calls + resetCalls d)

/-- The operation takes no lock that its thread holds. -/
def NeverRelocks (op : Operation) (s : State) : Prop := ¬ Stuck (op.run d) [] s

section Wakeup

variable {d} {held : List Lock} {s : State}

def tick (s : State) (n : Nat) : State := { s with calls := s.calls + n }

theorem call_ok {result : UInt8} (h : d.answer s.calls = .ok result) :
    call d held s = (.returned result, tick s 1) := by
  change (ofExcept (d.answer s.calls) : Program UInt8) held (tick s 1) = _
  rw [h]
  rfl

theorem call_error {e : Exception} (h : d.answer s.calls = .error e) :
    call d held s = (.threw e, tick s 1) := by
  change (ofExcept (d.answer s.calls) : Program UInt8) held (tick s 1) = _
  rw [h]
  rfl

theorem command_ok (h : Answers d s.calls) : command d held s = (.returned (), tick s 1) := by
  obtain ⟨result, h⟩ := h
  rw [command, bind_returned (call_ok h)]
  rfl

theorem command_error {e : Exception} (h : d.answer s.calls = .error e) :
    command d held s = (.threw e, tick s 1) :=
  bind_threw (call_error h)

theorem command_not_ok (held : List Lock) (h : ¬ Answers d s.calls) :
    ∃ e, command d held s = (.threw e, tick s 1) := by
  cases hr : d.answer s.calls with
  | ok result => exact absurd ⟨result, hr⟩ h
  | error e => exact ⟨e, command_error hr⟩

theorem lookup_ok {index : UInt8} (h : d.answer s.calls = .ok index) (hne : index ≠ 0) :
    lookup d held s = (.returned (), tick s 1) := by
  rw [lookup, bind_returned (handle_returned (call_ok h)), if_neg hne]
  rfl

theorem lookup_not_ok (held : List Lock)
    (h : ¬ ∃ index, d.answer s.calls = .ok index ∧ index ≠ 0) :
    ∃ e, lookup d held s = (.threw e, tick s 1) := by
  cases hr : d.answer s.calls with
  | ok index =>
    have hzero : index = 0 := by
      by_contra hne
      exact h ⟨index, hr, hne⟩
    refine ⟨.unsupportedFeature, ?_⟩
    rw [lookup, bind_returned (handle_returned (call_ok hr)), if_pos hzero]
    rfl
  | error e =>
    rw [lookup]
    by_cases he : e = .backend (.hidpp20Error invalidFeatureIndex)
    · refine ⟨.unsupportedFeature, bind_threw ?_⟩
      rw [handle_threw (call_error hr), if_pos he]
      rfl
    · refine ⟨e, bind_threw ?_⟩
      rw [handle_threw (call_error hr), if_neg he]
      rfl

theorem reset_returns (h : d.resetMechanism = true → ResetAnswers d s.calls) :
    d.reset held s = (.returned (), tick s (resetCalls d)) := by
  unfold Device.reset resetCalls
  by_cases hreset : d.resetMechanism = true
  · obtain ⟨⟨index, hindex, hne⟩, hprofile, hdone⟩ := h hreset
    rw [if_pos hreset, if_pos hreset, bind_returned (lookup_ok hindex hne),
      bind_returned (command_ok hprofile), command_ok hdone]
    rfl
  · rw [if_neg hreset, if_neg hreset]
    rfl

theorem reset_throws (held : List Lock) (hreset : d.resetMechanism = true)
    (h : ¬ ResetAnswers d s.calls) :
    ∃ e t, d.reset held s = (.threw e, t) := by
  unfold Device.reset
  rw [if_pos hreset]
  by_cases hlookup : ∃ index, d.answer s.calls = .ok index ∧ index ≠ 0
  · obtain ⟨index, hindex, hne⟩ := hlookup
    rw [bind_returned (lookup_ok hindex hne)]
    by_cases hprofile : Answers d (s.calls + 1)
    · rw [bind_returned (command_ok (s := tick s 1) hprofile)]
      have hdone : ¬ Answers d (s.calls + 2) := fun hdone =>
        h ⟨⟨index, hindex, hne⟩, hprofile, hdone⟩
      obtain ⟨e, he⟩ := command_not_ok held (s := tick (tick s 1) 1) hdone
      exact ⟨e, _, he⟩
    · obtain ⟨e, he⟩ := command_not_ok held (s := tick s 1) hprofile
      exact ⟨e, _, bind_threw he⟩
  · obtain ⟨e, he⟩ := lookup_not_ok held hlookup
    exact ⟨e, _, bind_threw he⟩

/-- Under `_state_lock` the battery is stuck as soon as it has its status. -/
theorem stuck_battery (hheld : .state ∈ held) :
    Stuck (DeviceBattery.configure d) held s ↔ Answers d s.calls := by
  constructor
  · intro h
    by_contra hnot
    obtain ⟨e, he⟩ := command_not_ok held hnot
    revert h
    rw [DeviceBattery.configure, ignoring, Stuck, handle_threw (bind_threw he)]
    split
    · exact not_stuck_of_returned rfl
    · exact not_stuck_of_threw rfl
  · intro h
    have hbody : (command d >>= fun _ => d.setBattery false) held s =
        (.relocked .state, tick s 1) := by
      rw [bind_returned (command_ok h), Device.setBattery, withLock_held hheld]
    exact stuck_of_relocked (handle_relocked hbody)

theorem features_of_battery (hbattery : d.has .deviceBattery = true) :
    d.features = .deviceBattery :: featureOrder.tail.filter d.has :=
  List.filter_cons_of_pos hbattery

theorem stuck_features (hbattery : d.has .deviceBattery = true) :
    Stuck (d.features.forM (Feature.configure d)) [.state] s ↔ Answers d s.calls := by
  have hrest : Acquires ((featureOrder.tail.filter d.has).forM (Feature.configure d))
      featureLocks := by
    refine acquires_forM fun f hf => acquires_configure d ?_
    intro heq
    subst heq
    exact absurd (List.mem_of_mem_filter hf) (by decide)
  have hfree : ∀ k ∈ featureLocks, k ∉ [Lock.state] := by
    intro k hk
    rw [List.mem_singleton]
    exact hk.1
  rw [features_of_battery hbattery]
  exact (stuck_bind_iff fun _ t => hrest _ t hfree).trans (stuck_battery (by simp))

theorem stuck_reconfigure (hbattery : d.has .deviceBattery = true) :
    Stuck d.reconfigure [.state] s ↔
      (d.resetMechanism = true → ResetAnswers d s.calls) ∧ Answers d (s.calls + resetCalls d) := by
  rw [Device.reconfigure]
  by_cases hreset : d.resetMechanism = true → ResetAnswers d s.calls
  · rw [stuck_bind_returned (reset_returns hreset), stuck_features hbattery]
    exact (and_iff_right hreset).symm
  · have hmechanism : d.resetMechanism = true := by
      by_contra hnot
      exact hreset fun h => absurd h hnot
    obtain ⟨e, t, ht⟩ := reset_throws [.state] hmechanism fun h => hreset fun _ => h
    exact iff_of_false (not_stuck_of_threw (bind_threw ht)) fun h => hreset h.1

theorem stuck_wakeup : Stuck d.wakeup [] s ↔ BatteryAnswers d s := by
  have htail : ∀ (_ : Unit) t, ¬ Stuck (do
      let s ← get
      if !s.awake then
        Device.setAwake true
        notify d : Program Unit) [.state] t := by
    intro _ t
    refine Acquires.bind (S := ∅) (acquires_get _) (fun s => ?_) _ t (fun _ => nofun)
    refine Acquires.ite ?_ (acquires_pure _ _)
    exact (acquires_modify _ _).bind fun _ => acquires_command d _
  rw [Device.wakeup, stuck_withLock_free List.not_mem_nil, stuck_bind_iff htail]
  by_cases hbattery : d.has .deviceBattery = true
  · rw [stuck_reconfigure hbattery]
    exact (and_iff_right hbattery).symm
  · refine iff_of_false ?_ fun h => hbattery h.1
    rw [Bool.not_eq_true] at hbattery
    refine acquires_reconfigure_features d hbattery _ s ?_
    intro k hk
    rw [List.mem_singleton]
    exact hk.1

end Wakeup

/-- No operation takes a lock it holds, but a `wakeup` whose battery answers: whatever features the
device has, and however their calls end. -/
theorem never_relocks_iff (op : Operation) (s : State) :
    NeverRelocks d op s ↔ ¬ (op = .wakeup ∧ BatteryAnswers d s) := by
  by_cases hop : op = .wakeup
  · subst hop
    rw [NeverRelocks, Operation.run, stuck_wakeup]
    simp
  · refine iff_of_true ?_ fun h => hop h.1
    exact acquires_run d hop [] s fun _ _ => List.not_mem_nil

/-- A sleeping device with a battery wakes up: its thread holds `_state_lock`, reads the battery and
asks for `_state_lock`. -/
theorem wakeup_relocks_state :
    ∃ d s, (Operation.wakeup.run d [] s).1 = .relocked .state ∧ ¬ NeverRelocks d .wakeup s := by
  refine ⟨{
      has := (· = .deviceBattery)
      resetMechanism := false
      buttons := []
      defaultProfile := "default"
      answer := fun _ => .ok 50 }, {
      calls := 0
      awake := false
      profiles := AssocMap.empty.emplace "default" {}
      profileName := "default"
      dpiLists := 0
      config := fun _ => {} }, rfl, fun h => h ⟨.state, rfl⟩⟩

end Logid.Locking
