import Logid.Actions.Proofs.Axis
import Logid.Features.Proofs.Methods
import Logid.Features.Wheels

/-!
# What the wheels do with their gestures

The thumb wheel looks whether a gesture fits a wheel wherever one gets in, the hi-res wheel only in its
methods, and there it keeps the gesture it rejects. The thumb wheel fixes its gestures when it is made,
and not when the profile changes. It presses its gesture again with every event.
-/

namespace Logid.Features

open Actions (EventCodes GestureObject InputEvent)

/-! ## Gestures that fit a wheel -/

theorem HiresScroll.wheelCompatibility_fixGesture (multiplier : UInt8) (config : Config.Gesture)
    (g : GestureObject) :
    (fixGesture multiplier config g).wheelCompatibility = g.wheelCompatibility := by
  cases g <;> rfl

theorem ThumbWheel.wheelCompatibility_fixGesture (info : ThumbwheelInfo) (config : Config.Gesture)
    (g : GestureObject) :
    (fixGesture info config g).wheelCompatibility = g.wheelCompatibility := by
  cases g <;> rfl

theorem ThumbWheel.wheelCompatibility_genGesture {codes : EventCodes}
    {conf : Option Config.Gesture} {g : GestureObject} (h : genGesture codes conf = some g) :
    g.wheelCompatibility = true :=
  (Option.filter_eq_some_iff.mp h).2

/-- Only the gesture of one type does not fit. -/
theorem wheelCompatibility_ofType {codes : EventCodes} {type : String} {g : Config.Gesture}
    (h : Actions.Gesture.ofType type = some g) :
    (GestureObject.make codes g).wheelCompatibility = true ↔ type ≠ "OnRelease" := by
  unfold Actions.Gesture.ofType at h
  split at h <;> cases h <;> simp [GestureObject.make, GestureObject.wheelCompatibility]

theorem HiresScroll.gesture_makeConfig {codes : EventCodes} {multiplier : UInt8}
    {config : HiresEntry} {h : HiresScroll} (hempty : ∀ turn, (h.side turn).gesture = none)
    (turn : Turn) :
    ((makeConfig codes multiplier config h).side turn).gesture =
      makeGesture codes multiplier (entry (parentConfig config) turn) := by
  cases config with
  | none =>
    have hkeeps : makeConfig codes multiplier none h = h := rfl
    rw [hkeeps, hempty]
    cases turn <;> rfl
  | some value => cases turn <;> rfl

theorem HiresScroll.gesture_construct (codes : EventCodes) (multiplier : UInt8)
    (config : HiresEntry) (turn : Turn) :
    ((construct codes multiplier config).side turn).gesture =
      makeGesture codes multiplier (entry (parentConfig config) turn) :=
  gesture_makeConfig (fun turn => by cases turn <;> rfl) turn

theorem HiresScroll.gesture_setProfile (codes : EventCodes) (multiplier : UInt8)
    (config : HiresEntry) (h : HiresScroll) (turn : Turn) :
    ((setProfile codes multiplier config h).side turn).gesture =
      makeGesture codes multiplier (entry (parentConfig config) turn) :=
  gesture_makeConfig (fun turn => by cases turn <;> rfl) turn

/-- The gestures of the thumb wheel after a change of profile, whatever it held before. -/
theorem ThumbWheel.gestures_setProfile (codes : EventCodes) (config : Option Config.ThumbWheel)
    (w : ThumbWheel) :
    (setProfile codes config w).left = genGesture codes (config.bind (·.left)) ∧
      (setProfile codes config w).right = genGesture codes (config.bind (·.right)) := by
  cases config with
  | none => exact ⟨rfl, rfl⟩
  | some conf => exact ⟨rfl, rfl⟩

/-- The same when it is made, with the fix. -/
theorem ThumbWheel.gestures_construct (codes : EventCodes) (info : ThumbwheelInfo)
    (config : Option Config.ThumbWheel) :
    (construct codes info config).left = (genGesture codes (config.bind (·.left))).map
        (fixGesture info (entry (config.bind (·.left)))) ∧
      (construct codes info config).right = (genGesture codes (config.bind (·.right))).map
        (fixGesture info (entry (config.bind (·.right)))) := by
  cases config with
  | none => exact ⟨rfl, rfl⟩
  | some conf => exact ⟨rfl, rfl⟩

namespace WheelPair

theorem forall_makeGesture_iff {codes : EventCodes} {multiplier : UInt8}
    {config : Option Config.Gesture} :
    (∀ g, HiresScroll.makeGesture codes multiplier config = some g → g.wheelCompatibility = true) ↔
      ∀ g, config = some g → (GestureObject.make codes g).wheelCompatibility = true := by
  cases config with
  | none => exact iff_of_true (fun g h => nomatch h) (fun g h => nomatch h)
  | some e =>
    simp only [HiresScroll.makeGesture, Option.map_some, Option.some_inj, forall_eq',
      HiresScroll.wheelCompatibility_fixGesture]

/-- What a call of `SetUp` or `SetDown` makes of the gestures. -/
theorem setGesture_spec {codes : EventCodes} {multiplier : UInt8} {turn : Turn} {type : String}
    {config : HiresEntry} {h h' : HiresScroll} {conf : Config.HiresScroll}
    {outcome : HiresScroll.Outcome}
    (hcall : h.setGesture codes multiplier turn type config = some (conf, h', outcome)) :
    Actions.Gesture.ofType type = none ∧ h' = h ∨
      ∃ g object, Actions.Gesture.ofType type = some g ∧
        object.wheelCompatibility = (GestureObject.make codes g).wheelCompatibility ∧
        (h'.side turn).gesture = some object ∧
        ∀ other, other ≠ turn → h'.side other = h.side other := by
  simp only [HiresScroll.setGesture] at hcall
  split at hcall
  next htype =>
    cases hcall
    exact .inl ⟨htype, rfl⟩
  next g htype =>
    split at hcall
    · split at hcall
      · cases hcall
        refine .inr ⟨g, _, htype, HiresScroll.wheelCompatibility_fixGesture multiplier g _, ?_, ?_⟩
        · rw [HiresScroll.side_setSide, if_pos rfl]
        · intro other hne
          rw [HiresScroll.side_setSide, if_neg hne]
      · cases hcall
        refine .inr ⟨g, _, htype, rfl, ?_, ?_⟩
        · rw [HiresScroll.side_setSide, if_pos rfl]
        · intro other hne
          rw [HiresScroll.side_setSide, if_neg hne]
    · cases hcall

/-- `SetLeft` leaves a gesture that fits, or none. -/
theorem setLeft_spec (codes : EventCodes) (info : ThumbwheelInfo) (type : String)
    (config : Config.ThumbWheel) (w : ThumbWheel) :
    (w.setLeft codes info type config).2.1.right = w.right ∧
      ∀ g, (w.setLeft codes info type config).2.1.left = some g → g.wheelCompatibility = true := by
  unfold ThumbWheel.setLeft
  split
  · exact ⟨rfl, nofun⟩
  · simp only
    split
    next hfits =>
      refine ⟨rfl, fun g hg => ?_⟩
      cases hg
      rw [ThumbWheel.wheelCompatibility_fixGesture]
      exact hfits
    next => exact ⟨rfl, nofun⟩

/-- `SetRight` does the same, or leaves the gesture that was there. -/
theorem setRight_spec (codes : EventCodes) (info : ThumbwheelInfo) (type : String)
    (config : Config.ThumbWheel) (w : ThumbWheel) :
    (w.setRight codes info type config).2.1.left = w.left ∧
      ∀ g, (w.setRight codes info type config).2.1.right = some g →
        w.right = some g ∨ g.wheelCompatibility = true := by
  unfold ThumbWheel.setRight
  split
  · exact ⟨rfl, fun _ hg => .inl hg⟩
  · simp only
    split
    next hfits =>
      refine ⟨rfl, fun g hg => .inr ?_⟩
      cases hg
      rw [ThumbWheel.wheelCompatibility_fixGesture]
      exact hfits
    next => exact ⟨rfl, nofun⟩

theorem fits_setTurn_iff {codes : EventCodes} {s : WheelPair} {turn : Turn} {type : String}
    {g : Config.Gesture} {object : GestureObject} (htype : Actions.Gesture.ofType type = some g)
    (hobject : object.wheelCompatibility = (GestureObject.make codes g).wheelCompatibility) :
    Fits codes s (.setTurn turn type) ↔ object.wheelCompatibility = true := by
  rw [hobject, wheelCompatibility_ofType htype]
  rfl

/-- One call. -/
theorem compatible_step_iff {codes : EventCodes} {wheels : Wheels} {hires : HiresEntry}
    {thumb : Option Config.ThumbWheel} {s t : WheelPair} {call : WheelCall} (hs : Compatible s)
    (hstep : (machine codes wheels hires thumb).step s call = some t) :
    Compatible t ↔ Fits codes s call := by
  cases call with
  | hiresProfile config =>
    cases hstep
    have hfits : (∀ turn g, ((s.hires.setProfile codes wheels.multiplier config).side turn).gesture =
        some g → g.wheelCompatibility = true) ↔ EntryFits codes config := by
      simp only [HiresScroll.gesture_setProfile, forall_makeGesture_iff, EntryFits]
    exact ⟨fun ht => hfits.mp ht.hires, fun h => ⟨hfits.mpr h, hs.left, hs.right⟩⟩
  | thumbProfile config =>
    cases hstep
    obtain ⟨hleft, hright⟩ := ThumbWheel.gestures_setProfile codes config s.thumb
    refine iff_of_true ⟨hs.hires, fun g hg => ?_, fun g hg => ?_⟩ trivial
    · exact ThumbWheel.wheelCompatibility_genGesture (hleft.symm.trans hg)
    · exact ThumbWheel.wheelCompatibility_genGesture (hright.symm.trans hg)
  | setTurn turn type =>
    obtain ⟨⟨conf, h', outcome⟩, hcall, rfl⟩ := Option.map_eq_some_iff.mp hstep
    rcases setGesture_spec hcall with ⟨htype, rfl⟩ | ⟨g, object, htype, hobject, hset, hother⟩
    · have hne : type ≠ "OnRelease" := by
        rintro rfl
        cases htype
      exact iff_of_true ⟨hs.hires, hs.left, hs.right⟩ hne
    · rw [fits_setTurn_iff htype hobject]
      constructor
      · intro ht
        exact ht.hires turn object hset
      · intro hfits
        refine ⟨fun other g hg => ?_, hs.left, hs.right⟩
        by_cases hturn : other = turn
        · rw [hturn, hset, Option.some_inj] at hg
          rw [← hg]
          exact hfits
        · exact hs.hires other g (by rw [← hother other hturn]; exact hg)
  | setLeft type =>
    cases hstep
    obtain ⟨hright, hleft⟩ := setLeft_spec codes wheels.info type
      (ThumbWheel.parentConfig s.thumbEntry) s.thumb
    exact iff_of_true ⟨hs.hires, hleft, fun g hg => hs.right g (hright.symm.trans hg)⟩ trivial
  | setRight type =>
    cases hstep
    obtain ⟨hleft, hright⟩ := setRight_spec codes wheels.info type
      (ThumbWheel.parentConfig s.thumbEntry) s.thumb
    refine iff_of_true
      ⟨hs.hires, fun g hg => hs.left g (hleft.symm.trans hg), fun g hg => ?_⟩ trivial
    rcases hright g hg with hold | hfits
    · exact hs.right g hold
    · exact hfits

/-- The thumb wheel starts with gestures that fit, the hi-res wheel with those of its entries. -/
theorem compatible_init_iff {codes : EventCodes} {wheels : Wheels} {hires : HiresEntry}
    {thumb : Option Config.ThumbWheel} :
    Compatible (machine codes wheels hires thumb).init ↔ EntryFits codes hires := by
  obtain ⟨hleft, hright⟩ := ThumbWheel.gestures_construct codes wheels.info thumb
  have hfixed : ∀ conf g, (ThumbWheel.genGesture codes conf).map
      (ThumbWheel.fixGesture wheels.info (ThumbWheel.entry conf)) = some g →
        g.wheelCompatibility = true := by
    intro conf g hg
    obtain ⟨object, hobject, rfl⟩ := Option.map_eq_some_iff.mp hg
    rw [ThumbWheel.wheelCompatibility_fixGesture]
    exact ThumbWheel.wheelCompatibility_genGesture hobject
  have hentries : (∀ turn g, ((HiresScroll.construct codes wheels.multiplier hires).side turn).gesture =
      some g → g.wheelCompatibility = true) ↔ EntryFits codes hires := by
    simp only [HiresScroll.gesture_construct, forall_makeGesture_iff, EntryFits]
  constructor
  · intro h
    exact hentries.mp h.hires
  · intro h
    exact ⟨hentries.mpr h, fun g hg => hfixed _ g (hleft.symm.trans hg),
      fun g hg => hfixed _ g (hright.symm.trans hg)⟩

/-- All along a run of calls every gesture that is held fits a wheel, exactly if the hi-res wheel is
given no other, by its first profile, by a change of profile or by a call of `SetUp` or `SetDown`. -/
theorem always_compatible_iff (codes : EventCodes) (wheels : Wheels) (hires : HiresEntry)
    (thumb : Option Config.ThumbWheel) (calls : List WheelCall) :
    (machine codes wheels hires thumb).Always Compatible (machine codes wheels hires thumb).init
        calls ↔
      EntryFits codes hires ∧ (machine codes wheels hires thumb).Meets (Fits codes)
        (machine codes wheels hires thumb).init calls := by
  have hruns : Compatible (machine codes wheels hires thumb).init →
      ((machine codes wheels hires thumb).Always Compatible
          (machine codes wheels hires thumb).init calls ↔
        (machine codes wheels hires thumb).Meets (Fits codes)
          (machine codes wheels hires thumb).init calls) :=
    fun hinit => Machine.always_iff_meets (J := fun _ => True) (fun _ _ _ _ _ _ _ => trivial)
      (fun _ _ _ _ hs hstep => compatible_step_iff hs hstep) trivial hinit
  constructor
  · intro h
    exact ⟨compatible_init_iff.mp h.head, (hruns h.head).mp h⟩
  · rintro ⟨hfits, hmeets⟩
    exact (hruns (compatible_init_iff.mpr hfits)).mpr hmeets

def mouse : Wheels where
  info := { divertedRes := 120, defaultDirection := 1 }
  multiplier := 8

/-- `SetUp` rejects the gesture, and it stays. -/
theorem setUp_keeps_incompatible :
    ¬(machine Actions.AxisGesture.noCodes mouse none none).Always Compatible
      (machine Actions.AxisGesture.noCodes mouse none none).init [.setTurn .up "OnRelease"] := by
  rintro ⟨-, hstep⟩
  have ht : Compatible _ := (hstep _ rfl).head
  exact absurd (ht.hires .up _ rfl) (by decide)

end WheelPair

/-! ## Profiles -/

namespace ThumbWheel

theorem divertedRes_eq_one {info : ThumbwheelInfo} :
    (info.divertedRes.toNat : Rat) = 1 ↔ info.divertedRes = 1 := by
  rw [Nat.cast_eq_one]
  exact UInt16.toNat_inj (b := 1)

/-- What it does to an axis gesture. -/
theorem fixGesture_axis (codes : EventCodes) (info : ThumbwheelInfo) (config : Config.AxisGesture) :
    fixGesture info (.axis config) (.make codes (.axis config)) =
      .axis {
        axis := Actions.Gesture.thresholdOr (.axis config)
        inputAxis := (Actions.AxisGesture.make codes config).inputAxis
        multiplier :=
          if ((Actions.AxisGesture.make codes config).inputAxis.bind Actions.getLowResAxis).isSome then
            Actions.AxisGesture.multiplierOr (.axis config) * info.divertedRes.toNat
          else 1
        hiresMultiplier := info.divertedRes.toNat } := by
  simp only [fixGesture, GestureObject.make, GestureObject.press, Actions.AxisGesture.press,
    Actions.AxisGesture.setHiresMultiplier]
  by_cases hhires :
      ((Actions.AxisGesture.make codes config).inputAxis.bind Actions.getLowResAxis).isSome = true
  · simp only [if_pos hhires]
    rfl
  · simp only [if_neg hhires]
    rfl

/-- What `_fixGesture` does to a gesture that is just made. -/
theorem fixGesture_eq_iff {codes : EventCodes} {info : ThumbwheelInfo} {g : Config.Gesture}
    (hfits : (GestureObject.make codes g).wheelCompatibility = true) :
    fixGesture info g (.make codes g) = .make codes g ↔ NeedsNoFix codes info g := by
  have hneeds : NeedsNoFix codes info g ↔ Actions.Gesture.thresholdOr g = 0 ∧
      ∀ axis, GestureObject.make codes g = .axis axis → info.divertedRes = 1 ∧
        ((axis.inputAxis.bind Actions.getLowResAxis).isSome →
          Actions.AxisGesture.multiplierOr g = 1) :=
    ⟨fun h => h hfits, fun h _ => h⟩
  rw [hneeds]
  cases g with
  | release config => cases hfits
  | threshold config => cases hfits
  | none config =>
    simp [fixGesture, GestureObject.make, GestureObject.press, Actions.NullGesture.press]
  | interval config =>
    simp [fixGesture, GestureObject.make, GestureObject.press, Actions.IntervalGesture.press]
  | fewPixels config =>
    simp [fixGesture, GestureObject.make, GestureObject.press, Actions.IntervalGesture.press]
  | axis config =>
    have hmake : GestureObject.make codes (.axis config) =
        .axis { inputAxis := (Actions.AxisGesture.make codes config).inputAxis } := rfl
    rw [fixGesture_axis, hmake, GestureObject.axis.injEq, Actions.AxisGesture.mk.injEq,
      divertedRes_eq_one]
    simp only [GestureObject.axis.injEq, forall_eq', true_and]
    refine and_congr_right fun _ => ?_
    constructor
    · rintro ⟨hscale, hres⟩
      refine ⟨hres, fun hhires => ?_⟩
      rw [if_pos hhires, divertedRes_eq_one.mpr hres, mul_one] at hscale
      exact hscale
    · rintro ⟨hres, hmultiplier⟩
      refine ⟨?_, hres⟩
      split
      next hhires => rw [hmultiplier hhires, divertedRes_eq_one.mpr hres, mul_one]
      next => rfl

theorem rotate_congr (info : ThumbwheelInfo) (config : Config.ThumbWheel) {w w' : ThumbWheel}
    (hleft : w.left = w'.left) (hright : w.right = w'.right) (event : ThumbwheelEvent) :
    (w.rotate info config event).2 = (w'.rotate info config event).2 ∧
      (w.rotate info config event).1.left = (w'.rotate info config event).1.left ∧
      (w.rotate info config event).1.right = (w'.rotate info config event).1.right := by
  simp only [rotate, startRotation, scroll, stopRotation]
  split_ifs <;> simp [hleft, hright]

theorem reactions_congr {info : ThumbwheelInfo} {config : Config.ThumbWheel}
    {events : List ThumbwheelEvent} {w w' : ThumbWheel} (hleft : w.left = w'.left)
    (hright : w.right = w'.right) : reactions info config w events = reactions info config w' events := by
  induction events generalizing w w' with
  | nil => rfl
  | cons event events ih =>
    obtain ⟨hsent, hleft', hright'⟩ := rotate_congr info config hleft hright event
    rw [reactions, reactions, hsent, ih hleft' hright']

/-- One side of the wheel is the same with the fix and without it. -/
theorem genGesture_eq_map_iff {codes : EventCodes} {info : ThumbwheelInfo}
    {conf : Option Config.Gesture} :
    genGesture codes conf = (genGesture codes conf).map (fixGesture info (entry conf)) ↔
      ∀ g, conf = some g → NeedsNoFix codes info g := by
  cases conf with
  | none => exact iff_of_true rfl nofun
  | some g =>
    simp only [Option.some_inj, forall_eq', entry, Option.getD_some]
    cases hfits : (GestureObject.make codes g).wheelCompatibility with
    | false =>
      have hnone : genGesture codes (some g) = none := by
        simp [genGesture, hfits]
      refine iff_of_true (by rw [hnone]; rfl) fun h => ?_
      rw [hfits] at h
      cases h
    | true =>
      have hsome : genGesture codes (some g) = some (.make codes g) := by
        simp [genGesture, hfits]
      rw [hsome, Option.map_some, Option.some_inj, ← fixGesture_eq_iff hfits]
      exact eq_comm

/-- A change of profile leaves the gestures that the feature makes when it starts with the profile,
exactly if none of them needs the fix. -/
theorem sameGestures_iff (codes : EventCodes) (info : ThumbwheelInfo)
    (config : Option Config.ThumbWheel) (w : ThumbWheel) :
    SameGestures info (config.getD {}) (w.setProfile codes config) (construct codes info config) ↔
      ∀ right g, profileEntry config right = some g → NeedsNoFix codes info g := by
  obtain ⟨hleft, hright⟩ := gestures_setProfile codes config w
  obtain ⟨hleft', hright'⟩ := gestures_construct codes info config
  have hl : (w.setProfile codes config).left = (construct codes info config).left ↔
      ∀ g, profileEntry config false = some g → NeedsNoFix codes info g := by
    rw [hleft, hleft']
    exact genGesture_eq_map_iff
  have hr : (w.setProfile codes config).right = (construct codes info config).right ↔
      ∀ g, profileEntry config true = some g → NeedsNoFix codes info g := by
    rw [hright, hright']
    exact genGesture_eq_map_iff
  constructor
  · intro h right
    cases right with
    | false => exact hl.mp h.left
    | true => exact hr.mp h.right
  · intro h
    exact ⟨hl.mpr (h false), hr.mpr (h true), fun _ => reactions_congr (hl.mpr (h false))
      (hr.mpr (h true))⟩

/-- The profile that scrolls with the thumb wheel. -/
def horizontalScroll : Config.ThumbWheel :=
  { right := some (.axis { axis := some (.inr 0x0c) }) }

/-- Turned by one unit, the wheel scrolls by one after the change and by 120 after a start. -/
theorem setProfile_not_sameGestures :
    ¬SameGestures WheelPair.mouse.info horizontalScroll
      (setProfile Actions.AxisGesture.noCodes (some horizontalScroll) {})
      (construct Actions.AxisGesture.noCodes WheelPair.mouse.info (some horizontalScroll)) := by
  intro h
  exact absurd (h.reactions [⟨1, rotationStart, 0⟩]) (by decide +kernel)

end ThumbWheel

end Logid.Features
