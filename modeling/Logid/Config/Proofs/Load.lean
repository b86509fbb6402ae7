import Logid.Config.Proofs.Layout
import Logid.Config.Schema

/-!
# Loading the configuration

The layout of each codec of the schema. That the configuration is decoded from every tree, and that
an entry that cannot be decoded goes unnoticed, is then read off the layout.
-/

set_option linter.dupNamespace false

namespace Logid.Config

open Setting

/-! ### Scalars -/

theorem primitiveIo_rejects {α : Type} {type : SettingType} {read : Setting → Option α}
    {write : α → Setting} (h : ∀ s : Setting, isScalar s.getType = false → read s = none)
    (s : Setting) (hs : isScalar s.getType = false) :
    ∃ e, (primitiveIo type read write).get s = .error e := by
  simp only [primitiveIo, h s hs]
  exact ⟨_, rfl⟩

def boolLayout : Layout boolIo :=
  .scalar boolIo (primitiveIo_rejects (by
    intro s hs
    cases s with
    | boolean => cases hs
    | _ => rfl))

def intLayout : Layout intIo :=
  .scalar intIo (primitiveIo_rejects (by
    intro s hs
    cases s with
    | int => cases hs
    | _ => rfl))

def doubleLayout : Layout doubleIo :=
  .scalar doubleIo (primitiveIo_rejects (by
    intro s hs
    cases s with
    | float => cases hs
    | _ => rfl))

def stringLayout : Layout stringIo :=
  .scalar stringIo (primitiveIo_rejects (by
    intro s hs
    cases s with
    | string => cases hs
    | _ => rfl))

def uintLayout : Layout uintIo := .reinterpret intLayout

def uint16Layout : Layout uint16Io := .reinterpret intLayout

/-! ### Actions and gestures -/

def NoAction.layout : Layout NoAction.group.io := .group .nil

def keysLayout : Layout keysIo :=
  .variant stringLayout (.variant uintLayout (.list (.variant uintLayout stringLayout)))

def KeypressAction.layout : Layout KeypressAction.group.io := .group (.optional keysLayout .nil)

def ToggleSmartShift.layout : Layout ToggleSmartShift.group.io := .group .nil

def ToggleHiresScroll.layout : Layout ToggleHiresScroll.group.io := .group .nil

def CycleDPI.layout : Layout CycleDPI.group.io :=
  .group (.optional (.list intLayout) (.optional intLayout .nil))

def ChangeDPI.layout : Layout ChangeDPI.group.io :=
  .group (.optional intLayout (.optional intLayout .nil))

def ChangeHost.layout : Layout ChangeHost.group.io :=
  .group (.optional (.variant intLayout stringLayout) .nil)

def ChangeProfile.layout : Layout ChangeProfile.group.io := .group (.optional stringLayout .nil)

def BasicAction.layout : Layout BasicAction.io :=
  .reinterpret (.variant NoAction.layout (.variant KeypressAction.layout
    (.variant ToggleSmartShift.layout (.variant ToggleHiresScroll.layout
      (.variant CycleDPI.layout (.variant ChangeDPI.layout
        (.variant ChangeHost.layout ChangeProfile.layout)))))))

def AxisGesture.layout : Layout AxisGesture.group.io :=
  .group (.optional intLayout (.optional (.variant stringLayout uintLayout)
    (.optional doubleLayout .nil)))

def IntervalGesture.layoutNamed (name : String) : Layout (IntervalGesture.groupNamed name).io :=
  .group (.optional intLayout (.optional BasicAction.layout (.optional intLayout .nil)))

def ReleaseGesture.layout : Layout ReleaseGesture.group.io :=
  .group (.optional intLayout (.optional BasicAction.layout .nil))

def ThresholdGesture.layout : Layout ThresholdGesture.group.io :=
  .group (.optional intLayout (.optional BasicAction.layout .nil))

def NoGesture.layout : Layout NoGesture.group.io := .group (.optional intLayout .nil)

def Gesture.layout : Layout Gesture.io :=
  .reinterpret (.variant NoGesture.layout (.variant AxisGesture.layout
    (.variant (IntervalGesture.layoutNamed "OnInterval")
      (.variant (IntervalGesture.layoutNamed "OnFewPixels")
        (.variant ReleaseGesture.layout ThresholdGesture.layout)))))

def GestureAction.layout : Layout GestureAction.group.io :=
  .group (.optional (.map Gesture.layout) .nil)

def Action.layout : Layout Action.io :=
  .reinterpret (.variant NoAction.layout (.variant KeypressAction.layout
    (.variant ToggleSmartShift.layout (.variant ToggleHiresScroll.layout
      (.variant CycleDPI.layout (.variant ChangeDPI.layout (.variant ChangeHost.layout
        (.variant ChangeProfile.layout GestureAction.layout))))))))

/-! ### Devices -/

def Button.layout : Layout Button.group.io := .group (.optional Action.layout .nil)

def SmartShift.layout : Layout SmartShift.group.io :=
  .group (.optional boolLayout (.optional uintLayout (.optional uintLayout .nil)))

def HiresScroll.layout : Layout HiresScroll.group.io :=
  .group (.optional boolLayout (.optional boolLayout (.optional boolLayout
    (.optional Gesture.layout (.optional Gesture.layout .nil)))))

def dpiLayout : Layout dpiIo := .variant intLayout (.list intLayout)

def DpiPreset.layout : Layout DpiPreset.group.io :=
  .group (.required intLayout (.optional stringLayout .nil))

def ThumbWheel.layout : Layout ThumbWheel.group.io :=
  .group (.optional boolLayout (.optional boolLayout (.optional Gesture.layout
    (.optional Gesture.layout (.optional BasicAction.layout (.optional BasicAction.layout
      (.optional BasicAction.layout .nil)))))))

def remapButtonLayout : Layout remapButtonIo := .map Button.layout

def hiresscrollLayout : Layout hiresscrollIo := .variant boolLayout HiresScroll.layout

def Profile.layout : Layout Profile.group.io :=
  .group (.optional dpiLayout (.optional (.list DpiPreset.layout) (.optional SmartShift.layout
    (.optional hiresscrollLayout (.optional remapButtonLayout
      (.optional ThumbWheel.layout .nil))))))

def profilesLayout : Layout profilesIo := .map Profile.layout

def Device.layout : Layout Device.group.io :=
  .group (.required stringLayout (.required profilesLayout .nil))

def devicesLayout : Layout devicesIo := .map (.variant Device.layout Profile.layout)

def ignoreLayout : Layout ignoreIo := .set uint16Layout

def Config.layout : Layout Config.group.io :=
  .group (.optional devicesLayout (.optional ignoreLayout (.optional doubleLayout
    (.optional intLayout .nil))))

/-! ### The configuration -/

theorem Config.layout_total : Config.layout.total = true := by decide

theorem Config.layout_robust : Config.layout.robust = true := by decide

/-- A configuration is decoded from every tree, and with an entry that cannot be decoded, in
whatever list, set, map or optional member, it is the one that is decoded without the entry. -/
theorem Config.get_ok_isolated :
    (∀ s : Setting, ∃ config, Config.group.io.get s = .ok config) ∧
      ∀ s s' : Setting, Config.layout.Spoils s s' →
        Config.group.io.get s' = Config.group.io.get s :=
  ⟨Config.layout.get_ok Config.layout_total,
    fun _ _ h => Config.layout.get_eq Config.layout_robust h⟩

/-- The profile of one device. -/
def oneProfile : Setting := .group [("name", .string "MX Master 3"), ("dpi", .int 1000)]

/-- Next to the profile stands an entry without a name. -/
theorem nameless_get :
    Config.group.io.get (.group [("devices", .list [.group [("dpi", .int 800)], oneProfile])]) =
      Config.group.io.get (.group [("devices", .list [oneProfile])]) := by
  refine Config.get_ok_isolated.2 _ _ ?_
  refine .inr (.inl ⟨.list [oneProfile], .list [.group [("dpi", .int 800)], oneProfile], ?_, ?_⟩)
  · exact .inl ⟨.group [("dpi", .int 800)], .notFound, rfl, .list [] [oneProfile]⟩
  · exact .group [] [] (by simp)

end Logid.Config
