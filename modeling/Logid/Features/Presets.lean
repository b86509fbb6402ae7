import Logid.Config.Schema

/-!
# The DPI presets of a device

Rendering of `DPI::IPC::getPresets` and `setPresets` (`features/DPI.cpp:225-258`) on the member of the
profile that they read and write.
-/

namespace Logid.Features.DPI

open Config (DpiPreset)

/-- `getPresets`, the two arrays of the reply. -/
def getPresets (presets : Option (List DpiPreset)) : List UInt32 × List String :=
  match presets with
  | some presets =>
    (presets.map fun p => p.value.toUInt32, presets.map fun p => p.label.getD "")
  | none => ([], [])

/-- `setPresets`. A label that is missing or empty is none, and an empty list is no member. -/
def setPresets (values : List UInt32) (labels : List String) : Option (List DpiPreset) :=
  let list := values.mapIdx fun i value =>
    { value := value.toInt32
      label :=
        match labels[i]? with
        | some label => if label = "" then none else some label
        | none => none : DpiPreset }
  if list = [] then none else some list

end Logid.Features.DPI
