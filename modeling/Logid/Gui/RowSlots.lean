import Logid.Gui.DeviceModel

/-!
# The slots of the device list

The slots of `DeviceModel` that the signals of the daemon and the replies are connected to
(`DeviceModel.cpp:115-198`), as one step, and the paths that should have rows after a run of them.
-/

namespace Logid.Gui.DeviceModel

inductive Slot where
  | deviceAdded (path name : String) (pid : UInt16) (active : Bool)
  | deviceRemoved (path : String)
  | statusChanged (path : String) (active : Bool)
  | connectionStateChanged (path : String) (state : ConnectionState)
  | batteryChanged (path : String) (percent : Int) (charging known : Bool)
  | clear
  deriving DecidableEq, Repr

def call (toInt : String → Option Int) (m : DeviceModel) : Slot → DeviceModel
  | .deviceAdded path name pid active => m.onDeviceAddedBy toInt path name pid active
  | .deviceRemoved path => m.onDeviceRemoved path
  | .statusChanged path active => m.onStatusChanged path active
  | .connectionStateChanged path state => m.onConnectionStateChanged path state
  | .batteryChanged path percent charging known => m.onBatteryChanged path percent charging known
  | .clear => .clear

/-- The paths that were added and not removed since the last `clear`, in the order in which they were
added. -/
def nextLive (live : List String) : Slot → List String
  | .deviceAdded path .. => if path ∈ live then live else live ++ [path]
  | .deviceRemoved path => live.filter (· ≠ path)
  | .statusChanged .. | .connectionStateChanged .. | .batteryChanged .. => live
  | .clear => []

def live (slots : List Slot) : List String := slots.foldl nextLive []

/-- The slot takes the path out of the list. -/
def Slot.Removes (path : String) : Slot → Prop
  | .deviceRemoved other => other = path
  | .clear => True
  | _ => False

/-- The path was added, and not removed since. -/
def AddedSince (path : String) (slots : List Slot) : Prop :=
  ∃ before name pid active after, slots = before ++ .deviceAdded path name pid active :: after ∧
    ∀ slot ∈ after, ¬slot.Removes path

/-- The first path belongs before the second: it has the lower key, or the same one and was added
before. -/
def Before (toInt : String → Option Int) (live : List String) (a b : String) : Prop :=
  nicknameOf toInt a < nicknameOf toInt b ∨
    nicknameOf toInt a = nicknameOf toInt b ∧ [a, b].Sublist live

end Logid.Gui.DeviceModel
