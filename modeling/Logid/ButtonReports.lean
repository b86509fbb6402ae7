import Logid.Backend.Hidpp20.ReprogControls
import Logid.Input

/-!
# The calls of the button reports

What `RemapButton::_buttonEvent` (`features/RemapButton.cpp:154-178`) calls on the buttons of a device,
report after report, in a run of the device with everything else that happens to it.
-/

namespace Logid.Features

open Actions (InputEvent)

/-- A call of `_buttonEvent` on one of `_buttons`. -/
inductive ButtonCall where
  | press (i : UInt16)
  | release (i : UInt16)
  deriving DecidableEq, Repr

namespace ButtonCall

def control : ButtonCall → UInt16
  | press i => i
  | release i => i

def isPress : ButtonCall → Bool
  | press _ => true
  | release _ => false

/-- The calls one after another. -/
def perform (entries : ButtonEntries) : List ButtonCall → RemapButton → RemapButton × List InputEvent
  | [], r => (r, [])
  | call :: calls, r =>
    let i := call.control
    let (b, events) :=
      if call.isPress then Button.press (entries i) (r.buttons i)
      else Button.release (entries i) (r.buttons i)
    let (r, more) := perform entries calls { r with buttons := Function.update r.buttons i b }
    (r, events ++ more)

end ButtonCall

namespace RemapButton

/-- The call on a button, if the device has it. -/
def callOn (controls : List ControlInfo) (call : ButtonCall) : List ButtonCall :=
  if call.control ∈ controls.map ControlInfo.controlID then [call] else []

/-- The calls of the first loop, and what it leaves of `_pressed_buttons`. -/
def addedCalls (controls : List ControlInfo) :
    List UInt16 → List UInt16 → List ButtonCall × List UInt16
  | [], pressedButtons => ([], pressedButtons)
  | i :: is, pressedButtons =>
    if i ∈ pressedButtons then addedCalls controls is (pressedButtons.erase i)
    else
      let (calls, left) := addedCalls controls is pressedButtons
      (callOn controls (.press i) ++ calls, left)

/-- The calls of the second loop. -/
def removedCalls (controls : List ControlInfo) : List UInt16 → List ButtonCall
  | [] => []
  | i :: is => callOn controls (.release i) ++ removedCalls controls is

/-- The calls of `_buttonEvent`. -/
def eventCalls (controls : List ControlInfo) (pressedButtons newState : List UInt16) :
    List ButtonCall :=
  let (presses, left) := addedCalls controls newState pressedButtons
  presses ++ removedCalls controls left

end RemapButton

end Logid.Features

namespace Logid.Input

open Backend.Hidpp20.ReprogControls (divertedButtonEvent reportedCids)
open Features

/-- The sets of the button reports of a run, in order. -/
def buttonSets : List Label → List (List UInt16)
  | [] => []
  | .buttons held :: as => held :: buttonSets as
  | _ :: as => buttonSets as

/-- The calls on the buttons at each button report of a run. -/
def callLog (device : Device) : State → List Label → List (List ButtonCall)
  | _, [] => []
  | s, .buttons held :: as =>
    RemapButton.eventCalls device.controls s.remap.pressedButtons held ::
      callLog device (step device s (.buttons held)) as
  | s, a :: as => callLog device (step device s a) as

/-- The sets of the button reports are decoded from reports. -/
def DecodedReports (as : List Label) : Prop :=
  ∀ held, .buttons held ∈ as → ∃ report, held = (divertedButtonEvent report).keys

/-- A known control is pressed where it comes and released where it goes, once each, and an unknown
control gets no call. -/
structure ReportEdges (controls : List ControlInfo) (before now : List UInt16)
    (calls : List ButtonCall) : Prop where
  pressed : ∀ i, ButtonCall.press i ∈ calls ↔
    i ∈ controls.map ControlInfo.controlID ∧ i ∈ now ∧ i ∉ before
  released : ∀ i, ButtonCall.release i ∈ calls ↔
    i ∈ controls.map ControlInfo.controlID ∧ i ∉ now ∧ i ∈ before
  once : calls.Nodup

/-- The calls of each report are the edges from the set before it, which is empty at first, and those
of one control alternate from a press on. -/
structure EdgeCalls (controls : List ControlInfo) (sets : List (List UInt16))
    (log : List (List ButtonCall)) : Prop where
  length : log.length = sets.length
  edges : ∀ (n : Nat) (before now : List UInt16) (calls : List ButtonCall),
    ([] :: sets)[n]? = some before → sets[n]? = some now → log[n]? = some calls →
    ReportEdges controls before now calls
  alternating : ∀ i, (log.flatten.filter fun call => call.control = i).IsChain (· ≠ ·)
  pressFirst : ∀ i call, (log.flatten.filter fun call => call.control = i).head? = some call →
    call = .press i

end Logid.Input
