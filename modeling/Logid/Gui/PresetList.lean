import Logid.Features.Presets
import Logid.Misc.Machine

/-!
# The preset list of the user interface

Rendering of the preset editing of `DeviceController` (`DeviceController.cpp:277-359`): two lists side by
side, the list of pairs that the view shows, and the bounds of the sensor. An edit that changes the lists
sends both of them to the daemon.
-/

namespace Logid.Gui

open Config (DpiPreset)
open Features (DPI.getPresets DPI.setPresets)

structure PresetList where
  presetValues : List Int32 := []
  presetLabels : List String := []
  /-- `_dpiPresets`, what the view shows. -/
  dpiPresets : List (Int32 × String) := []
  dpiMin : Int32 := 0
  dpiMax : Int32 := 0
  deriving DecidableEq, Repr

namespace PresetList

/-- `_clampDpi` -/
def clampDpi (p : PresetList) (dpi : Int32) : Int32 :=
  if p.dpiMin > 0 ∧ dpi < p.dpiMin then p.dpiMin
  else if p.dpiMax > 0 ∧ dpi > p.dpiMax then p.dpiMax
  else dpi

def rebuildPresetModel (p : PresetList) : PresetList :=
  { p with dpiPresets := p.presetValues.mapIdx fun i value => (value, p.presetLabels.getD i "") }

def seedPresets (p : PresetList) (values : List UInt32) (labels : List String) : PresetList :=
  rebuildPresetModel { p with
    presetValues := values.map UInt32.toInt32
    presetLabels := values.mapIdx fun i _ => labels.getD i "" }

/-- The arguments of `SetPresets`. -/
abbrev Push := List UInt32 × List String

/-- `syncPresets`, with what it sends. -/
def syncPresets (p : PresetList) : PresetList × Option Push :=
  (rebuildPresetModel p, some (p.presetValues.map Int32.toUInt32, p.presetLabels))

/-- `seedDpiBounds`, as far as the bounds go. -/
def seedDpiBounds (p : PresetList) (dpis : List Int32) : PresetList :=
  match dpis.min?, dpis.max? with
  | some low, some high => { p with dpiMin := low, dpiMax := high }
  | _, _ => p

def addPreset (p : PresetList) (dpi : Int32) (label : String) : PresetList × Option Push :=
  syncPresets { p with
    presetValues := p.presetValues ++ [p.clampDpi dpi]
    presetLabels := p.presetLabels ++ [label] }

def removePreset (p : PresetList) (index : Int) : PresetList × Option Push :=
  if index < 0 ∨ index ≥ p.presetValues.length then (p, none)
  else
    syncPresets { p with
      presetValues := p.presetValues.eraseIdx index.toNat
      presetLabels :=
        if index < p.presetLabels.length then p.presetLabels.eraseIdx index.toNat
        else p.presetLabels }

def setPresetLabel (p : PresetList) (index : Int) (label : String) : PresetList × Option Push :=
  if index < 0 ∨ index ≥ p.presetLabels.length then (p, none)
  else if p.presetLabels[index.toNat]? = some label then (p, none)
  else syncPresets { p with presetLabels := p.presetLabels.set index.toNat label }

def setPresetValue (p : PresetList) (index : Int) (dpi : Int32) : PresetList × Option Push :=
  if index < 0 ∨ index ≥ p.presetValues.length then (p, none)
  else
    let clamped := p.clampDpi dpi
    if p.presetValues[index.toNat]? = some clamped then (p, none)
    else syncPresets { p with presetValues := p.presetValues.set index.toNat clamped }

end PresetList

/-! ## The interface and the daemon -/

inductive PresetEdit where
  | add (dpi : Int32) (label : String)
  | remove (index : Int)
  | setLabel (index : Int) (label : String)
  | setValue (index : Int) (dpi : Int32)
  /-- The reply to `GetDPIs`. -/
  | bounds (dpis : List Int32)
  deriving DecidableEq, Repr

def PresetList.edit (p : PresetList) : PresetEdit → PresetList × Option Push
  | .add dpi label => p.addPreset dpi label
  | .remove index => p.removePreset index
  | .setLabel index label => p.setPresetLabel index label
  | .setValue index dpi => p.setPresetValue index dpi
  | .bounds dpis => (p.seedDpiBounds dpis, none)

/-- The list of the interface, the presets of the daemon, and what was last sent. -/
structure PresetSession where
  gui : PresetList
  daemon : Option (List DpiPreset)
  lastPush : Option PresetList.Push := none

namespace PresetSession

def step (s : PresetSession) (edit : PresetEdit) : Option PresetSession :=
  match s.gui.edit edit with
  | (gui, some push) => some ⟨gui, DPI.setPresets push.1 push.2, some push⟩
  | (gui, none) => some { s with gui := gui }

/-- The interface after the reply to `GetPresets`, or without one. -/
def start (daemon : Option (List DpiPreset)) (seeded : Bool) : PresetSession where
  gui := if seeded then PresetList.seedPresets {} (DPI.getPresets daemon).1 (DPI.getPresets daemon).2 else {}
  daemon := daemon

def machine (daemon : Option (List DpiPreset)) (seeded : Bool) : Machine PresetSession PresetEdit where
  init := start daemon seeded
  step := step

end PresetSession

end Logid.Gui
