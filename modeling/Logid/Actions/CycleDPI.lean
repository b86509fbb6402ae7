import Logid.Config.Schema
import Logid.Misc.Machine

/-!
# Cycling through DPIs

Rendering of `actions/CycleDPI.cpp`: the constructor (29-52), `setDPIs` (60-65) and `press` (67-91),
with the iterator `_current_dpi` as a place in the list.
-/

namespace Logid.Actions.CycleDPI

/-- What a press asks the DPI feature for. -/
structure Request where
  dpi : Int32
  sensor : Int32
  deriving DecidableEq, Repr

structure Object where
  /-- The device has the DPI feature. -/
  dpi : Bool
  config : Config.CycleDPI
  /-- `_current_dpi`; `none` where it belongs to no list, and the length of the list for its end. -/
  current : Option Nat

def construct (dpi : Bool) (config : Config.CycleDPI) : Object where
  dpi := dpi
  config := config
  current := config.dpis.map fun _ => 0

def setDPIs (o : Object) (dpis : List Int32) : Object :=
  { o with config := { o.config with dpis := some dpis }, current := some 0 }

/-- `++` of an iterator; `none` where it is undefined, past the end or without a list. -/
def increment (dpis : List Int32) (current : Option Nat) : Option Nat := do
  let place ← current
  if place < dpis.length then some (place + 1) else none

/-- The request is queued as a task. `none` where the press is undefined. -/
def press (o : Object) : Option (Object × Option Request) :=
  match o.config.dpis with
  | none => some (o, none)
  | some dpis =>
    -- the source has no `!` before `empty()`
    if o.dpi && dpis.isEmpty then do
      let place ← increment dpis o.current
      let place := if place = dpis.length then 0 else place
      let dpi ← dpis[place]?
      return ({ o with current := some place }, some { dpi, sensor := o.config.sensor.getD 0 })
    else some (o, none)

/-! ## Runs -/

/-- A press of a run: the list it found, which one it was since the list was set, and what it asked
for. -/
structure Pressed where
  dpis : Option (List Int32)
  sensor : Int32
  count : Nat
  request : Option Request

structure State where
  object : Object
  /-- The presses since construction or the last `SetDPIs`. -/
  count : Nat
  pressed : List Pressed

inductive Label where
  | press
  | setDPIs (dpis : List Int32)
  deriving DecidableEq, Repr

def step (s : State) : Label → Option State
  | .setDPIs dpis => some { s with object := setDPIs s.object dpis, count := 0 }
  | .press => do
    let (object, request) ← press s.object
    return {
      object
      count := s.count + 1
      pressed := {
        dpis := s.object.config.dpis
        sensor := s.object.config.sensor.getD 0
        count := s.count + 1
        request } :: s.pressed }

def machine (dpi : Bool) (config : Config.CycleDPI) : Machine State Label where
  init := { object := construct dpi config, count := 0, pressed := [] }
  step := step

/-! ## What a press should ask for -/

/-- The entry for a press. -/
def entry (dpis : List Int32) (count : Nat) : Option Int32 := dpis[count % dpis.length]?

/-- Every press has asked for the entry of its count, and for nothing without one. -/
def Cycles (s : State) : Prop :=
  ∀ p ∈ s.pressed,
    p.request = ((p.dpis.bind fun dpis => entry dpis p.count).map fun dpi => { dpi, sensor := p.sensor })

/-- A press finds no list, or no feature and an empty one. -/
def FindsNoList (s : State) : Label → Prop
  | .press => s.object.config.dpis = none ∨ s.object.dpi = false ∧ s.object.config.dpis = some []
  | .setDPIs _ => True

end Logid.Actions.CycleDPI
