import Logid.Backend.Hidpp10.ReceiverEvents
import Logid.Misc.Machine

/-!
# The discovery of one device

The reports by which a Bolt receiver announces a device, in any order and any number, handed to
`Receiver::fillDeviceDiscoveryEvent` one after the other. Name reports of other sequences come in
between.
-/

namespace Logid.Backend.Hidpp10

open Logid.Backend.Hidpp (Report)
open Receiver (param blockSize fillDeviceDiscoveryEvent)

/-- What a receiver announces: a header report and a name. -/
structure Transmission where
  header : Report
  name : List UInt8
  header_discovered : header.type = .long ∧ header.subId = Receiver.deviceDiscovered
  header_block : param header 1 = 0
  name_ne_nil : name ≠ []
  name_length : name.length ≤ 255

namespace Transmission

variable (t : Transmission)

/-- The event that the reports spell out. -/
def event : DeviceDiscoveryEvent := { Receiver.headerEvent t.header with name := t.name }

/-- The number of name reports. -/
def blocks : Nat := (t.name.length + (blockSize - 1)) / blockSize

/-- A report whose block number is not zero carries its part of the name. -/
def Carries (report : Report) : Prop :=
  (param report 1).toNat ≤ t.blocks ∧
    (param report 1 = 1 → (param report 2).toNat = t.name.length) ∧
      ∀ i < blockSize, ((param report 1).toNat - 1) * blockSize + i < t.name.length →
        t.name[((param report 1).toNat - 1) * blockSize + i]? = some (param report (i + 3))

instance decidableCarries (report : Report) : Decidable (t.Carries report) := by
  unfold Carries
  infer_instance

inductive Kind where
  | header
  /-- The name report with this block number. -/
  | block (number : Nat)
  /-- A name report with another sequence number. -/
  | foreign (number : Nat)
  deriving DecidableEq, Repr

/-- What a report is; `none` if it is no part of such a discovery. -/
def kind (report : Report) : Option Kind :=
  if ¬(report.type = .long ∧ report.subId = Receiver.deviceDiscovered) then none
  else if report = t.header then some .header
  else if param report 1 = 0 then none
  else if report.address ≠ t.header.address then some (.foreign (param report 1).toNat)
  else if t.Carries report then some (.block (param report 1).toNat)
  else none

/-- The list holds the numbers of all name reports. -/
def AllIn (numbers : List Nat) : Prop := ∀ i < t.blocks, i + 1 ∈ numbers

instance decidableAllIn (numbers : List Nat) : Decidable (t.AllIn numbers) := by
  unfold AllIn
  infer_instance

end Transmission

namespace Discovery

/-- The event that is being filled, what was received and what the last call did. -/
structure Session where
  event : DeviceDiscoveryEvent := {}
  header : Bool := false
  /-- The blocks received since the last header report, with which the event was begun anew. -/
  fresh : List Nat := []
  /-- The blocks received in the sequence; a second header report begins it anew. -/
  received : List Nat := []
  /-- The block number of the last report. -/
  block : Nat := 0
  /-- The last report was the one that completed the header and all blocks. -/
  completed : Bool := false
  returned : Bool := false
  deriving DecidableEq

/-- The block completes what was received of the sequence. -/
def Completes (t : Transmission) (s : Session) (number : Nat) : Prop :=
  number ∉ s.received ∧ t.AllIn (number :: s.received)

instance decidableCompletes (t : Transmission) (s : Session) (number : Nat) :
    Decidable (Completes t s number) := by
  unfold Completes
  infer_instance

def step (t : Transmission) (s : Session) (report : Report) : Option Session := do
  let kind ← t.kind report
  let filled := fillDeviceDiscoveryEvent s.event report
  match kind with
  | .header =>
    return {
      event := filled.1
      header := true
      fresh := []
      received := if s.header then [] else s.received
      block := 0
      completed := !s.header && decide (t.AllIn s.received)
      returned := filled.2 }
  | .block number =>
    return {
      event := filled.1
      header := s.header
      fresh := number :: s.fresh
      received := number :: s.received
      block := number
      completed := s.header && decide (Completes t s number)
      returned := filled.2 }
  | .foreign number =>
    return { s with
      event := filled.1
      block := number
      completed := false
      returned := filled.2 }

def machine (t : Transmission) : Machine Session Report where
  init := {}
  step := step t

/-- The last call returned `true` if it had to, with the whole event, and only if it might. -/
def Right (t : Transmission) (s : Session) : Prop :=
  (s.completed = true → s.returned = true ∧ s.event = t.event) ∧
    (s.returned = true → s.header = true ∧ ∀ k, 1 ≤ k → k < s.block → k ∈ s.fresh)

/-- The length of the name while a name report is written into it. -/
def nameLength (event : DeviceDiscoveryEvent) (report : Report) : Nat :=
  if param report 1 = 1 then (param report 2).toNat else event.name.length

/-- A name report that comes before the header is for another sequence, or the name that happens to
be there takes all of it. -/
def Early (event : DeviceDiscoveryEvent) (report : Report) : Prop :=
  event.seqNum = report.address → (param report 1).toNat * blockSize ≤ nameLength event report

/-- The header is not the last report to come. After it the first block comes before the others, the
last one comes after all others if the name ends within it, and the report that completes
the name is a last block of that kind. -/
def InOrder (t : Transmission) (s : Session) (report : Report) : Prop :=
  match t.kind report, s.header with
  | none, _ => True
  | some .header, header => header = true ∨ ¬t.AllIn s.received
  | some (.block _), false => Early s.event report
  | some (.foreign _), false => Early s.event report
  | some (.foreign _), true => True
  | some (.block number), true =>
    (number = 1 ∨ 1 ∈ s.fresh) ∧
      (number = t.blocks → ¬blockSize ∣ t.name.length →
        ∀ k, 1 ≤ k → k < number → k ∈ s.fresh) ∧
      (Completes t s number → number = t.blocks ∧ ¬blockSize ∣ t.name.length)

end Discovery

end Logid.Backend.Hidpp10
