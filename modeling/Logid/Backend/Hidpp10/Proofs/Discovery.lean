import Logid.Backend.Hidpp10.Discovery

/-!
# When a discovered device is assembled

The function learns that a name is complete from running over its end, so a name that fills its last
block is never complete, and a last block that comes early completes what is not. What remains is
exact: in a run of reports every call is right if and only if they come in the order that
`InOrder` describes.
-/

namespace Logid.Backend.Hidpp10

open Logid.Backend.Hidpp (Report)
open Receiver (param blockSize fillDeviceDiscoveryEvent blockBytes writeBlock resizeName)

/-! ### One call -/

theorem fill_header {report : Report} (h : param report 1 = 0) (event : DeviceDiscoveryEvent) :
    fillDeviceDiscoveryEvent event report = (Receiver.headerEvent report, false) := if_pos h

theorem fill_foreign {report : Report} {event : DeviceDiscoveryEvent} (h : param report 1 ≠ 0)
    (hseq : event.seqNum ≠ report.address) :
    fillDeviceDiscoveryEvent event report = (event, false) := by
  rw [fillDeviceDiscoveryEvent, if_neg h, if_pos hseq]

/-- The name into which a report's block is written. -/
def nameBefore (event : DeviceDiscoveryEvent) (report : Report) : List UInt8 :=
  if param report 1 = 1 then resizeName event.name (param report 2).toNat else event.name

theorem length_nameBefore (event : DeviceDiscoveryEvent) (report : Report) :
    (nameBefore event report).length = Discovery.nameLength event report := by
  unfold nameBefore Discovery.nameLength
  split
  · exact Receiver.length_resizeName _ _
  · rfl

theorem one_le_number {report : Report} (h : param report 1 ≠ 0) : 1 ≤ (param report 1).toNat := by
  have hne : (param report 1).toNat ≠ 0 := fun hzero => h (UInt8.toNat_inj.mp hzero)
  omega

/-- A name report of the sequence ends the name exactly if it reaches beyond it. -/
theorem fill_block {report : Report} {event : DeviceDiscoveryEvent} (h : param report 1 ≠ 0)
    (hseq : event.seqNum = report.address) :
    fillDeviceDiscoveryEvent event report =
      ({ event with
          name := (writeBlock (nameBefore event report)
            (((param report 1).toNat - 1) * blockSize) (blockBytes report)).1 },
        decide (Discovery.nameLength event report < (param report 1).toNat * blockSize)) := by
  have hbytes : blockBytes report ≠ [] :=
    List.ne_nil_of_length_pos (by rw [Receiver.length_blockBytes]; decide)
  have hend : ((param report 1).toNat - 1) * blockSize + blockSize =
      (param report 1).toNat * blockSize := by
    rw [← Nat.succ_mul, Nat.succ_eq_add_one, Nat.sub_add_cancel (one_le_number h)]
  have hreturned := Receiver.writeBlock_ends (nameBefore event report)
    (((param report 1).toNat - 1) * blockSize) hbytes
  rw [Receiver.length_blockBytes, hend, length_nameBefore] at hreturned
  rw [fillDeviceDiscoveryEvent, if_neg h, if_neg (not_not.mpr hseq), ← hreturned]
  rfl

theorem fill_returned_iff {report : Report} (h : param report 1 ≠ 0)
    (event : DeviceDiscoveryEvent) :
    (fillDeviceDiscoveryEvent event report).2 = true ↔
      event.seqNum = report.address ∧
        Discovery.nameLength event report < (param report 1).toNat * blockSize := by
  by_cases hseq : event.seqNum = report.address
  · rw [fill_block h hseq, decide_eq_true_iff]
    exact (and_iff_right hseq).symm
  · rw [fill_foreign h hseq]
    exact iff_of_false nofun fun hand => hseq hand.1

/-- Before the header a call is right exactly if it returns `false`. -/
theorem early_iff {report : Report} (h : param report 1 ≠ 0) (event : DeviceDiscoveryEvent) :
    Discovery.Early event report ↔ (fillDeviceDiscoveryEvent event report).2 = false := by
  rw [← Bool.not_eq_true, fill_returned_iff h, not_and]
  simp only [Nat.not_lt]
  exact Iff.rfl

namespace Transmission

variable {t : Transmission}

theorem kind_eq_header {report : Report} (h : t.kind report = some .header) :
    report = t.header := by
  unfold kind at h
  grind

theorem kind_eq_foreign {report : Report} {k : Nat} (h : t.kind report = some (.foreign k)) :
    param report 1 ≠ 0 ∧ report.address ≠ t.header.address ∧ k = (param report 1).toNat := by
  unfold kind at h
  grind

theorem kind_eq_block {report : Report} {k : Nat} (h : t.kind report = some (.block k)) :
    param report 1 ≠ 0 ∧ report.address = t.header.address ∧ t.Carries report ∧
      k = (param report 1).toNat := by
  unfold kind at h
  grind

theorem one_le_length (t : Transmission) : 1 ≤ t.name.length :=
  List.length_pos_of_ne_nil t.name_ne_nil

theorem blockSize_eq : blockSize = 13 := rfl

/-- Only a last block that the name does not fill reaches beyond it. -/
theorem length_lt_iff {k : Nat} (hle : k ≤ t.blocks) :
    t.name.length < k * blockSize ↔ k = t.blocks ∧ ¬blockSize ∣ t.name.length := by
  rw [blocks] at hle ⊢
  rw [blockSize_eq] at hle ⊢
  omega

/-- Every byte of the name is in one block. -/
theorem exists_block {p : Nat} (hp : p < t.name.length) :
    ∃ i < t.blocks, i * blockSize ≤ p ∧ p < (i + 1) * blockSize := by
  refine ⟨p / blockSize, ?_, ?_, ?_⟩
  all_goals
    simp only [blocks, blockSize_eq]
    omega

theorem one_le_blocks (t : Transmission) : 1 ≤ t.blocks := by
  have hpos := t.one_le_length
  rw [blocks, blockSize_eq]
  omega

theorem Carries.le {report : Report} (h : t.Carries report) :
    (param report 1).toNat ≤ t.blocks := h.1

/-- The bytes that a name report carries are those of the name. -/
theorem Carries.bytes {report : Report} (h : t.Carries report) {p : Nat}
    (hle : ((param report 1).toNat - 1) * blockSize ≤ p)
    (hlt : p < ((param report 1).toNat - 1) * blockSize + blockSize) (hp : p < t.name.length) :
    (blockBytes report)[p - ((param report 1).toNat - 1) * blockSize]? = t.name[p]? := by
  have hi : p - ((param report 1).toNat - 1) * blockSize < blockSize := by omega
  have hsum : ((param report 1).toNat - 1) * blockSize +
      (p - ((param report 1).toNat - 1) * blockSize) = p := by omega
  have hbyte := h.2.2 _ hi (by rw [hsum]; exact hp)
  rw [hsum] at hbyte
  rw [Receiver.getElem?_blockBytes report hi, hbyte]

end Transmission

namespace Discovery

variable {t : Transmission}

/-- What the event holds once the header has been received. -/
structure Filled (t : Transmission) (s : Session) : Prop where
  fields : s.event = { t.event with name := s.event.name }
  first : s.fresh ≠ [] → 1 ∈ s.fresh
  length : s.event.name.length = if 1 ∈ s.fresh then t.name.length else 0
  bytes : ∀ k ∈ s.fresh, ∀ p, (k - 1) * blockSize ≤ p → p < (k - 1) * blockSize + blockSize →
    p < t.name.length → s.event.name[p]? = t.name[p]?

theorem Filled.same {s u : Session} (h : Filled t s) (hevent : u.event = s.event)
    (hfresh : u.fresh = s.fresh) : Filled t u := by
  constructor
  · rw [hevent]
    exact h.fields
  · rw [hfresh]
    exact h.first
  · rw [hevent, hfresh]
    exact h.length
  · rw [hevent, hfresh]
    exact h.bytes

/-- An event with all the blocks is the one that was transmitted. -/
theorem Filled.event_eq {s : Session} (h : Filled t s) (hall : t.AllIn s.fresh) :
    s.event = t.event := by
  have hone : 1 ∈ s.fresh := hall 0 t.one_le_blocks
  have hlength : s.event.name.length = t.name.length := by rw [h.length, if_pos hone]
  have hname : s.event.name = t.name := by
    apply List.ext_getElem?
    intro p
    by_cases hp : p < t.name.length
    · obtain ⟨i, hi, hle, hlt⟩ := Transmission.exists_block hp
      exact h.bytes (i + 1) (hall i hi) p hle (by rw [← Nat.succ_mul]; exact hlt) hp
    · rw [List.getElem?_eq_none (by omega), List.getElem?_eq_none (by omega)]
  rw [h.fields, hname]
  rfl

theorem Filled.seqNum {s : Session} (h : Filled t s) : s.event.seqNum = t.header.address := by
  rw [h.fields]
  rfl

/-- The name before a block is written: it has its length once the first block is among those
received. -/
theorem Filled.nameLength_eq {s : Session} (h : Filled t s) {report : Report}
    (hcarries : t.Carries report) :
    nameLength s.event report =
      if (param report 1).toNat = 1 ∨ 1 ∈ s.fresh then t.name.length else 0 := by
  unfold nameLength
  by_cases hone : param report 1 = 1
  · rw [if_pos hone, hcarries.2.1 hone, if_pos (Or.inl (by rw [hone]; rfl))]
  · have hne : (param report 1).toNat ≠ 1 := fun heq => hone (UInt8.toNat_inj.mp heq)
    rw [if_neg hone, h.length]
    simp only [hne, false_or]

theorem filled_header (t : Transmission) (s : Session) :
    Filled t { s with event := Receiver.headerEvent t.header, fresh := [] } where
  fields := rfl
  first := fun hne => absurd rfl hne
  length := rfl
  bytes := by simp

/-- A block written after the first one, or as the first one, keeps what the event holds. -/
theorem Filled.block {s : Session} (h : Filled t s) {report : Report} (hne : param report 1 ≠ 0)
    (hseq : report.address = t.header.address) (hcarries : t.Carries report)
    (hfirst : (param report 1).toNat = 1 ∨ 1 ∈ s.fresh) :
    Filled t { s with
      event := (fillDeviceDiscoveryEvent s.event report).1
      fresh := (param report 1).toNat :: s.fresh } := by
  have hlength : (nameBefore s.event report).length = t.name.length := by
    rw [length_nameBefore, h.nameLength_eq hcarries, if_pos hfirst]
  have hone : 1 ∈ (param report 1).toNat :: s.fresh := by
    rcases hfirst with heq | hmem
    · rw [heq]
      exact List.mem_cons_self
    · exact List.mem_cons_of_mem _ hmem
  have hevent : (fillDeviceDiscoveryEvent s.event report).1 = { s.event with
      name := (writeBlock (nameBefore s.event report) (((param report 1).toNat - 1) * blockSize)
        (blockBytes report)).1 } := by
    rw [fill_block hne (h.seqNum.trans hseq.symm)]
  refine ⟨?_, fun _ => hone, ?_, ?_⟩
  · simp only [hevent]
    rw [h.fields]
  · simp only [hevent, Receiver.length_writeBlock]
    rw [hlength, if_pos hone]
  · intro k hk p hle hlt hp
    simp only [hevent]
    rw [Receiver.getElem?_writeBlock _ _ _ (by rw [hlength]; exact hp), Receiver.length_blockBytes]
    by_cases hin : ((param report 1).toNat - 1) * blockSize ≤ p ∧
        p < ((param report 1).toNat - 1) * blockSize + blockSize
    · rw [if_pos hin]
      exact hcarries.bytes hin.1 hin.2 hp
    · rw [if_neg hin]
      -- the byte was written by an earlier block, so the name already had its length
      have hmem : k ∈ s.fresh := by
        rcases List.mem_cons.mp hk with rfl | hmem
        · exact absurd ⟨hle, hlt⟩ hin
        · exact hmem
      have hbefore : nameBefore s.event report = s.event.name := by
        have hnameLength : s.event.name.length = t.name.length := by
          rw [h.length, if_pos (h.first (List.ne_nil_of_mem hmem))]
        unfold nameBefore
        split
        next honeReport =>
          rw [hcarries.2.1 honeReport, Receiver.resizeName_eq_self hnameLength]
        next => rfl
      rw [hbefore]
      exact h.bytes k hmem p hle hlt hp

/-- After the header a block ends the name if it is the first received and not block 1, or a
last block that is not full. -/
theorem Filled.returned_iff {s : Session} (h : Filled t s) {report : Report}
    (hne : param report 1 ≠ 0) (hseq : report.address = t.header.address)
    (hcarries : t.Carries report) :
    (fillDeviceDiscoveryEvent s.event report).2 = true ↔
      ((param report 1).toNat = 1 ∨ 1 ∈ s.fresh →
        (param report 1).toNat = t.blocks ∧ ¬blockSize ∣ t.name.length) := by
  rw [fill_returned_iff hne, and_iff_right (h.seqNum.trans hseq.symm), h.nameLength_eq hcarries]
  have hpos : 0 < (param report 1).toNat * blockSize :=
    Nat.mul_pos (one_le_number hne) (by decide)
  split
  next hfirst => rw [Transmission.length_lt_iff hcarries.le, forall_prop_of_true hfirst]
  next hfirst => exact iff_of_true hpos fun hcontra => absurd hcontra hfirst

/-- What a report is and what the call makes of the session. -/
inductive Receipt (t : Transmission) (s : Session) (report : Report) (u : Session) : Prop
  | header (hkind : t.kind report = some .header) (hreport : report = t.header)
      (hu : u = {
        event := Receiver.headerEvent t.header
        header := true
        fresh := []
        received := if s.header then [] else s.received
        block := 0
        completed := !s.header && decide (t.AllIn s.received)
        returned := false })
  | block (hkind : t.kind report = some (.block (param report 1).toNat))
      (hne : param report 1 ≠ 0) (hseq : report.address = t.header.address)
      (hcarries : t.Carries report)
      (hu : u = {
        event := (fillDeviceDiscoveryEvent s.event report).1
        header := s.header
        fresh := (param report 1).toNat :: s.fresh
        received := (param report 1).toNat :: s.received
        block := (param report 1).toNat
        completed := s.header && decide (Completes t s (param report 1).toNat)
        returned := (fillDeviceDiscoveryEvent s.event report).2 })
  | foreign (hkind : t.kind report = some (.foreign (param report 1).toNat))
      (hne : param report 1 ≠ 0) (hother : report.address ≠ t.header.address)
      (hu : u = { s with
        event := (fillDeviceDiscoveryEvent s.event report).1
        block := (param report 1).toNat
        completed := false
        returned := (fillDeviceDiscoveryEvent s.event report).2 })

theorem receipt {s u : Session} {report : Report} (hstep : step t s report = some u) :
    Receipt t s report u := by
  cases hkind : t.kind report with
  | none =>
    simp only [step, hkind, Option.bind_eq_bind, Option.bind_none, reduceCtorEq] at hstep
  | some kind =>
    simp only [step, hkind, Option.bind_eq_bind, Option.bind_some, Option.pure_def] at hstep
    cases kind with
    | header =>
      cases Transmission.kind_eq_header hkind
      rw [fill_header t.header_block] at hstep
      exact .header hkind rfl (Option.some.inj hstep).symm
    | block number =>
      obtain ⟨hne, hseq, hcarries, rfl⟩ := Transmission.kind_eq_block hkind
      exact .block hkind hne hseq hcarries (Option.some.inj hstep).symm
    | foreign number =>
      obtain ⟨hne, hother, rfl⟩ := Transmission.kind_eq_foreign hkind
      exact .foreign hkind hne hother (Option.some.inj hstep).symm

/-- What the calls so far, all of them right, have made of the session. -/
def Sound (t : Transmission) (s : Session) : Prop := s.header = true → Filled t s

theorem sound_init (t : Transmission) : Sound t {} := nofun

theorem right_init (t : Transmission) : Right t {} := ⟨nofun, nofun⟩

/-- Blocks that the header and all the others precede complete the name. -/
theorem allIn_fresh {s : Session} {number : Nat} (hlast : number = t.blocks)
    (h : ∀ k, 1 ≤ k → k < number → k ∈ s.fresh) : t.AllIn (number :: s.fresh) := by
  intro i hi
  by_cases heq : i + 1 = number
  · rw [heq]
    exact List.mem_cons_self
  · exact List.mem_cons_of_mem _ (h (i + 1) (by omega) (by omega))

/-- A block after the header: the call is right exactly if the block comes in order. -/
theorem right_block_iff {s : Session} (h : Filled t s) {report : Report} (hne : param report 1 ≠ 0)
    (hseq : report.address = t.header.address) (hcarries : t.Carries report) {number : Nat}
    (hnumber : (param report 1).toNat = number) :
    ((Completes t s number → (fillDeviceDiscoveryEvent s.event report).2 = true ∧
          (fillDeviceDiscoveryEvent s.event report).1 = t.event) ∧
        ((fillDeviceDiscoveryEvent s.event report).2 = true →
          ∀ k, 1 ≤ k → k < number → k ∈ number :: s.fresh)) ↔
      (number = 1 ∨ 1 ∈ s.fresh) ∧
        (number = t.blocks → ¬blockSize ∣ t.name.length →
          ∀ k, 1 ≤ k → k < number → k ∈ s.fresh) ∧
        (Completes t s number → number = t.blocks ∧ ¬blockSize ∣ t.name.length) := by
  subst hnumber
  constructor
  · rintro ⟨hcompletes, hreturned⟩
    have hfirst : (param report 1).toNat = 1 ∨ 1 ∈ s.fresh := by
      by_contra hnot
      have hret := (h.returned_iff hne hseq hcarries).mpr fun hcontra => absurd hcontra hnot
      have hone := one_le_number hne
      have hmem := hreturned hret 1 (Nat.le_refl 1) (by omega)
      grind
    have hret_iff := h.returned_iff hne hseq hcarries
    rw [forall_prop_of_true hfirst] at hret_iff
    refine ⟨hfirst, fun hlast hrest k hk hlt => ?_, fun hc => ?_⟩
    · have hmem := hreturned (hret_iff.mpr ⟨hlast, hrest⟩) k hk hlt
      exact (List.mem_cons.mp hmem).resolve_left (Nat.ne_of_lt hlt)
    · exact hret_iff.mp (hcompletes hc).1
  · rintro ⟨hfirst, hlast, hcompletes⟩
    have hret_iff := h.returned_iff hne hseq hcarries
    rw [forall_prop_of_true hfirst] at hret_iff
    refine ⟨fun hc => ?_, fun hret k hk hlt => ?_⟩
    · have hend := hcompletes hc
      have hfilled := h.block hne hseq hcarries hfirst
      exact ⟨hret_iff.mpr hend, hfilled.event_eq (allIn_fresh hend.1 (hlast hend.1 hend.2))⟩
    · have hend := hret_iff.mp hret
      exact List.mem_cons_of_mem _ (hlast hend.1 hend.2 k hk hlt)

theorem right_step_iff {s u : Session} {report : Report} (h : Sound t s)
    (hstep : step t s report = some u) : Right t u ↔ InOrder t s report := by
  cases receipt hstep with
  | header hkind hreport hu =>
    subst hu
    simp only [Right, InOrder, hkind]
    cases s.header <;> simp
  | block hkind hne hseq hcarries hu =>
    subst hu
    cases hheader : s.header with
    | true =>
      simp only [Right, InOrder, hkind, hheader, Bool.true_and, decide_eq_true_iff, true_and]
      exact right_block_iff (h hheader) hne hseq hcarries rfl
    | false =>
      simp only [Right, InOrder, hkind, hheader, early_iff hne]
      simp
  | foreign hkind hne hother hu =>
    subst hu
    cases hheader : s.header with
    | true =>
      have hseq : s.event.seqNum ≠ report.address := (h hheader).seqNum ▸ hother.symm
      simp [Right, InOrder, hkind, hheader, fill_foreign hne hseq]
    | false =>
      simp only [Right, InOrder, hkind, hheader, early_iff hne]
      simp

theorem sound_step {s u : Session} {report : Report} (h : Sound t s)
    (hstep : step t s report = some u) (hright : Right t u) : Sound t u := by
  have horder : InOrder t s report := (right_step_iff h hstep).mp hright
  cases receipt hstep with
  | header hkind hreport hu =>
    subst hu
    intro _
    exact (filled_header t s).same rfl rfl
  | block hkind hne hseq hcarries hu =>
    subst hu
    intro hheader
    simp only [InOrder, hkind, show s.header = true from hheader] at horder
    exact ((h hheader).block hne hseq hcarries horder.1).same rfl rfl
  | foreign hkind hne hother hu =>
    subst hu
    intro hheader
    have hseq : s.event.seqNum ≠ report.address := (h hheader).seqNum ▸ hother.symm
    refine (h hheader).same ?_ rfl
    rw [fill_foreign hne hseq]

/-- In a sequence of reports every call of the function is right exactly if they all come in
order. -/
theorem always_right_iff (t : Transmission) (reports : List Report) :
    (machine t).Always (Right t) {} reports ↔ (machine t).Meets (InOrder t) {} reports := by
  have hJ : ∀ s a u, Sound t s → Right t s → (machine t).step s a = some u → Right t u →
      Sound t u := fun s a u h _ hstep hright => sound_step h hstep hright
  have hiff : ∀ s a u, Sound t s → Right t s → (machine t).step s a = some u →
      (Right t u ↔ InOrder t s a) := fun s a u h _ hstep => right_step_iff h hstep
  exact Machine.always_iff_meets hJ hiff (sound_init t) (right_init t)

/-- A report of the sequence with the number 1. -/
def report (params : List UInt8) : Report :=
  (Report.ofSubId .long 0xff Receiver.deviceDiscovered 1).copyParams params

/-- A mouse with a name of one full block. -/
def wirelessMouse : Transmission where
  header := report [0, 0, 0, 2, 0x34, 0xb0, 1, 2, 3, 4, 5, 6, 0, 0, 1]
  name := "Wireless M310".toList.map fun c => c.toNat.toUInt8
  header_discovered := by decide
  header_block := by decide
  name_ne_nil := by decide
  name_length := by decide

def wirelessMouseReports : List Report :=
  [wirelessMouse.header, report ([0, 1, 13] ++ wirelessMouse.name)]

theorem wirelessMouse_neverComplete :
    ¬(machine wirelessMouse).Always (Right wirelessMouse) {} wirelessMouseReports := by
  have hlast : ((machine wirelessMouse).run {} wirelessMouseReports).map
      (fun s => (s.completed, s.returned)) = some (true, false) := by decide
  obtain ⟨s, hrun, hs⟩ := Option.map_eq_some_iff.mp hlast
  simp only [Prod.mk.injEq] at hs
  intro h
  rw [← List.append_nil wirelessMouseReports] at h
  have hreturned := ((h.of_run hrun).1 hs.1).1
  rw [hs.2] at hreturned
  exact absurd hreturned nofun

end Discovery

end Logid.Backend.Hidpp10
