import Logid.Backend.Hidpp.Report
import Logid.Misc.BigEndian
import Logid.Misc.SortedMap

/-!
# Diverted buttons in a report

Rendering of `ReprogControls::divertedButtonEvent` (`features/ReprogControls.cpp:139-153`).
-/

namespace Logid.Backend.Hidpp20.ReprogControls

open Hidpp (Report)

/-- `std::set<uint16_t>` -/
abbrev CidSet := SortedMap UInt16 Unit (KeyLess.on UInt16.toNat)

/-- The loop over the control ids, two bytes for each; it ends at the first zero. -/
def insertCids : List UInt8 → CidSet → CidSet
  | high :: low :: rest, buttons =>
    let cid := BigEndian.word high low
    if cid ≠ 0 then insertCids rest (buttons.emplace cid ()) else buttons
  | _, buttons => buttons

def divertedButtonEvent (report : Report) : CidSet := insertCids report.params .empty

/-- The control ids before the first zero. -/
def reportedCids (report : Report) : List UInt16 :=
  (BigEndian.words report.params).takeWhile (· ≠ 0)

theorem cidLess_linear : (KeyLess.on UInt16.toNat).Linear :=
  KeyLess.on_linear fun _ _ => UInt16.toNat_inj.mp

theorem mem_insertCids {bytes : List UInt8} {buttons : CidSet} {i : UInt16} :
    i ∈ (insertCids bytes buttons).keys ↔
      i ∈ (BigEndian.words bytes).takeWhile (· ≠ 0) ∨ i ∈ buttons.keys := by
  fun_induction insertCids bytes buttons with
  | case1 high low rest buttons cid hcid ih =>
    rw [ih, SortedMap.mem_keys_emplace cidLess_linear, BigEndian.words,
      List.takeWhile_cons_of_pos (by simpa using hcid), List.mem_cons, or_left_comm, or_assoc]
  | case2 high low rest buttons cid hcid =>
    rw [BigEndian.words, List.takeWhile_cons_of_neg (by simpa using hcid)]
    simp
  | case3 bytes buttons hshort =>
    match bytes, hshort with
    | [], _ => simp [BigEndian.words]
    | [byte], _ => simp [BigEndian.words]
    | high :: low :: rest, hshort => exact absurd rfl (hshort high low rest)

/-- The event is the set of the control ids before the first zero. -/
theorem mem_divertedButtonEvent {report : Report} {i : UInt16} :
    i ∈ (divertedButtonEvent report).keys ↔ i ∈ reportedCids report := by
  rw [divertedButtonEvent, mem_insertCids, reportedCids]
  exact or_iff_left List.not_mem_nil

end Logid.Backend.Hidpp20.ReprogControls
