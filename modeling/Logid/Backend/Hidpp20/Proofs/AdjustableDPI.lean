import Logid.Backend.Hidpp20.AdjustableDPI

/-!
# Reading past the end of a DPI list

The parameters of a long report after the first byte are odd in number, so the loop leaves them only
where it finds a zero entry.
-/

namespace Logid.Backend.Hidpp20.AdjustableDPI

open Hidpp (Report ReportType)

/-- More entries after those that a list was made of. -/
def extend (dpiList : SensorDPIList) (entries : List UInt16) : SensorDPIList where
  dpis := dpiList.dpis ++ (ofEntries entries).dpis
  isRange := dpiList.isRange || (ofEntries entries).isRange
  dpiStep := if (ofEntries entries).isRange then (ofEntries entries).dpiStep else dpiList.dpiStep

theorem extend_nil (dpiList : SensorDPIList) : extend dpiList [] = dpiList := by
  simp [extend, ofEntries]

theorem extend_cons_dpi (dpiList : SensorDPIList) {dpi : UInt16} (entries : List UInt16)
    (hdpi : ¬rangeMarker ≤ dpi) :
    extend dpiList (dpi :: entries) =
      extend { dpiList with dpis := dpiList.dpis ++ [dpi] } entries := by
  have hlt : dpi < rangeMarker := UInt16.not_le.mp hdpi
  simp [extend, ofEntries, hdpi, hlt]

theorem extend_cons_marker (dpiList : SensorDPIList) {dpi : UInt16} (entries : List UInt16)
    (hdpi : rangeMarker ≤ dpi) :
    extend dpiList (dpi :: entries) =
      extend { dpiList with isRange := true, dpiStep := dpi - rangeMarker } entries := by
  have hlt : ¬dpi < rangeMarker := UInt16.not_lt.mpr hdpi
  -- without another marker the step is the one of this entry
  cases hlast : entries.reverse.find? fun entry => rangeMarker ≤ entry with
  | none =>
    have hnone : ∀ entry ∈ entries, ¬rangeMarker ≤ entry := by simpa using hlast
    have hany : (entries.any fun entry => rangeMarker ≤ entry) = false := by simpa using hnone
    simp [extend, ofEntries, hdpi, hlt, List.getLast?_cons, hlast, hany]
  | some last =>
    have hmem : last ∈ entries := List.mem_reverse.mp (List.mem_of_find?_eq_some hlast)
    have hle : rangeMarker ≤ last := by simpa using List.find?_some hlast
    have hany : (entries.any fun entry => rangeMarker ≤ entry) = true :=
      List.any_eq_true.mpr ⟨last, hmem, by simpa using hle⟩
    simp [extend, ofEntries, hdpi, hlt, List.getLast?_cons, hlast, hany]

/-- The loop stays in bounds exactly if the bytes are even in number or an entry is zero. -/
theorem decodeEntries_eq_some_iff (bytes : List UInt8) (dpiList : SensorDPIList) :
    decodeEntries bytes dpiList =
        some (extend dpiList ((BigEndian.words bytes).takeWhile (· ≠ 0))) ↔
      bytes.length % 2 = 0 ∨ 0 ∈ BigEndian.words bytes := by
  fun_induction decodeEntries bytes dpiList with
  | case1 dpiList => simp [BigEndian.words, extend_nil]
  | case2 byte dpiList => simp [BigEndian.words]
  | case3 high low rest dpiList dpi hzero =>
    have hword : BigEndian.word high low = 0 := hzero
    simp [BigEndian.words, hword, extend_nil]
  | case4 high low rest dpiList dpi hzero hmarker ih =>
    have hword : BigEndian.word high low ≠ 0 := hzero
    rw [BigEndian.words, List.takeWhile_cons_of_pos (by simpa using hword),
      extend_cons_marker dpiList _ hmarker, ih, List.mem_cons, List.length_cons, List.length_cons,
      or_iff_right (Ne.symm hword), Nat.add_assoc, Nat.add_mod_right]
  | case5 high low rest dpiList dpi hzero hmarker ih =>
    have hword : BigEndian.word high low ≠ 0 := hzero
    rw [BigEndian.words, List.takeWhile_cons_of_pos (by simpa using hword),
      extend_cons_dpi dpiList _ hmarker, ih, List.mem_cons, List.length_cons, List.length_cons,
      or_iff_right (Ne.symm hword), Nat.add_assoc, Nat.add_mod_right]

theorem ofEntries_eq_extend (entries : List UInt16) : ofEntries entries = extend {} entries := by
  cases hlast : entries.reverse.find? fun entry => rangeMarker ≤ entry with
  | none => simp [extend, ofEntries, hlast]
  | some last =>
    have hany : (entries.any fun entry => rangeMarker ≤ entry) = true := by
      have hmem : last ∈ entries := List.mem_reverse.mp (List.mem_of_find?_eq_some hlast)
      exact List.any_eq_true.mpr ⟨last, hmem, by simpa using List.find?_some hlast⟩
    simp [extend, ofEntries, hany]

/-- Without its first byte, the parameters of a short report are even in number and those of a long
one are not. -/
theorem length_params_drop (report : Report) :
    (report.params.drop 1).length % 2 = 0 ↔ report.type = .short := by
  obtain ⟨t, htype, hlen⟩ := report.valid
  have hbyte : report.byteAt Hidpp.Offset.type = t.byte := by
    rw [Report.byteAt, List.getD_eq_getElem?_getD, htype]
    rfl
  rw [Report.params, List.length_drop, List.length_drop, Report.type, hbyte, hlen]
  cases t <;> decide

/-- The list is read within bounds, and is the one that the response says, exactly if the response is
short or one of its complete entries is zero. -/
theorem getSensorDPIList_eq_iff (response : Report) :
    getSensorDPIList response = some (saidList response) ↔
      response.type = .short ∨ 0 ∈ completeEntries response := by
  rw [getSensorDPIList, saidList, ofEntries_eq_extend, completeEntries, decodeEntries_eq_some_iff,
    length_params_drop]

/-- Sixteen bytes that are not zero after the sensor: an eighth entry begins with the last of them. -/
def fullResponse : Report where
  data := [0x11, 0xff, 0x05, 0x12, 0x00] ++ List.replicate 15 0x04
  valid := ⟨.long, rfl, rfl⟩

theorem getSensorDPIList_past_end :
    ¬∀ response : Report, getSensorDPIList response = some (saidList response) := by
  intro h
  have hnone : getSensorDPIList fullResponse = none := rfl
  rw [h fullResponse] at hnone
  cases hnone

end Logid.Backend.Hidpp20.AdjustableDPI
