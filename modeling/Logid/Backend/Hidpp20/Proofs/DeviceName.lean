import Logid.Backend.Hidpp.Proofs.ReportFields
import Logid.Backend.Hidpp20.DeviceName
import Logid.Misc.Blocks

/-!
# The name of a HID++ 2.0 device is read whole

The calls ask for the blocks of the name in order, and the last block is cut where the name ends.
-/

namespace Logid.Backend.Hidpp20.DeviceName

open Hidpp (ReportType)

/-- The device answers a call at the offset `o` with sixteen bytes, those of the name from `o` on and any
others after its end. -/
def SendsName (fcall : Nat → List UInt8 → List UInt8) (name : List UInt8) : Prop :=
  ∀ (k : Nat) (o : UInt8), (fcall k [o]).length = 16 ∧
    ∃ filling, fcall k [o] = (name.drop o.toNat).take 16 ++ filling

variable {fcall : Nat → List UInt8 → List UInt8} {name : List UInt8} {length : UInt8}

/-- The inner loop appends what is left of the block, and returns if the name ends in it. -/
theorem copySection_eq {o : UInt8} {nameSection filling : List UInt8}
    (hlength : length.toNat = name.length)
    (hstarts : nameSection = (name.drop o.toNat).take 16 ++ filling) :
    ∀ {left j : Nat} {copied : List UInt8}, j + left = 16 → o.toNat + j ≤ name.length →
      copySection length o nameSection left j copied =
        some (copied ++ (name.drop (o.toNat + j)).take left,
          decide (name.length < o.toNat + 16)) := by
  intro left
  induction left with
  | zero =>
    intro j copied hj hle
    have hnot : ¬name.length < o.toNat + 16 := by omega
    simp [copySection, hnot]
  | succ left ih =>
    intro j copied hj hle
    rw [copySection, hlength]
    by_cases hend : o.toNat + j ≥ name.length
    · rw [if_pos hend, List.drop_eq_nil_of_le hend, List.take_nil, List.append_nil]
      congr 2
      exact (decide_eq_true (by omega)).symm
    · have hlt : o.toNat + j < name.length := by omega
      have hbyte : nameSection[j]? = some name[o.toNat + j] := by
        rw [hstarts, List.getElem?_append_left (by simp; omega), List.getElem?_take_of_lt (by omega),
          List.getElem?_drop, List.getElem?_eq_getElem hlt]
      rw [if_neg hend, hbyte]
      change copySection length o nameSection left (j + 1) (copied ++ [name[o.toNat + j]]) = _
      rw [ih (by omega) (by omega), List.drop_eq_getElem_cons hlt, List.take_succ_cons,
        List.append_assoc]
      rfl

/-- The parameters of the first `n` calls. -/
def offsets (n : Nat) : List (List UInt8) := (List.range n).map fun k => [UInt8.ofNat (16 * k)]

theorem readSections_eq (hsends : SendsName fcall name) (hlength : length.toNat = name.length) :
    ∀ {left i : Nat}, i + left = Blocks.count name.length 16 →
      readSections length fcall left (UInt8.ofNat i) ⟨offsets i, name.take (16 * i)⟩ =
        some ⟨offsets (Blocks.count name.length 16), name⟩ := by
  have hcount : ∀ k, k < Blocks.count name.length 16 ↔ 16 * k < name.length :=
    fun k => Blocks.lt_count_iff (by decide)
  have hbyte : name.length < 256 := hlength ▸ length.toNat_lt
  intro left
  induction left with
  | zero =>
    intro i hi
    obtain rfl : i = Blocks.count name.length 16 := hi
    rw [readSections, List.take_of_length_le (Blocks.le_mul_count (by decide))]
  | succ left ih =>
    intro i hi
    have hlt : 16 * i < name.length := (hcount i).mp (by omega)
    have hoffset : UInt8.ofNat i * UInt8.ofNat 16 = UInt8.ofNat (16 * i) := by
      rw [Nat.mul_comm, UInt8.ofNat_mul]
    have hnat : (UInt8.ofNat (16 * i)).toNat = 16 * i :=
      UInt8.toNat_ofNat_of_lt (show 16 * i < 256 by omega)
    obtain ⟨-, filling, hstarts⟩ := hsends (offsets i).length (UInt8.ofNat (16 * i))
    have hcopy := @copySection_eq name length (UInt8.ofNat (16 * i)) _ filling hlength
      hstarts 16 0 (name.take (16 * i)) rfl (by omega)
    rw [hnat, Nat.add_zero, ← List.take_add] at hcopy
    have hcalls : offsets i ++ [[UInt8.ofNat (16 * i)]] = offsets (i + 1) := by
      rw [offsets, offsets, List.range_succ, List.map_append]
      rfl
    rw [readSections]
    simp only [ReportType.paramLength, hoffset, List.getD_cons_zero, hcopy, hcalls,
      Option.bind_eq_bind, Option.bind_some, decide_eq_true_eq]
    by_cases hlast : name.length < 16 * i + 16
    · have hmore := mt (hcount (i + 1)).mp (by omega)
      have hn : Blocks.count name.length 16 = i + 1 := by omega
      rw [if_pos hlast, hn, List.take_of_length_le (by omega)]
      rfl
    · rw [if_neg hlast, ← UInt8.ofNat_one, ← UInt8.ofNat_add]
      exact ih (by omega)

theorem toNat_functionCalls (length : UInt8) :
    (functionCalls length).toNat = Blocks.count length.toNat 16 := by
  have hlt : length.toNat < 256 := length.toNat_lt
  have hdiv : (length / 16).toNat = length.toNat / 16 := UInt8.toNat_div ..
  have hmod : length % 16 = 0 ↔ length.toNat % 16 = 0 := by
    rw [← UInt8.toNat_inj, UInt8.toNat_mod]
    rfl
  change (if length % 16 ≠ 0 then length / 16 + 1 else length / 16).toNat = _
  rw [Blocks.count]
  by_cases h : length.toNat % 16 = 0
  · rw [if_neg (not_not.mpr (hmod.mpr h)), if_pos h, hdiv, Nat.add_zero]
  · rw [if_pos (mt hmod.mp h), if_neg h, UInt8.toNat_add, hdiv, UInt8.toNat_one]
    omega

/-- A name of any length is read with one call for each sixteen bytes of it or part of them, in order. -/
theorem getName_reads_name (hsends : SendsName fcall name) (hlength : name.length = length.toNat) :
    getName length fcall = some {
      calls := (List.range ((length.toNat + 15) / 16)).map fun k => [UInt8.ofNat (16 * k)]
      name := name } := by
  have hcount : Blocks.count name.length 16 = (length.toNat + 15) / 16 := by
    rw [hlength, Blocks.count]
    split <;> omega
  rw [getName, toNat_functionCalls, ← hcount, ← hlength]
  exact readSections_eq hsends hlength.symm (Nat.zero_add _)

/-- A device that fills its replies up with zeros. -/
def answerName (name : List UInt8) (_ : Nat) (params : List UInt8) : List UInt8 :=
  Hidpp.resize (name.drop (params.getD 0 0).toNat) 16

theorem sendsName_answerName (name : List UInt8) : SendsName (answerName name) name := by
  intro k o
  refine ⟨Hidpp.length_resize _ _, _, Hidpp.resize_eq_append _ _⟩

theorem getName_reads_twenty :
    getName 20 (answerName (List.replicate 20 0x4d)) =
      some { calls := [[0], [16]], name := List.replicate 20 0x4d } :=
  getName_reads_name (sendsName_answerName (List.replicate 20 0x4d)) (by decide)

end Logid.Backend.Hidpp20.DeviceName
