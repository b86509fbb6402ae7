import Logid.Backend.Hidpp.Proofs.ReportFields
import Logid.Backend.Hidpp10.Proofs.Registers

/-!
# The name that a Bolt receiver sends

A receiver that numbers the parts of a name from 1 is asked for the parts 1, 1, 2, and so on, and every
part is copied whole.
-/

namespace Logid.Backend.Hidpp10.Receiver

open Logid.Backend.Hidpp
open Device (getRegister)

variable {link : Link} {index : DeviceIndex} {name : List UInt8}

/-- The receiver answers a request for part `p` with a long report that has the bytes `13 (p - 1)` to
`13 p - 1` of the name from offset 3 on, filled up with any bytes, and the length of the name at
offset 2 for part 1. -/
structure SendsName (link : Link) (index : DeviceIndex) (name : List UInt8) : Prop where
  part : ∀ (k : Nat) (p : UInt8), 1 ≤ p.toNat → ∃ response filling,
    getRegister link k pairingInfo (nameRequest index p) .long = .ok response ∧
    response.length = 16 ∧ response.drop 3 = Blocks.block 13 name (p.toNat - 1) ++ filling
  size : ∀ (k : Nat) (response : List UInt8),
    getRegister link k pairingInfo (nameRequest index 1) .long = .ok response →
      response[2]? = some (UInt8.ofNat name.length)

theorem SendsName.reply (h : SendsName link index name) {k : Nat} (hk : k < 256) :
    ∃ response filling, nameReply link index k = .ok response ∧ response.length = 16 ∧
      response.drop 3 = Blocks.block 13 name (k - 1) ++ filling := by
  cases k with
  | zero => exact h.part 0 1 (by decide)
  | succ k =>
    have hp : (UInt8.ofNat (k + 1)).toNat = k + 1 := UInt8.toNat_ofNat_of_lt hk
    have hpart := h.part (k + 1) (UInt8.ofNat (k + 1)) (by omega)
    rw [hp] at hpart
    exact hpart

theorem SendsName.longReplies (h : SendsName link index name) (hlen : name.length < 256) (i : Nat) :
    LongReplies link index name.length i := by
  intro k _ hk _ response hreply
  obtain ⟨r, _, hr, hlen, -⟩ := h.reply (show k < 256 by omega)
  cases hr.symm.trans hreply
  exact hlen

theorem SendsName.answered (h : SendsName link index name) (hlen : name.length < 256) (i : Nat) :
    Answered link index name.length i := by
  intro k _ hk
  obtain ⟨r, _, hr, -⟩ := h.reply (show k < 256 by omega)
  exact ⟨r, hr⟩

/-- A reply that a whole part fits in has nothing else. -/
theorem SendsName.nameChunk (h : SendsName link index name) {k : Nat} (hk : k < 256)
    (hpart : 13 * (k - 1 + 1) ≤ name.length) :
    nameChunk link index k = Blocks.block 13 name (k - 1) := by
  obtain ⟨r, filling, hr, hlen, hdrop⟩ := h.reply hk
  have hfilling : filling = [] := by
    have hlength := congrArg List.length hdrop
    rw [List.length_append, Blocks.length_block hpart, List.length_drop, hlen] at hlength
    exact List.length_eq_zero_iff.mp (by omega)
  rw [Receiver.nameChunk, hr]
  change r.drop 3 = _
  rw [hdrop, hfilling, List.append_nil]

/-- The parts that are asked for after the first, in a row: the same name from its start. -/
theorem SendsName.flatMap_nameChunk (h : SendsName link index name) (hlen : name.length < 256) :
    (List.range' 1 (name.length / 13 - 1)).flatMap (Receiver.nameChunk link index) =
      name.take (13 * (name.length / 13 - 1)) := by
  rw [List.range'_eq_map_range, List.flatMap_map, ← Blocks.flatMap_block]
  apply List.flatMap_congr
  intro k hk
  rw [List.mem_range] at hk
  have hchunk := h.nameChunk (k := 1 + k) (by omega) (by omega)
  rw [hchunk, Nat.add_sub_cancel_left]

/-- The first part is read twice and the last one not at all; a part that is not full is written past
the end. -/
theorem SendsName.getBoltDeviceName (h : SendsName link index name) (hpos : 0 < name.length)
    (hlen : name.length < 256) :
    getBoltDeviceName link index =
      if 13 ∣ name.length then .ok (name.take 13 ++ name.take (name.length - 13))
      else .error (.fault .writePastName) := by
  obtain ⟨response, filling, hreply, hresponse, hdrop⟩ := h.reply (show 0 < 256 by decide)
  have hsize : (response.getD 2 0).toNat = name.length := by
    rw [List.getD_eq_getElem?_getD, h.size 0 response hreply]
    exact UInt8.toNat_ofNat_of_lt hlen
  have hend := chunksEnd_getBoltDeviceName hreply hresponse (by omega)
  rw [hsize] at hend
  generalize Receiver.getBoltDeviceName link index = result at hend
  cases hend with
  | short hshort => exact absurd (h.longReplies hlen 1) hshort
  | thrown _ hnone => exact absurd (h.answered hlen 1) hnone
  | overrun _ _ hdvd => rw [if_neg hdvd]
  | returned _ _ hdvd =>
    obtain ⟨m, hm⟩ := hdvd
    have hfirst : response.drop 3 = name.take 13 := by
      have hchunk := h.nameChunk (show 0 < 256 by decide) (by omega)
      rw [Receiver.nameChunk, hreply] at hchunk
      exact hchunk
    rw [if_pos ⟨m, hm⟩, h.flatMap_nameChunk hlen, hfirst]
    congr 3
    omega

/-- The name comes out as it was sent exactly if it takes whole parts that are all alike. -/
theorem bolt_name_read_iff (h : SendsName link index name) (hpos : 1 ≤ name.length)
    (hlen : name.length ≤ 255) :
    getDeviceName link true index = .ok name ↔
      13 ∣ name.length ∧ ∀ i, i + 13 < name.length → name[i + 13]? = name[i]? := by
  rw [getDeviceName, if_pos rfl, h.getBoltDeviceName hpos (by omega)]
  split
  next hdvd =>
    rw [and_iff_right hdvd, Except.ok.injEq]
    conv_lhs => rhs; rw [← List.take_append_drop 13 name]
    rw [List.append_cancel_left_eq, List.ext_getElem?_iff]
    constructor
    · intro heq i hi
      have := heq i
      rw [List.getElem?_take_of_lt (by omega), List.getElem?_drop, Nat.add_comm] at this
      exact this.symm
    · intro heq i
      rw [List.getElem?_drop, Nat.add_comm]
      by_cases hi : i + 13 < name.length
      · rw [List.getElem?_take_of_lt (by omega), heq i hi]
      · rw [List.getElem?_eq_none (by rw [List.length_take]; omega),
          List.getElem?_eq_none (by omega)]
  next hdvd =>
    constructor
    · intro hread
      cases hread
    · intro hand
      exact absurd hand.1 hdvd

/-- The reply of a receiver to a request for a part of the name. -/
def partReply (name : List UInt8) (request : Report) : Report :=
  let p := request.params.getD 1 0
  (Report.ofSubId .long defaultDevice getRegisterLong request.address).setParams
    ([request.params.getD 0 0, p, UInt8.ofNat name.length] ++ Blocks.block 13 name (p.toNat - 1))

theorem fields_partReply (name : List UInt8) (request : Report) :
    (partReply name request).type = .long ∧ (partReply name request).subId = getRegisterLong ∧
    (partReply name request).params = resize ([request.params.getD 0 0, request.params.getD 1 0,
      UInt8.ofNat name.length] ++ Blocks.block 13 name ((request.params.getD 1 0).toNat - 1)) 16 := by
  have hfit : ([request.params.getD 0 0, request.params.getD 1 0, UInt8.ofNat name.length] ++
      Blocks.block 13 name ((request.params.getD 1 0).toNat - 1)).length ≤
      ReportType.long.paramLength := by
    simp only [List.length_append, List.length_cons, List.length_nil, Blocks.block,
      List.length_take, ReportType.paramLength]
    omega
  have hfields := Report.fields_ofSubId (t := .long) (i := defaultDevice) (s := getRegisterLong)
    (a := request.address) hfit
  exact ⟨congrArg Fields.type hfields, congrArg Fields.subId hfields,
    congrArg Fields.params hfields⟩

theorem isError10_of_long {report : Report} (h : report.type = .long) :
    report.isError10 = none := by
  have hbyte : report.byteAt Offset.type ≠ ReportType.short.byte := by
    intro hshort
    rw [Report.type, if_pos hshort] at h
    cases h
  simp [Report.isError10, hbyte]

/-- A receiver that sends a name as the decoder expects it. -/
def nameSender (name : List UInt8) : Link where
  deviceIndex := defaultDevice
  exchange _ request :=
    if request.subId = getRegisterLong then .returned (partReply name request) else .timeout
  accepted := by
    intro k request report h
    split at h
    next hsub =>
      cases h
      obtain ⟨htype, hreply, -⟩ := fields_partReply name request
      exact ⟨hreply.trans hsub.symm, isError10_of_long htype⟩
    next => cases h

theorem sendsName_nameSender (index : DeviceIndex) (name : List UInt8) :
    SendsName (nameSender name) index name := by
  have hget : ∀ k p, getRegister (nameSender name) k pairingInfo (nameRequest index p) .long =
      .ok (resize ([index + 0x60, p, UInt8.ofNat name.length] ++
        Blocks.block 13 name (p.toNat - 1)) 16) := by
    intro k p
    exact congrArg Except.ok (fields_partReply name (Device.accessRegisterRequest defaultDevice
      getRegisterLong pairingInfo (nameRequest index p))).2.2
  constructor
  · intro k p _
    refine ⟨_, List.replicate (13 - (Blocks.block 13 name (p.toNat - 1)).length) 0, hget k p,
      length_resize _ _, ?_⟩
    have hblock : (Blocks.block 13 name (p.toNat - 1)).length ≤ 13 := List.length_take_le ..
    have hlen : ([index + 0x60, p, UInt8.ofNat name.length] ++
        Blocks.block 13 name (p.toNat - 1)).length = 3 + (Blocks.block 13 name (p.toNat - 1)).length :=
      List.length_append
    rw [resize_eq_append, List.take_of_length_le (by omega), hlen, List.append_assoc,
      ← Nat.sub_sub]
    rfl
  · intro k response h
    rw [hget] at h
    cases h
    rfl

theorem bolt_name_of_thirteen_read :
    getDeviceName (nameSender (List.replicate 13 0x4d)) true 1 = .ok (List.replicate 13 0x4d) :=
  (bolt_name_read_iff (sendsName_nameSender 1 (List.replicate 13 0x4d)) (by decide)
    (by decide)).mpr ⟨by decide, fun i hi => absurd hi (by rw [List.length_replicate]; omega)⟩

/-- The second chunk of a name of fourteen bytes is written past its end. -/
theorem bolt_name_of_fourteen_overrun :
    getDeviceName (nameSender (List.replicate 14 0x4d)) true 1 = .error (.fault .writePastName) ∧
    ¬ ∀ (link : Link) (index : DeviceIndex) (name : List UInt8), SendsName link index name →
      1 ≤ name.length → name.length ≤ 255 → getDeviceName link true index = .ok name := by
  have hsends := sendsName_nameSender 1 (List.replicate 14 0x4d)
  have hread : getDeviceName (nameSender (List.replicate 14 0x4d)) true 1 =
      .error (.fault .writePastName) :=
    (hsends.getBoltDeviceName (by decide) (by decide)).trans (if_neg (by decide))
  refine ⟨hread, fun h => ?_⟩
  have hname := h _ 1 _ hsends (by decide) (by decide)
  rw [hread] at hname
  cases hname

end Logid.Backend.Hidpp10.Receiver
