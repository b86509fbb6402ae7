import Logid.Backend.Hidpp10.Registers
import Logid.Misc.Blocks

/-!
# What the register decoders make of a reply

The response slots match a reply by its sub id, so the reply to a `GetRegisterLong` request can be a
short report, whose three bytes are fewer than any decoder but one reads.
-/

namespace Logid.Backend.Hidpp10

open Logid.Backend.Hidpp

theorem bind_ok {α β : Type} (a : α) (f : α → Except Stop β) : (Except.ok a >>= f) = f a := rfl

theorem bind_error {α β : Type} (stop : Stop) (f : α → Except Stop β) :
    (Except.error stop >>= f) = .error stop := rfl

theorem readAt_of_lt {response : List UInt8} {i : Nat} (h : i < response.length) :
    readAt response i = .ok (response.getD i 0) := by
  rw [readAt, List.getD_eq_getElem?_getD, List.getElem?_eq_getElem h]
  rfl

theorem readAt_of_le {response : List UInt8} {i : Nat} (h : response.length ≤ i) :
    readAt response i = .error (.fault .readPastResponse) := by
  rw [readAt, List.getElem?_eq_none h]

theorem writeAt_of_lt {name : List UInt8} {i : Nat} (byte : UInt8) (h : i < name.length) :
    writeAt name i byte = .ok (name.set i byte) := if_pos h

theorem writeAt_of_le {name : List UInt8} {i : Nat} (byte : UInt8) (h : name.length ≤ i) :
    writeAt name i byte = .error (.fault .writePastName) := if_neg (Nat.not_lt.mpr h)

/-- The call ends with a value or with an exception of the library. -/
def Defined {α : Type} (result : Except Stop α) : Prop :=
  ∀ fault, result ≠ .error (.fault fault)

/-- The call neither indexes past a response nor divides by zero. -/
def InBounds {α : Type} (result : Except Stop α) : Prop :=
  result ≠ .error (.fault .readPastResponse) ∧ result ≠ .error (.fault .divisionByZero)

theorem Defined.inBounds {α : Type} {result : Except Stop α} (h : Defined result) :
    InBounds result := ⟨h _, h _⟩

theorem defined_ok {α : Type} (a : α) : Defined (Except.ok a : Except Stop α) := nofun

theorem defined_thrown {α : Type} (exn : Exn) :
    Defined (Except.error (.thrown exn) : Except Stop α) := nofun

namespace Receiver

open Device (getRegister)

theorem length_params (report : Report) :
    report.params.length = 3 ∨ report.params.length = 16 := by
  obtain ⟨t, -, hlen⟩ := report.valid
  rw [Report.params, List.length_drop, hlen]
  cases t
  · exact .inl rfl
  · exact .inr rfl

/-- A register access gives the bytes of a short or of a long report, or throws. -/
theorem getRegister_cases (link : Link) (k : Nat) (address : UInt8) (params : List UInt8)
    (type : ReportType) :
    (∃ response, getRegister link k address params type = .ok response ∧
      (response.length = 3 ∨ response.length = 16)) ∨
    ∃ exn, getRegister link k address params type = .error (.thrown exn) := by
  simp only [getRegister, Device.accessRegister]
  split
  next report _ => exact .inl ⟨_, rfl, length_params report⟩
  next => exact .inr ⟨_, rfl⟩
  next => exact .inr ⟨_, rfl⟩
  next => exact .inr ⟨_, rfl⟩

/-- The reply to the request, if one comes, has the parameters of a long report. -/
def LongReply (link : Link) (k : Nat) (address : UInt8) (params : List UInt8) : Prop :=
  ∀ response, getRegister link k address params .long = .ok response → response.length = 16

/-- A decoder of one reply that reads a byte beyond the third, and none beyond the last of a long
report. -/
theorem defined_decoder_iff {α : Type} {link : Link} {k : Nat} {address : UInt8}
    {params : List UInt8} {decode : List UInt8 → Except Stop α}
    (hlong : ∀ response, response.length = 16 → ∃ value, decode response = .ok value)
    (hshort : ∀ response, response.length = 3 →
      decode response = .error (.fault .readPastResponse)) :
    Defined (getRegister link k address params .long >>= decode) ↔
      LongReply link k address params := by
  unfold LongReply
  obtain ⟨response, hreply, hlen⟩ | ⟨exn, hreply⟩ :=
    getRegister_cases link k address params .long
  · rw [hreply, bind_ok]
    obtain hlen | hlen := hlen
    · rw [hshort response hlen]
      refine iff_of_false (fun h => h _ rfl) fun h => ?_
      have := h response rfl
      omega
    · obtain ⟨value, hvalue⟩ := hlong response hlen
      rw [hvalue]
      refine iff_of_true (defined_ok value) fun r hr => ?_
      cases hr
      exact hlen
  · rw [hreply, bind_error]
    exact iff_of_true (defined_thrown exn) fun r hr => nomatch hr

theorem getDeviceActivity_defined_iff (link : Link) :
    Defined (getDeviceActivity link) ↔ LongReply link 0 deviceActivity [] := by
  apply defined_decoder_iff
  · intro response hlen
    simp [List.range', readAt_of_lt, hlen, bind_ok]
  · intro response hlen
    simp [List.range', readAt_of_lt, readAt_of_le, hlen, bind_ok, bind_error]

theorem getPairingInfo_defined_iff (link : Link) (isBolt : Bool) (index : DeviceIndex) :
    Defined (getPairingInfo link isBolt index) ↔
      LongReply link 0 pairingInfo (pairingRequest isBolt index) := by
  apply defined_decoder_iff
  · intro response hlen
    cases isBolt <;> simp [readAt_of_lt, hlen, bind_ok]
  · intro response hlen
    cases isBolt <;> simp [readAt_of_lt, readAt_of_le, hlen, bind_ok, bind_error]

theorem getExtendedPairingInfo_defined_iff (link : Link) (isBolt : Bool) (index : DeviceIndex) :
    Defined (getExtendedPairingInfo link isBolt index) ↔
      LongReply link 0 pairingInfo (extendedPairingRequest isBolt index) := by
  apply defined_decoder_iff
  · intro response hlen
    cases isBolt <;> simp [List.range_succ, readAt_of_lt, hlen, bind_ok]
  · intro response hlen
    cases isBolt <;> simp [List.range_succ, readAt_of_lt, readAt_of_le, hlen, bind_ok, bind_error]

theorem getUnifyingDeviceName_defined (link : Link) (index : DeviceIndex) :
    Defined (getUnifyingDeviceName link index) := by
  unfold getUnifyingDeviceName
  obtain ⟨response, hreply, hlen⟩ | ⟨exn, hreply⟩ :=
    getRegister_cases link 0 pairingInfo [index + 0x3f] .long
  · rw [hreply, bind_ok, readAt_of_lt (by omega), bind_ok]
    exact defined_ok _
  · rw [hreply, bind_error]
    exact defined_thrown exn

/-! ## The name of a Bolt device -/

theorem copyChunk_ok {response name : List UInt8} {base left j : Nat}
    (hlen : response.length = j + 3 + left) (hfit : base + j + left ≤ name.length) :
    copyChunk response base left j name =
      .ok (name.take (base + j) ++ response.drop (j + 3) ++ name.drop (base + j + left)) := by
  induction left generalizing j name with
  | zero =>
    rw [copyChunk, List.drop_eq_nil_of_le (by omega), List.append_nil, Nat.add_zero,
      List.take_append_drop]
  | succ left ih =>
    have hread : j + 3 < response.length := by omega
    have hwrite : base + j < name.length := by omega
    rw [copyChunk, readAt_of_lt hread, bind_ok, writeAt_of_lt _ hwrite, bind_ok,
      ih (by omega) (by rw [List.length_set]; omega), ← Nat.add_assoc,
      List.take_succ_eq_append_getElem (by rw [List.length_set]; exact hwrite),
      List.getElem_set_self, List.take_set_of_le (Nat.le_refl _), List.drop_set_of_lt (by omega),
      List.drop_eq_getElem_cons hread, List.getD_eq_getElem?_getD,
      List.getElem?_eq_getElem hread]
    simp only [Option.getD_some, List.append_assoc, List.cons_append, List.nil_append]
    congr 4
    congr 1
    omega

/-- A chunk that does not fit into what is left of the name is written past its end. -/
theorem copyChunk_overrun {response name : List UInt8} {base left j : Nat}
    (hlen : response.length = j + 3 + left) (hle : base + j ≤ name.length)
    (hlt : name.length < base + j + left) :
    copyChunk response base left j name = .error (.fault .writePastName) := by
  induction left generalizing j name with
  | zero => omega
  | succ left ih =>
    rw [copyChunk, readAt_of_lt (by omega), bind_ok]
    by_cases hend : name.length = base + j
    · rw [writeAt_of_le _ (by omega), bind_error]
    · rw [writeAt_of_lt _ (by omega), bind_ok]
      exact ih (by omega) (by rw [List.length_set]; omega) (by rw [List.length_set]; omega)

/-- The reply with the number `k` that the name is read from. -/
def nameReply (link : Link) (index : DeviceIndex) (k : Nat) : Except Stop (List UInt8) :=
  getRegister link k pairingInfo (nameRequest index (if k = 0 then 1 else UInt8.ofNat k)) .long

/-- What a reply holds of the name. -/
def nameChunk (link : Link) (index : DeviceIndex) (k : Nat) : List UInt8 :=
  match nameReply link index k with
  | .ok response => response.drop 3
  | .error _ => []

/-- Every reply from the number `i` on that a name of this size takes is a long report, as far as
the requests before it are answered. -/
def LongReplies (link : Link) (index : DeviceIndex) (size i : Nat) : Prop :=
  ∀ k, i ≤ k → 13 * k < size →
    (∀ j, i ≤ j → j < k → ∃ response, nameReply link index j = .ok response) →
    ∀ response, nameReply link index k = .ok response → response.length = 16

/-- Every request from the number `i` on that a name of this size takes is answered. -/
def Answered (link : Link) (index : DeviceIndex) (size i : Nat) : Prop :=
  ∀ k, i ≤ k → 13 * k < size → ∃ response, nameReply link index k = .ok response

variable {link : Link} {index : DeviceIndex}

theorem longReplies_iff {size i : Nat} (hi : 13 * i < size) :
    LongReplies link index size i ↔ ∀ response, nameReply link index i = .ok response →
      response.length = 16 ∧ LongReplies link index size (i + 1) := by
  constructor
  · intro h response hreply
    refine ⟨h i (Nat.le_refl i) hi (fun j hij hji => by omega) response hreply, ?_⟩
    intro k hk hsize hbefore
    refine h k (by omega) hsize fun j hij hjk => ?_
    obtain rfl | hne := Nat.eq_or_lt_of_le hij
    · exact ⟨response, hreply⟩
    · exact hbefore j hne hjk
  · intro h k hk hsize hbefore response hreply
    obtain rfl | hlt := Nat.eq_or_lt_of_le hk
    · exact (h response hreply).1
    · obtain ⟨first, hfirst⟩ := hbefore i (Nat.le_refl i) hlt
      exact (h first hfirst).2 k hlt hsize (fun j hij hjk => hbefore j (by omega) hjk) response hreply

theorem answered_iff {size i : Nat} (hi : 13 * i < size) :
    Answered link index size i ↔
      (∃ response, nameReply link index i = .ok response) ∧ Answered link index size (i + 1) := by
  constructor
  · intro h
    exact ⟨h i (Nat.le_refl i) hi, fun k hk => h k (by omega)⟩
  · rintro ⟨hfirst, h⟩ k hk hsize
    obtain rfl | hlt := Nat.eq_or_lt_of_le hk
    · exact hfirst
    · exact h k hlt hsize

theorem longReplies_of_le {size i : Nat} (hi : size ≤ 13 * i) : LongReplies link index size i :=
  fun k hk hsize => absurd hsize (by omega)

theorem answered_of_le {size i : Nat} (hi : size ≤ 13 * i) : Answered link index size i :=
  fun k hk hsize => absurd hsize (by omega)

/-- How the loop ends that has the reply with the number `i` at hand. -/
inductive ChunksEnd (link : Link) (index : DeviceIndex) (size i : Nat) (head : List UInt8) :
    Except Stop (List UInt8) → Prop where
  | short (h : ¬LongReplies link index size (i + 1)) :
    ChunksEnd link index size i head (.error (.fault .readPastResponse))
  | thrown {exn : Exn} (hlong : LongReplies link index size (i + 1))
    (h : ¬Answered link index size (i + 1)) : ChunksEnd link index size i head (.error (.thrown exn))
  | overrun (hlong : LongReplies link index size (i + 1))
    (hall : Answered link index size (i + 1)) (h : ¬13 ∣ size) :
    ChunksEnd link index size i head (.error (.fault .writePastName))
  | returned (hlong : LongReplies link index size (i + 1))
    (hall : Answered link index size (i + 1)) (h : 13 ∣ size) :
    ChunksEnd link index size i head (.ok (head ++
      (List.range' (i + 1) (size / 13 - (i + 1))).flatMap (nameChunk link index)))

theorem ChunksEnd.step {size i : Nat} {head response : List UInt8}
    {result : Except Stop (List UInt8)} (hi : 13 * (i + 1) < size)
    (hreply : nameReply link index (i + 1) = .ok response) (hlen : response.length = 16)
    (h : ChunksEnd link index size (i + 1) (head ++ response.drop 3) result) :
    ChunksEnd link index size i head result := by
  have hlong : LongReplies link index size (i + 1) ↔ LongReplies link index size (i + 2) := by
    rw [longReplies_iff hi]
    constructor
    · intro hall
      exact (hall response hreply).2
    · intro hrest r hr
      obtain rfl : response = r := Except.ok.inj (hreply.symm.trans hr)
      exact ⟨hlen, hrest⟩
  have hall : Answered link index size (i + 1) ↔ Answered link index size (i + 2) := by
    rw [answered_iff hi]
    exact and_iff_right ⟨response, hreply⟩
  cases h with
  | short h => exact .short (mt hlong.mp h)
  | thrown hl h => exact .thrown (hlong.mpr hl) (mt hall.mp h)
  | overrun hl ha h => exact .overrun (hlong.mpr hl) (hall.mpr ha) h
  | returned hl ha h =>
    have hcount : size / 13 - (i + 1) = size / 13 - (i + 1 + 1) + 1 := by omega
    have hchunk : nameChunk link index (i + 1) = response.drop 3 := by
      rw [nameChunk, hreply]
    have hlast : ChunksEnd link index size i head _ :=
      .returned (hlong.mpr hl) (hall.mpr ha) h
    rw [hcount, List.range'_succ, List.flatMap_cons, hchunk, ← List.append_assoc] at hlast
    exact hlast

/-- The first byte that a short report lacks is the first one that is copied. -/
theorem copyChunks_short {chunks left i : Nat} {response name : List UInt8}
    (hlen : response.length = 3) :
    copyChunks link index 13 chunks (left + 1) i response name =
      .error (.fault .readPastResponse) := by
  have hchunk : copyChunk response (i * 13) (12 + 1) 0 name = .error (.fault .readPastResponse) := by
    rw [copyChunk, readAt_of_le (by omega), bind_error]
  rw [copyChunks, hchunk, bind_error]

theorem chunksEnd_copyChunks {size left i : Nat} {response name : List UInt8}
    (hname : name.length = size) (hlen : response.length = 16) (hi : 13 * i < size)
    (hleft : left + i = Blocks.count size 13) :
    ChunksEnd link index size i (name.take (13 * i) ++ response.drop 3)
      (copyChunks link index 13 (Blocks.count size 13) left i response name) := by
  have hcount : ∀ k, k < Blocks.count size 13 ↔ 13 * k < size :=
    fun k => Blocks.lt_count_iff (by decide)
  induction left generalizing i response name with
  | zero =>
    have := (hcount i).mpr hi
    omega
  | succ left ih =>
    rw [copyChunks, Nat.mul_comm i]
    by_cases hfit : 13 * i + 13 ≤ size
    case neg =>
      rw [copyChunk_overrun (by omega) (by omega) (by omega), bind_error]
      exact .overrun (longReplies_of_le (by omega)) (answered_of_le (by omega)) (by omega)
    rw [copyChunk_ok (by omega) (by omega), bind_ok, Nat.add_zero]
    by_cases hmore : i + 1 < Blocks.count size 13
    · rw [if_pos hmore]
      have hnext : 13 * (i + 1) < size := (hcount (i + 1)).mp hmore
      obtain ⟨left, rfl⟩ : ∃ rest, left = rest + 1 := ⟨left - 1, by omega⟩
      obtain ⟨r, hreply, hr⟩ | ⟨exn, hreply⟩ := getRegister_cases link (i + 1) pairingInfo
        (nameRequest index (UInt8.ofNat (i + 1))) .long
      · rw [hreply, bind_ok]
        obtain hr | hr := hr
        · rw [copyChunks_short hr]
          refine .short fun h => ?_
          have := ((longReplies_iff hnext).mp h r hreply).1
          omega
        · refine .step hnext hreply hr ?_
          have hhead : (name.take (13 * i) ++ response.drop 3).length = 13 * (i + 1) := by
            rw [List.length_append, List.length_take, List.length_drop]
            omega
          have hrest := @ih (i + 1) r
            (name.take (13 * i) ++ response.drop 3 ++ name.drop (13 * i + 13))
            (by rw [List.length_append, hhead, List.length_drop]; omega) hr hnext (by omega)
          rw [List.take_left' hhead] at hrest
          exact hrest
      · rw [hreply, bind_error]
        have hnone : ∀ r, nameReply link index (i + 1) ≠ .ok r := by
          intro r hr
          cases hreply.symm.trans hr
        refine .thrown ((longReplies_iff hnext).mpr fun r hr => absurd hr (hnone r)) fun hall => ?_
        obtain ⟨r, hr⟩ := ((answered_iff hnext).mp hall).1
        exact hnone r hr
    · rw [if_neg hmore]
      have hlast : size = 13 * i + 13 := by
        have := mt (hcount (i + 1)).mpr hmore
        omega
      have hend : ChunksEnd link index size i (name.take (13 * i) ++ response.drop 3) _ :=
        .returned (longReplies_of_le (by omega)) (answered_of_le (by omega)) (by omega)
      rw [show size / 13 - (i + 1) = 0 by omega, List.range'_zero, List.flatMap_nil,
        List.append_nil] at hend
      rw [List.drop_eq_nil_of_le (by omega : name.length ≤ 13 * i + 13), List.append_nil]
      exact hend

/-- The number of chunks, computed in bytes. -/
theorem toNat_chunks (size : UInt8) :
    (size / 13 + if size % 13 = 0 then 0 else 1).toNat = Blocks.count size.toNat 13 := by
  have hlt : size.toNat < 256 := size.toNat_lt
  have hdiv : (size / 13).toNat = size.toNat / 13 := UInt8.toNat_div ..
  have hmod : size % 13 = 0 ↔ size.toNat % 13 = 0 := by
    rw [← UInt8.toNat_inj, UInt8.toNat_mod]
    rfl
  rw [UInt8.toNat_add, hdiv, Blocks.count]
  by_cases h : size.toNat % 13 = 0
  · rw [if_pos h, if_pos (hmod.mpr h), UInt8.toNat_zero]
    omega
  · rw [if_neg h, if_neg (mt hmod.mp h), UInt8.toNat_one]
    omega

theorem getBoltDeviceName_long {response : List UInt8}
    (hreply : nameReply link index 0 = .ok response) (hlen : response.length = 16) :
    getBoltDeviceName link index =
      copyChunks link index 13 (Blocks.count (response.getD 2 0).toNat 13)
        (Blocks.count (response.getD 2 0).toNat 13) 0 response
        (List.replicate (response.getD 2 0).toNat 0x20) := by
  have hget : getRegister link 0 pairingInfo (nameRequest index 1) .long = .ok response := hreply
  rw [getBoltDeviceName, hget, bind_ok, readAt_of_lt (by omega), bind_ok, hlen, ← toNat_chunks]
  rfl

/-- The whole call, when the first reply is a long report with a name that is not empty. -/
theorem chunksEnd_getBoltDeviceName {response : List UInt8}
    (hreply : nameReply link index 0 = .ok response) (hlen : response.length = 16)
    (hsize : 0 < (response.getD 2 0).toNat) :
    ChunksEnd link index (response.getD 2 0).toNat 0 (response.drop 3)
      (getBoltDeviceName link index) := by
  rw [getBoltDeviceName_long hreply hlen]
  exact chunksEnd_copyChunks List.length_replicate hlen hsize (Nat.add_zero _)

theorem getBoltDeviceName_empty {response : List UInt8}
    (hreply : nameReply link index 0 = .ok response) (hlen : response.length = 16)
    (hsize : (response.getD 2 0).toNat = 0) : getBoltDeviceName link index = .ok [] := by
  rw [getBoltDeviceName_long hreply hlen, hsize]
  rfl

theorem getBoltDeviceName_short {response : List UInt8}
    (hreply : nameReply link index 0 = .ok response) (hlen : response.length = 3) :
    getBoltDeviceName link index = .error (.fault .divisionByZero) := by
  have hget : getRegister link 0 pairingInfo (nameRequest index 1) .long = .ok response := hreply
  rw [getBoltDeviceName, hget, bind_ok, readAt_of_lt (by omega), bind_ok, hlen]
  rfl

/-- The replies to the requests of a Bolt device's name are long reports, as far as they are sent and
answered. -/
def BoltNameLong (link : Link) (index : DeviceIndex) : Prop :=
  ∀ response, nameReply link index 0 = .ok response →
    response.length = 16 ∧ LongReplies link index (response.getD 2 0).toNat 1

/-- A name of which all parts arrive takes whole chunks. -/
def BoltNameWhole (link : Link) (index : DeviceIndex) : Prop :=
  ∀ response, nameReply link index 0 = .ok response →
    Answered link index (response.getD 2 0).toNat 1 → 13 ∣ (response.getD 2 0).toNat

theorem ChunksEnd.inBounds_iff {size i : Nat} {head : List UInt8}
    {result : Except Stop (List UInt8)} (h : ChunksEnd link index size i head result) :
    InBounds result ↔ LongReplies link index size (i + 1) := by
  cases h with
  | short h => exact iff_of_false (fun hin => hin.1 rfl) h
  | thrown hlong _ => exact iff_of_true (defined_thrown _).inBounds hlong
  | overrun hlong _ _ => exact iff_of_true ⟨nofun, nofun⟩ hlong
  | returned hlong _ _ => exact iff_of_true (defined_ok _).inBounds hlong

theorem ChunksEnd.defined_iff {size i : Nat} {head : List UInt8}
    {result : Except Stop (List UInt8)} (h : ChunksEnd link index size i head result) :
    Defined result ↔ LongReplies link index size (i + 1) ∧
      (Answered link index size (i + 1) → 13 ∣ size) := by
  cases h with
  | short h => exact iff_of_false (fun hdef => hdef _ rfl) (fun hand => h hand.1)
  | thrown hlong h => exact iff_of_true (defined_thrown _) ⟨hlong, fun hall => absurd hall h⟩
  | overrun _ hall h => exact iff_of_false (fun hdef => hdef _ rfl) (fun hand => h (hand.2 hall))
  | returned hlong _ h => exact iff_of_true (defined_ok _) ⟨hlong, fun _ => h⟩

/-- How the call ends, by its first reply. -/
inductive BoltNameEnd (link : Link) (index : DeviceIndex) : Except Stop (List UInt8) → Prop where
  | thrown {exn : Exn} (reply : nameReply link index 0 = .error (.thrown exn)) :
    BoltNameEnd link index (.error (.thrown exn))
  | short {response : List UInt8} (reply : nameReply link index 0 = .ok response)
    (hlen : response.length = 3) : BoltNameEnd link index (.error (.fault .divisionByZero))
  | empty {response : List UInt8} (reply : nameReply link index 0 = .ok response)
    (hlen : response.length = 16) (hsize : (response.getD 2 0).toNat = 0) :
    BoltNameEnd link index (.ok [])
  | chunks {response : List UInt8} {result : Except Stop (List UInt8)}
    (reply : nameReply link index 0 = .ok response) (hlen : response.length = 16)
    (h : ChunksEnd link index (response.getD 2 0).toNat 0 (response.drop 3) result) :
    BoltNameEnd link index result

theorem boltNameEnd (link : Link) (index : DeviceIndex) :
    BoltNameEnd link index (getBoltDeviceName link index) := by
  obtain ⟨response, hreply, hlen⟩ | ⟨exn, hreply⟩ :=
    getRegister_cases link 0 pairingInfo (nameRequest index 1) .long
  case inr =>
    rw [getBoltDeviceName, hreply, bind_error]
    exact .thrown hreply
  obtain hlen | hlen := hlen
  · rw [getBoltDeviceName_short hreply hlen]
    exact .short hreply hlen
  obtain hsize | hsize := Nat.eq_zero_or_pos (response.getD 2 0).toNat
  · rw [getBoltDeviceName_empty hreply hlen hsize]
    exact .empty hreply hlen hsize
  · exact .chunks hreply hlen (chunksEnd_getBoltDeviceName hreply hlen hsize)

theorem getBoltDeviceName_inBounds_iff (link : Link) (index : DeviceIndex) :
    InBounds (getBoltDeviceName link index) ↔ BoltNameLong link index := by
  have hend := boltNameEnd link index
  generalize getBoltDeviceName link index = result at hend
  cases hend with
  | thrown reply =>
    exact iff_of_true (defined_thrown _).inBounds fun r hr => nomatch reply.symm.trans hr
  | short reply hlen =>
    refine iff_of_false (fun hin => hin.2 rfl) fun hlong => ?_
    have := (hlong _ reply).1
    omega
  | empty reply hlen hsize =>
    simp only [BoltNameLong, reply, Except.ok.injEq, forall_eq', hlen, hsize, true_and]
    exact iff_of_true (defined_ok _).inBounds (longReplies_of_le (Nat.zero_le _))
  | chunks reply hlen h =>
    simp only [BoltNameLong, reply, Except.ok.injEq, forall_eq', hlen, true_and]
    exact h.inBounds_iff

theorem getBoltDeviceName_defined_iff (link : Link) (index : DeviceIndex) :
    Defined (getBoltDeviceName link index) ↔
      BoltNameLong link index ∧ BoltNameWhole link index := by
  have hend := boltNameEnd link index
  generalize getBoltDeviceName link index = result at hend
  cases hend with
  | thrown reply =>
    exact iff_of_true (defined_thrown _)
      ⟨fun r hr => absurd (reply.symm.trans hr) nofun,
        fun r hr => absurd (reply.symm.trans hr) nofun⟩
  | short reply hlen =>
    refine iff_of_false (fun hdef => hdef _ rfl) fun hand => ?_
    have := (hand.1 _ reply).1
    omega
  | empty reply hlen hsize =>
    simp only [BoltNameLong, BoltNameWhole, reply, Except.ok.injEq, forall_eq', hlen, hsize, true_and]
    exact iff_of_true (defined_ok _)
      ⟨longReplies_of_le (Nat.zero_le _), fun _ => Nat.dvd_zero 13⟩
  | chunks reply hlen h =>
    simp only [BoltNameLong, BoltNameWhole, reply, Except.ok.injEq, forall_eq', hlen, true_and]
    exact h.defined_iff

/-- The decoders end with a value or an exception exactly if the replies they use are long reports and
the name of a Bolt device takes whole chunks. Reads past a reply and divisions by zero are excluded by
the first of these alone. -/
theorem register_decoders_defined_iff (link : Link) (isBolt : Bool) (index : DeviceIndex) :
    (Defined (getDeviceActivity link) ↔ LongReply link 0 deviceActivity []) ∧
    (Defined (getPairingInfo link isBolt index) ↔
      LongReply link 0 pairingInfo (pairingRequest isBolt index)) ∧
    (Defined (getExtendedPairingInfo link isBolt index) ↔
      LongReply link 0 pairingInfo (extendedPairingRequest isBolt index)) ∧
    (InBounds (getDeviceName link isBolt index) ↔ (isBolt = true → BoltNameLong link index)) ∧
    (Defined (getDeviceName link isBolt index) ↔
      (isBolt = true → BoltNameLong link index ∧ BoltNameWhole link index)) := by
  refine ⟨getDeviceActivity_defined_iff link, getPairingInfo_defined_iff link isBolt index,
    getExtendedPairingInfo_defined_iff link isBolt index, ?_, ?_⟩
  · cases isBolt with
    | false => exact iff_of_true (getUnifyingDeviceName_defined link index).inBounds nofun
    | true => simpa [getDeviceName] using getBoltDeviceName_inBounds_iff link index
  · cases isBolt with
    | false => exact iff_of_true (getUnifyingDeviceName_defined link index) nofun
    | true => simpa [getDeviceName] using getBoltDeviceName_defined_iff link index

/-- A receiver that answers every request for a register with an empty report of one type. -/
def emptyReplies (type : ReportType) : Link where
  deviceIndex := defaultDevice
  exchange _ request :=
    if request.subId = getRegisterLong then
      .returned (Report.ofSubId type defaultDevice getRegisterLong request.address)
    else .timeout
  accepted := by
    intro k request report h
    split at h
    next hsub =>
      cases h
      refine ⟨hsub.symm, ?_⟩
      cases type <;> rfl
    next => cases h

/-- A short report with the right sub id is accepted, and read past its end or divided by its length
less three. -/
theorem short_reply_undefined :
    ¬ ∀ (link : Link) (isBolt : Bool) (index : DeviceIndex),
      InBounds (getDeviceActivity link) ∧ InBounds (getPairingInfo link isBolt index) ∧
      InBounds (getDeviceName link isBolt index) := by
  intro h
  have hall := h (emptyReplies .short) true 1
  have hactivity : getDeviceActivity (emptyReplies .short) = .error (.fault .readPastResponse) := by
    decide
  exact hall.1.1 hactivity

end Receiver

end Logid.Backend.Hidpp10
