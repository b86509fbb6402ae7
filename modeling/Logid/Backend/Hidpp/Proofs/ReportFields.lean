import Logid.Backend.Hidpp.ReportFields

/-!
# Reading back what was put into a report

A report is its type byte, three header bytes and as many parameters as its type has, and every
constructor, setter and getter is described on that form. The setters then do what `Setter.update`
says, but for `setFeature`, which writes a parameter.
-/

namespace Logid.Backend.Hidpp

theorem resize_eq_append (data : List UInt8) (n : Nat) :
    resize data n = data.take n ++ List.replicate (n - data.length) 0 := by
  rw [resize, List.take_append, List.take_replicate]
  congr 2
  omega

theorem resize_of_length {data : List UInt8} {n : Nat} (h : data.length = n) :
    resize data n = data := by
  rw [resize, ← h, List.take_left]

theorem resize_cons (b : UInt8) (data : List UInt8) (n : Nat) :
    resize (b :: data) (n + 1) = b :: resize data n := by
  simp [resize_eq_append]

/-- What was filled up is cut back to what it was. -/
theorem resize_resize {data : List UInt8} {m n : Nat} (h : data.length = m) (hmn : m ≤ n) :
    resize (resize data n) m = data := by
  rw [resize_eq_append data, List.take_of_length_le (by omega), resize, List.append_assoc, ← h,
    List.take_left]

namespace Report

theorem lowNibble_join (x y : UInt8) : (x <<< 4 ||| (y &&& 0x0f)) &&& 0x0f = y &&& 0x0f := by
  apply UInt8.toBitVec_inj.mp
  ext i hi
  simp only [UInt8.toBitVec_and, UInt8.toBitVec_or, UInt8.toBitVec_shiftLeft]
  have hcases : i = 0 ∨ i = 1 ∨ i = 2 ∨ i = 3 ∨ i = 4 ∨ i = 5 ∨ i = 6 ∨ i = 7 := by omega
  rcases hcases with rfl | rfl | rfl | rfl | rfl | rfl | rfl | rfl <;> simp

/-- The two halves of a byte. -/
theorem nibbles_join (x : UInt8) : (x >>> 4 &&& 0x0f) <<< 4 = x &&& 0xf0 := by
  apply UInt8.toBitVec_inj.mp
  ext i hi
  simp only [UInt8.toBitVec_and, UInt8.toBitVec_shiftRight, UInt8.toBitVec_shiftLeft]
  have hcases : i = 0 ∨ i = 1 ∨ i = 2 ∨ i = 3 ∨ i = 4 ∨ i = 5 ∨ i = 6 ∨ i = 7 := by omega
  rcases hcases with rfl | rfl | rfl | rfl | rfl | rfl | rfl | rfl <;> simp

/-- The bytes of a report with the given header and parameters. -/
def bytes (type : ReportType) (index : DeviceIndex) (subId address : UInt8)
    (params : List UInt8) : List UInt8 :=
  [type.byte, index, subId, address] ++ params

theorem exists_bytes (report : Report) : ∃ t i s a ps,
    ps.length = ReportType.paramLength t ∧ report.data = bytes t i s a ps := by
  obtain ⟨data, t, htype, hlen⟩ := report
  match data, htype, hlen with
  | b :: i :: s :: a :: ps, htype, hlen =>
    obtain rfl : b = t.byte := by simpa [Offset.type] using htype
    refine ⟨t, i, s, a, ps, ?_, rfl⟩
    simp only [headerLength, List.length_cons] at hlen
    omega
  | [], _, hlen | [_], _, hlen | [_, _], _, hlen | [_, _, _], _, hlen =>
    simp only [headerLength, List.length_cons, List.length_nil] at hlen
    omega

variable {report : Report} {t : ReportType} {i : DeviceIndex} {s a : UInt8} {ps : List UInt8}

theorem fields_of_data (h : report.data = bytes t i s a ps) : report.fields = {
    type := t, deviceIndex := i, feature := s, subId := s, function := a >>> 4 &&& 0x0f,
    swId := a &&& 0x0f, address := a, params := ps } := by
  have htype : report.type = t := by
    cases t <;> simp [type, byteAt, h, bytes, Offset.type, ReportType.byte]
  rw [fields, htype]
  simp only [deviceIndex, feature, subId, function, swId, address, params, byteAt, h]
  rfl

theorem ofRaw_rawReport (report : Report) : ofRaw report.rawReport = .ok report := by
  obtain ⟨t, i, s, a, ps, hps, hdata⟩ := exists_bytes report
  have hlen : report.data.length = headerLength + t.paramLength := by
    rw [hdata, ← hps]
    simp only [bytes, headerLength, List.length_append, List.length_cons, List.length_nil]
  have htype : (resize report.data (headerLength + ReportType.long.paramLength))[Offset.type]? =
      some t.byte := by
    rw [hdata]
    rfl
  unfold ofRaw rawReport
  cases t with
  | short =>
    rw [dif_pos htype]
    congr 2
    exact resize_resize hlen (by decide)
  | long =>
    rw [dif_neg (by rw [htype]; decide), dif_pos htype]
    congr 2
    exact resize_of_length hlen

/-- One parameter after the other: those from the place on are replaced, as long as they are there. -/
theorem data_setParamsFrom {params : List UInt8} : ∀ {report : Report} {i : Nat},
    Offset.parameters + i + params.length ≤ report.data.length →
    (report.setParamsFrom i params).data = report.data.take (Offset.parameters + i) ++
      (params ++ report.data.drop (Offset.parameters + i + params.length)) := by
  induction params with
  | nil =>
    intro report i _
    simp [setParamsFrom]
  | cons param params ih =>
    intro report i h
    rw [List.length_cons] at h
    have hlt : Offset.parameters + i < report.data.length := by omega
    rw [setParamsFrom, ih (by simp only [setByte, List.length_set]; omega)]
    simp only [setByte]
    rw [← Nat.add_assoc, List.take_succ_eq_append_getElem (by rw [List.length_set]; exact hlt),
      List.getElem_set_self, List.take_set_of_le (Nat.le_refl _), List.drop_set_of_lt (by omega),
      List.length_cons]
    simp only [List.append_assoc, List.cons_append, List.nil_append]
    congr 4
    omega

theorem data_setParams (h : report.data = bytes t i s a ps) {params : List UInt8}
    (hfit : params.length ≤ ps.length) :
    (report.setParams params).data = bytes t i s a (params ++ ps.drop params.length) := by
  rw [setParams, data_setParamsFrom, h]
  · rw [Nat.add_zero, Nat.add_comm]
    rfl
  · rw [h, Nat.add_zero, Nat.add_comm]
    exact Nat.add_le_add_right hfit 4

theorem data_setType (h : report.data = bytes t i s a ps) (t' : ReportType) :
    (report.setType t').data = bytes t' i s a (resize ps t'.paramLength) := by
  have hlen : headerLength + t'.paramLength = t'.paramLength + 1 + 1 + 1 + 1 := by
    simp only [headerLength]
    omega
  change (resize report.data (headerLength + t'.paramLength)).set Offset.type t'.byte = _
  rw [h, hlen]
  simp only [bytes, List.cons_append, List.nil_append, resize_cons]
  rfl

theorem data_setByte (h : report.data = bytes t i s a ps) {offset : Nat} (value : UInt8)
    (hoffset : offset ≠ Offset.type) :
    (report.setByte offset value hoffset).data = (bytes t i s a ps).set offset value := by
  rw [← h]
  rfl

theorem data_setFunction (h : report.data = bytes t i s a ps) (value : UInt8) :
    (report.setFunction value).data =
      bytes t i s ((value &&& 0x0f) <<< 4 ||| (a &&& 0x0f)) ps := by
  have haddr : report.byteAt Offset.address = a := by
    rw [byteAt, h]
    rfl
  rw [setFunction, haddr, UInt8.or_comm]
  exact data_setByte h _ (by decide)

theorem data_setSwId (h : report.data = bytes t i s a ps) (value : UInt8) :
    (report.setSwId value).data =
      bytes t i s ((a >>> 4 &&& 0x0f) <<< 4 ||| (value &&& 0x0f)) ps := by
  have haddr : report.byteAt Offset.address = a := by
    rw [byteAt, h]
    rfl
  rw [setSwId, haddr, nibbles_join]
  exact data_setByte h _ (by decide)

theorem fields_ofSubId {params : List UInt8} (hparams : params.length ≤ t.paramLength) :
    ((ofSubId t i s a).setParams params).fields = {
      type := t, deviceIndex := i, feature := s, subId := s, function := a >>> 4 &&& 0x0f,
      swId := a &&& 0x0f, address := a, params := resize params t.paramLength } := by
  have hdata : (ofSubId t i s a).data = bytes t i s a (List.replicate t.paramLength 0) := rfl
  rw [fields_of_data (data_setParams hdata (by rw [List.length_replicate]; exact hparams)),
    resize_eq_append, List.take_of_length_le hparams, List.drop_replicate]

theorem fields_ofFeature {function swId : UInt8} (hfunction : function ≤ 0x0f)
    (hswId : swId ≤ 0x0f) {params : List UInt8} (hparams : params.length ≤ t.paramLength) :
    ((ofFeature t i s function swId).setParams params).fields = {
      type := t, deviceIndex := i, feature := s, subId := s, function := function,
      swId := swId, address := function <<< 4 ||| swId,
      params := resize params t.paramLength } := by
  rw [ofFeature, fields_ofSubId hparams, highNibble_join, lowNibble_join, and_nibble hfunction,
    and_nibble hswId]

theorem fields_setType_long (report : Report) :
    (report.setType .long).fields = report.fields.toLong := by
  obtain ⟨t, i, s, a, ps, -, hdata⟩ := exists_bytes report
  rw [fields_of_data (data_setType hdata .long), fields_of_data hdata, Fields.toLong]

end Report

theorem fields_reportFixup {report : Report} (h : report.type = .short) :
    (Device.reportFixup false report).fields = report.fields.toLong := by
  rw [Device.reportFixup, h]
  exact Report.fields_setType_long report

/-- Every setter but `setFeature` does what it is there for. -/
theorem fields_apply {report : Report} {s : Setter} (hs : s.Fits report)
    (hne : ∀ value, s ≠ .feature value) : (s.apply report).fields = s.update report.fields := by
  obtain ⟨t, i, b, a, ps, hps, hdata⟩ := Report.exists_bytes report
  have hfields := Report.fields_of_data hdata
  rw [hfields]
  cases s with
  | deviceIndex value =>
    exact Report.fields_of_data (Report.data_setByte hdata value (by decide))
  | feature value => exact absurd rfl (hne value)
  | subId value => exact Report.fields_of_data (Report.data_setByte hdata value (by decide))
  | function value =>
    have hvalue : value &&& 0x0f = value := Report.and_nibble hs
    rw [Setter.apply, Report.fields_of_data (Report.data_setFunction hdata value),
      Report.highNibble_join, Report.lowNibble_join, hvalue, Setter.update]
  | swId value =>
    have hvalue : value &&& 0x0f = value := Report.and_nibble hs
    rw [Setter.apply, Report.fields_of_data (Report.data_setSwId hdata value),
      Report.highNibble_join, Report.lowNibble_join, hvalue, Setter.update]
  | address value => exact Report.fields_of_data (Report.data_setByte hdata value (by decide))
  | params values =>
    have htype : report.type = t := congrArg Fields.type hfields
    have hfit : values.length ≤ ps.length := by
      rw [hps, ← htype]
      exact hs
    exact Report.fields_of_data (Report.data_setParams hdata hfit)

/-- `setFeature` sets the feature exactly if it changes nothing. -/
theorem fields_setFeature_iff {report : Report} {value : UInt8} :
    (report.setFeature value).fields = (Setter.feature value).update report.fields ↔
      report.feature = value ∧ report.params.head? = some value := by
  obtain ⟨t, i, b, a, ps, hps, hdata⟩ := Report.exists_bytes report
  have hfields := Report.fields_of_data hdata
  have hset : (report.setFeature value).data = Report.bytes t i b a (ps.set 0 value) :=
    Report.data_setByte hdata value (by decide)
  have hfeature : report.feature = b := congrArg Fields.feature hfields
  have hparams : report.params = ps := congrArg Fields.params hfields
  rw [Report.fields_of_data hset, hfields, hfeature, hparams]
  cases ps with
  | nil => cases t <;> cases hps
  | cons param ps => simp [Setter.update, and_comm, eq_comm]

/-- A setter of a report does what it is there for exactly if it is not `setFeature`, or sets the
feature to the value that it has already and that the first parameter has too. -/
theorem fields_apply_iff {report : Report} {s : Setter} (hs : s.Fits report) :
    (s.apply report).fields = s.update report.fields ↔
      ∀ value, s = .feature value → report.feature = value ∧ report.params.head? = some value := by
  by_cases hfeature : ∃ value, s = .feature value
  · obtain ⟨value, rfl⟩ := hfeature
    rw [Setter.apply, fields_setFeature_iff]
    constructor
    · intro h v hv
      cases hv
      exact h
    · intro h
      exact h value rfl
  · simp only [not_exists] at hfeature
    exact iff_of_true (fields_apply hs hfeature) fun value hv => absurd hv (hfeature value)

/-- What is built from fields is parsed back to them, a short report keeps them as a long one, and a
setter does what it is there for exactly if it is not `setFeature` or changes nothing. -/
theorem report_codec {t : ReportType} {i : DeviceIndex} {id function swId address : UInt8}
    {params : List UInt8} {report short : Report} {s : Setter} (hfunction : function ≤ 0x0f)
    (hswId : swId ≤ 0x0f) (hparams : params.length ≤ t.paramLength)
    (hshort : short.type = .short) (hs : s.Fits report) :
    (∃ parsed, Report.ofRaw ((Report.ofFeature t i id function swId).setParams params).rawReport =
        .ok parsed ∧
      parsed.fields = {
        type := t, deviceIndex := i, feature := id, subId := id, function := function,
        swId := swId, address := function <<< 4 ||| swId,
        params := resize params t.paramLength }) ∧
    (∃ parsed, Report.ofRaw ((Report.ofSubId t i id address).setParams params).rawReport =
        .ok parsed ∧
      parsed.fields = {
        type := t, deviceIndex := i, feature := id, subId := id,
        function := address >>> 4 &&& 0x0f, swId := address &&& 0x0f, address := address,
        params := resize params t.paramLength }) ∧
    (Device.reportFixup false short).fields = short.fields.toLong ∧
    ((s.apply report).fields = s.update report.fields ↔
      ∀ value, s = .feature value →
        report.feature = value ∧ report.params.head? = some value) := by
  refine ⟨⟨_, Report.ofRaw_rawReport _, ?_⟩, ⟨_, Report.ofRaw_rawReport _, ?_⟩, ?_, ?_⟩
  · exact Report.fields_ofFeature hfunction hswId hparams
  · exact Report.fields_ofSubId hparams
  · exact fields_reportFixup hshort
  · exact fields_apply_iff hs

theorem report_codec_ping :
    (∃ parsed, Report.ofRaw
        ((Report.ofFeature .long 0xff 0 1 softwareID).setParams [0, 0, 0x5a]).rawReport =
        .ok parsed ∧
      parsed.fields = {
        type := .long, deviceIndex := 0xff, feature := 0, subId := 0, function := 1, swId := 2,
        address := 0x12, params := [0, 0, 0x5a, 0, 0, 0, 0, 0, 0, 0, 0, 0, 0, 0, 0, 0] }) ∧
    ((Setter.feature 5).apply (Report.ofSubId .short 1 0x80 0)).fields ≠
      (Setter.feature 5).update (Report.ofSubId .short 1 0x80 0).fields := by
  have h := @report_codec .long 0xff 0 1 softwareID 0 [0, 0, 0x5a] (Report.ofSubId .short 1 0x80 0)
    (Report.ofSubId .short 1 0x80 0) (.feature 5) (by decide) (by decide) (by decide) (by decide)
    trivial
  refine ⟨h.1, ?_⟩
  intro hlaw
  have hfeature := (h.2.2.2.mp hlaw 5 rfl).1
  exact absurd hfeature (by decide)

/-- The feature stays as it was, and the first parameter is lost. -/
theorem setFeature_overwrites_params :
    ((Report.ofFeature .short 1 0 1 softwareID).setFeature 5).feature = 0 ∧
    ¬ ∀ (report : Report) (s : Setter), s.Fits report →
      (s.apply report).fields = s.update report.fields := by
  refine ⟨by decide, ?_⟩
  intro h
  have hset := congrArg Fields.feature
    (h (Report.ofFeature .short 1 0 1 softwareID) (.feature 5) trivial)
  exact absurd hset (by decide)

end Logid.Backend.Hidpp
