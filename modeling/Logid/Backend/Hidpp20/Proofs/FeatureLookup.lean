import Logid.Backend.Hidpp20.FeatureLookup

/-!
# Which feature a lookup finds

`Feature` and `EssentialFeature` find the feature they are asked for, and `Root::getFeature` the one whose
id has the two bytes exchanged.
-/

namespace Logid.Backend.Hidpp20

open Hidpp

theorem word_bytes (id : UInt16) : BigEndian.word (id >>> 8).toUInt8 id.toUInt8 = id := by
  have hlt : id.toNat < 65536 := id.toNat_lt
  have hlow : id.toNat % 256 < 2 ^ 8 := Nat.mod_lt _ (by decide)
  apply UInt16.toNat_inj.mp
  simp only [BigEndian.word, UInt16.toNat_or, UInt16.toNat_shiftLeft, UInt8.toNat_toUInt16,
    UInt16.toNat_toUInt8, UInt16.toNat_shiftRight]
  change (id.toNat >>> 8 % 2 ^ 8) <<< 8 % 2 ^ 16 ||| id.toNat % 2 ^ 8 = id.toNat
  have hhigh : id.toNat / 2 ^ 8 < 2 ^ 8 := by omega
  rw [Nat.shiftRight_eq_div_pow, Nat.mod_eq_of_lt hhigh,
    Nat.mod_eq_of_lt (by rw [Nat.shiftLeft_eq]; omega), ← Nat.shiftLeft_add_eq_or_of_lt hlow,
    Nat.shiftLeft_eq]
  omega

variable {device : Endpoint} {table : FeatureTable}

/-- What comes back for the request that all three send. -/
inductive Served (table : FeatureTable) (id : UInt16) : Except LookupExn (List UInt8) → Prop where
  | found {i : UInt8} {response : List UInt8} (entry : table.index id = some i)
    (head : response.getD 0 0 = i) : Served table id (.ok response)
  | lacking {response : List UInt8} (entry : table.index id = none)
    (head : response.getD 0 0 = 0) : Served table id (.ok response)
  | refused {err : Hidpp20Error} (entry : table.index id = none)
    (code : err.errorCode = errorInvalidFeatureIndex) : Served table id (.error (.error err))

theorem Endpoint.Serves.found (h : device.Serves table) (request : Report) {i : UInt8}
    (hfeature : request.feature = rootIndex) (hfunction : request.function = rootGetFeature)
    (hindex : table.index (BigEndian.word (request.params.getD 0 0) (request.params.getD 1 0)) =
      some i) :
    ∃ report, device.sendReport request = .returned report ∧ report.params.head? = some i := by
  have hserves := h request hfeature hfunction
  rw [hindex] at hserves
  exact hserves

theorem Endpoint.Serves.missing (h : device.Serves table) (request : Report)
    (hfeature : request.feature = rootIndex) (hfunction : request.function = rootGetFeature)
    (hindex : table.index (BigEndian.word (request.params.getD 0 0) (request.params.getD 1 0)) =
      none) :
    (∃ report, device.sendReport request = .returned report ∧ report.params.head? = some 0) ∨
      ∃ err, device.sendReport request = .error err ∧ err.errorCode = errorInvalidFeatureIndex := by
  have hserves := h request hfeature hfunction
  rw [hindex] at hserves
  exact hserves

theorem Endpoint.Serves.served (h : device.Serves table) (high low : UInt8) :
    Served table (BigEndian.word high low)
      (Device.callFunction device rootIndex rootGetFeature [high, low]) := by
  have hcall : Device.callFunction device rootIndex rootGetFeature [high, low] =
      device.exchange (.ok ((Report.ofFeature .short device.deviceIndex rootIndex rootGetFeature
        softwareID).copyParams [high, low])) := rfl
  have hfunction : ((Report.ofFeature .short device.deviceIndex rootIndex rootGetFeature
      softwareID).copyParams [high, low]).function = rootGetFeature := by
    simp [rootGetFeature]
  rw [hcall, Endpoint.exchange]
  cases hindex : table.index (BigEndian.word high low) with
  | some i =>
    obtain ⟨report, hreport, hhead⟩ := h.found _ rfl hfunction hindex
    simp only [hreport]
    exact .found hindex (by rw [List.getD_eq_getElem?_getD, ← List.head?_eq_getElem?, hhead]; rfl)
  | none =>
    obtain ⟨report, hreport, hhead⟩ | ⟨err, herr, hcode⟩ := h.missing _ rfl hfunction hindex
    · simp only [hreport]
      exact .lacking hindex
        (by rw [List.getD_eq_getElem?_getD, ← List.head?_eq_getElem?, hhead]; rfl)
    · simp only [herr]
      exact .refused hindex hcode

/-- The part that the two constructors share. -/
theorem Served.resolve {id : UInt16} {result : Except LookupExn (List UInt8)}
    (h : Served table id result) :
    (do
      let response ← catchInvalidIndex id result
      let index := response.getD 0 0
      if index = 0 then .error (.unsupportedFeature id) else .ok index) = table.resolve id := by
  cases h with
  | found entry head =>
    rw [List.getD_eq_getElem?_getD] at head
    have hne := table.nonzero entry
    simp [catchInvalidIndex, FeatureTable.resolve, entry, head, hne, bind, Except.bind]
  | lacking entry head =>
    rw [List.getD_eq_getElem?_getD] at head
    simp [catchInvalidIndex, FeatureTable.resolve, entry, head, bind, Except.bind]
  | refused entry code =>
    simp [catchInvalidIndex, FeatureTable.resolve, entry, code, bind, Except.bind]

theorem feature_new_eq (h : device.Serves table) {id : UInt16} (hid : id ≠ 0) :
    Feature.new device id = table.resolve id := by
  have hserved := h.served (id >>> 8).toUInt8 id.toUInt8
  rw [word_bytes] at hserved
  rw [Feature.new, if_pos hid]
  exact hserved.resolve

theorem essentialFeature_new_eq (h : device.Serves table) {id : UInt16} (hid : id ≠ 0) :
    EssentialFeature.new device id = table.resolve id := by
  have hserved := h.served (id >>> 8).toUInt8 id.toUInt8
  rw [word_bytes] at hserved
  rw [EssentialFeature.new, if_pos hid]
  exact hserved.resolve

/-- `Root::getFeature` gives the entry of the id with exchanged bytes, and names the id asked for when it
throws. -/
theorem root_getFeature_eq (h : device.Serves table) (id : UInt16) :
    (Root.getFeature device id).map (·.featureId) =
      match table.index (swapBytes id) with
      | some i => .ok i.toUInt16
      | none => .error (.unsupportedFeature id) := by
  have hserved : Served table (swapBytes id) (EssentialFeature.callFunction device rootIndex
    rootGetFeature (genGetFeatureParams id)) := h.served id.toUInt8 (id >>> 8).toUInt8
  rw [Root.getFeature]
  generalize EssentialFeature.callFunction device rootIndex rootGetFeature
    (genGetFeatureParams id) = result at hserved
  cases hserved with
  | found entry head =>
    rw [List.getD_eq_getElem?_getD] at head
    have hne := table.nonzero entry
    simp [catchInvalidIndex, genGetFeatureInfo, entry, head, hne, bind, Except.bind, Except.map]
  | lacking entry head =>
    rw [List.getD_eq_getElem?_getD] at head
    simp [catchInvalidIndex, genGetFeatureInfo, entry, head, bind, Except.bind, Except.map]
  | refused entry code =>
    simp [catchInvalidIndex, entry, code, bind, Except.bind, Except.map]

/-- All three resolve an id to its entry, or throw that the feature is not supported, exactly if the table
has the same entry for the id with its bytes exchanged. -/
theorem feature_lookups_agree_iff (h : device.Serves table) {id : UInt16} (hid : id ≠ 0) :
    Feature.new device id = table.resolve id ∧ EssentialFeature.new device id = table.resolve id ∧
    ((Root.getFeature device id).map (·.featureId) = (table.resolve id).map (·.toUInt16) ↔
      table.index (swapBytes id) = table.index id) := by
  refine ⟨feature_new_eq h hid, essentialFeature_new_eq h hid, ?_⟩
  rw [root_getFeature_eq h, FeatureTable.resolve]
  cases hswap : table.index (swapBytes id) <;> cases hindex : table.index id <;>
    simp [Except.map, UInt8.toUInt16_inj]

/-- A device that answers every request from its table, with `0` for a feature that it lacks. -/
def FeatureTable.endpoint (table : FeatureTable) : Endpoint where
  deviceIndex := defaultDevice
  sendReport request :=
    let id := BigEndian.word (request.params.getD 0 0) (request.params.getD 1 0)
    .returned ((Report.ofFeature .short defaultDevice rootIndex rootGetFeature softwareID).copyParams
      [(table.index id).getD 0])

theorem FeatureTable.serves_endpoint (table : FeatureTable) : table.endpoint.Serves table := by
  intro request _ _
  split
  next i hi => exact ⟨_, rfl, by rw [hi]; rfl⟩
  next hnone => exact .inl ⟨_, rfl, by rw [hnone]; rfl⟩

/-- `FeatureID::FEATURE_SET` at 1 and `FeatureID::HIRES_SCROLLING_V2` at 9. -/
def mouseTable : FeatureTable where
  index id := if id = 0x0001 then some 1 else if id = 0x2121 then some 9 else none
  nonzero := by
    intro id i h
    split at h
    next =>
      cases h
      decide
    next =>
      split at h
      next =>
        cases h
        decide
      next => cases h

theorem hires_scroll_found :
    Feature.new mouseTable.endpoint 0x2121 = .ok 9 ∧
    (Root.getFeature mouseTable.endpoint 0x2121).map (·.featureId) = .ok 9 := by
  have h := feature_lookups_agree_iff mouseTable.serves_endpoint (show (0x2121 : UInt16) ≠ 0 by decide)
  exact ⟨h.1, h.2.2.mpr (by decide)⟩

/-- The feature set is there, and `Root::getFeature` asks for feature 256. -/
theorem root_misses_feature_set :
    Root.getFeature mouseTable.endpoint 0x0001 = .error (.unsupportedFeature 0x0001) ∧
    ¬ ∀ (device : Endpoint) (table : FeatureTable) (id : UInt16), device.Serves table → id ≠ 0 →
      (Root.getFeature device id).map (·.featureId) = (table.resolve id).map (·.toUInt16) := by
  have hroot : Root.getFeature mouseTable.endpoint 0x0001 = .error (.unsupportedFeature 0x0001) := by
    decide
  refine ⟨hroot, fun h => ?_⟩
  have hmissed := h mouseTable.endpoint mouseTable 0x0001 mouseTable.serves_endpoint (by decide)
  rw [hroot] at hmissed
  cases hmissed

end Logid.Backend.Hidpp20
