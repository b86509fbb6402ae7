import Logid.Features.Proofs.DPIConfig

/-!
# The other sensors of an edit

`SetDPI` turns the configuration into the list of its values with the new one put in, so the other
sensors keep what they had except for the zeros before it, the single value, and lists that are read
on the way.
-/

namespace Logid.Features

open Backend.Hidpp20 (Hardware SensorDPIList)

/-! ## The values of the configuration -/

theorem toUInt16_toInt32 (dpi : UInt16) : toUInt16 (DPI.toInt32 dpi) = dpi := by
  rw [toUInt16, DPI.toInt32, UInt32.toUInt32_toInt32]
  exact UInt16.toUInt16_toUInt32 dpi

theorem toInt32_ne_zero {dpi : UInt16} (h : dpi ≠ 0) : DPI.toInt32 dpi ≠ 0 := by
  intro heq
  apply h
  rw [← toUInt16_toInt32 dpi, heq]
  rfl

theorem exists_toNat_eq_succ {sensor : UInt8} (h : sensor ≠ 0) : ∃ k, sensor.toNat = k + 1 := by
  have hpos : sensor.toNat ≠ 0 := fun heq => h (UInt8.toNat_inj.mp heq)
  exact Nat.exists_eq_succ_of_ne_zero hpos

theorem getElem?_setPadded (list : List Int32) (dpi : Int32) (sensor t : Nat) :
    (DPI.setPadded list dpi sensor)[t]? =
      if t = sensor then some dpi
      else if t < list.length then list[t]?
      else if t < sensor then some 0 else none := by
  have hlength : (list ++ List.replicate (sensor + 1 - list.length) (0 : Int32)).length =
      max list.length (sensor + 1) := by
    rw [List.length_append, List.length_replicate]
    omega
  rw [DPI.setPadded, List.getElem?_set, hlength, List.getElem?_append, List.getElem?_replicate]
  by_cases heq : t = sensor
  · subst heq
    rw [if_pos rfl, if_pos (by omega), if_pos rfl]
  · rw [if_neg (Ne.symm heq), if_neg heq]
    by_cases hlt : t < list.length
    · rw [if_pos hlt, if_pos hlt]
    · rw [if_neg hlt, if_neg hlt]
      by_cases hbelow : t < sensor
      · rw [if_pos hbelow, if_pos (by omega)]
      · rw [if_neg hbelow, if_neg (by omega)]

theorem length_setPadded (list : List Int32) (dpi : Int32) (sensor : Nat) :
    (DPI.setPadded list dpi sensor).length = max list.length (sensor + 1) := by
  rw [DPI.setPadded, List.length_set, List.length_append, List.length_replicate]
  omega

namespace DPI

/-- The values that `SetDPI` puts the new one into; a single value is replaced by it. -/
def baseValues (config : Option Config.DPI) (dpi : UInt16) : List Int32 :=
  match config with
  | none => []
  | some (.inl _) => [toInt32 dpi]
  | some (.inr list) => list

theorem length_baseValues (config : Option Config.DPI) (dpi : UInt16) :
    (baseValues config dpi).length = (config.elim [] dpiValues).length := by
  rcases config with _ | old | list <;> rfl

theorem dpiValues_editConfig (config : Option Config.DPI) (dpi : UInt16) (sensor : UInt8) :
    dpiValues (editConfig config dpi sensor) =
      setPadded (baseValues config dpi) (toInt32 dpi) sensor.toNat := by
  rcases config with _ | old | list
  · rfl
  · by_cases hzero : sensor = 0
    · subst hzero
      rfl
    · obtain ⟨k, hk⟩ := exists_toNat_eq_succ hzero
      simp only [editConfig, Option.getD_some, if_neg hzero, dpiValues, hk]
      rfl
  · rfl

/-- `GetDPI` reads the values, and the device for a sensor without one. -/
theorem getDPI_eq (config : Option Config.DPI) (hw : Hardware) (sensor : UInt8) :
    getDPI config hw sensor =
      ((config.elim [] dpiValues)[sensor.toNat]?).elim (hw.dpi sensor) toUInt16 := by
  rcases config with _ | old | list
  · rfl
  · by_cases hzero : sensor = 0
    · subst hzero
      rfl
    · obtain ⟨k, hk⟩ := exists_toNat_eq_succ hzero
      simp only [getDPI, if_neg hzero, Option.elim_some, dpiValues, hk]
      rfl
  · simp only [getDPI, Option.elim_some, dpiValues]
    cases list[sensor.toNat]? <;> rfl

/-- What `configure` programs, with the lists of all sensors. -/
theorem programmed_eq_some_iff {info : Info} (config : Option Config.DPI) (c : Control info)
    {sensor : UInt8} {list : SensorDPIList} (hlist : info.sensorLists[sensor.toNat]? = some list)
    (closest : UInt16) :
    programmed config c sensor = some closest ↔
      CanFill info (config.elim [] dpiValues) ∧
        sensor.toNat < max c.dpiLists.1.length (needed (config.elim [] dpiValues)) ∧
        ∃ dpi, (config.elim [] dpiValues)[sensor.toNat]? = some dpi ∧ dpi ≠ 0 ∧
          getClosestDPI list (toUInt16 dpi) = some closest := by
  rw [programmed]
  generalize config.elim [] dpiValues = dpis
  split
  next hcan =>
    rw [and_iff_right hcan, dpiProgram, if_neg (Nat.not_lt_zero _), Nat.sub_zero, listsFor,
      List.getElem?_take, hlist]
    split
    next hlt =>
      rw [and_iff_right hlt]
      cases dpis[sensor.toNat]? <;> simp
    next hge => cases dpis[sensor.toNat]? <;> simp [hge]
  next hcannot => simp [hcannot]

/-- `setDPI` of a sensor that the device has. -/
theorem setDPI_eq {info : Info} (c : Control info) {dpi : UInt16} (hdpi : dpi ≠ 0)
    {sensor : UInt8} {list : SensorDPIList} (hlist : info.sensorLists[sensor.toNat]? = some list) :
    ∃ lists : DpiLists info, lists.1.length = max c.dpiLists.1.length (sensor.toNat + 1) ∧
      setDPI c dpi sensor = (getClosestDPI list dpi).map fun closest => ({
        hardware := Backend.Hidpp20.AdjustableDPI.setSensorDPI c.hardware sensor closest
        dpiLists := lists }, true) := by
  have hsensor : sensor.toNat < info.sensorLists.length := (List.getElem?_eq_some_iff.mp hlist).1
  have hknown := dpiLists_length_le c.dpiLists
  obtain ⟨htake, hfilled⟩ :=
    fillLoop_spec (sensor.toNat + 1 - c.dpiLists.1.length) c.dpiLists
  have hfill : (fillDPILists c.dpiLists sensor).2 = true := hfilled.mpr (by omega)
  have hread : (fillDPILists c.dpiLists sensor).1.1 =
      info.sensorLists.take (max c.dpiLists.1.length (sensor.toNat + 1)) := by
    rw [fillDPILists, htake]
    congr 1
    omega
  refine ⟨(fillDPILists c.dpiLists sensor).1, ?_, ?_⟩
  · rw [hread, List.length_take]
    omega
  · have hthere : (fillDPILists c.dpiLists sensor).1.1[sensor.toNat]? = some list := by
      rw [hread, List.getElem?_take, if_pos (by omega), hlist]
    simp only [setDPI, if_neg hdpi, hfill, if_true, hthere]
    cases getClosestDPI list dpi <;> rfl

end DPI

/-! ## The other sensors -/

/-- The lists that the values need, after the new one has been put in. -/
theorem needed_setPadded {list : List Int32} (dpi : Int32) (sensor : UInt8) :
    needed (DPI.setPadded list dpi sensor.toNat) =
      if list.length ≤ 256 then max list.length (sensor.toNat + 1) else needed list := by
  have hsensor := sensor.toNat_lt
  rw [needed, length_setPadded, needed]
  split <;> omega

theorem canFill_setPadded_iff {info : Info} {list : List Int32} (dpi : Int32) {sensor : UInt8}
    (hsensor : sensor.toNat < info.sensorLists.length) :
    CanFill info (DPI.setPadded list dpi sensor.toNat) ↔ CanFill info list := by
  have hne : DPI.setPadded list dpi sensor.toNat ≠ [] := by
    intro hnil
    have hlength := length_setPadded list dpi sensor.toNat
    rw [hnil, List.length_nil] at hlength
    omega
  rw [CanFill, CanFill, or_iff_right hne, needed_setPadded]
  split
  next hshort =>
    rw [needed]
    cases list with
    | nil => simpa [Nat.succ_le_iff] using hsensor
    | cons value list =>
      rw [or_iff_right (List.cons_ne_nil _ _)]
      omega
  next hlong =>
    rw [or_iff_right]
    rintro rfl
    simp at hlong

/-- A value that was there has a list afterwards if it had one, or is below the edited sensor. -/
theorem lt_listed_iff {dpis : List Int32} {known t : Nat} (dpi : Int32) {sensor : UInt8}
    (ht : t < dpis.length) (hne : t ≠ sensor.toNat) :
    t < max (max known (sensor.toNat + 1)) (needed (DPI.setPadded dpis dpi sensor.toNat)) ↔
      t < max known (needed dpis) ∨ t < sensor.toNat := by
  rw [needed_setPadded]
  split
  next hshort =>
    have hneeded : needed dpis = dpis.length := by
      rw [needed]
      omega
    omega
  next => omega

/-- The value of another sensor is programmed as before, unless it has had no list. -/
theorem programmed_edit_iff {info : Info} {config config' : Option Config.DPI}
    {c c' : Control info} {value dpi : Int32} {sensor other : UInt8} {list : SensorDPIList}
    (hsensor : sensor.toNat < info.sensorLists.length)
    (hlist : info.sensorLists[other.toNat]? = some list) (hne : other.toNat ≠ sensor.toNat)
    (hvalue : (config.elim [] dpiValues)[other.toNat]? = some value)
    (hconfig : config'.elim [] dpiValues =
      DPI.setPadded (config.elim [] dpiValues) dpi sensor.toNat)
    (hknown : c'.dpiLists.1.length = max c.dpiLists.1.length (sensor.toNat + 1)) :
    DPI.programmed config' c' other = DPI.programmed config c other ↔
      (other < sensor →
        max c.dpiLists.1.length (needed (config.elim [] dpiValues)) ≤ other.toNat →
        value ≠ 0 → ¬ChoosesValue list) := by
  have hother : other.toNat < info.sensorLists.length := (List.getElem?_eq_some_iff.mp hlist).1
  have hlt := (List.getElem?_eq_some_iff.mp hvalue).1
  have hvalue' : (config'.elim [] dpiValues)[other.toNat]? = some value := by
    rw [hconfig, getElem?_setPadded, if_neg hne, if_pos hlt, hvalue]
  have hbefore := DPI.programmed_eq_some_iff config c hlist
  have hafter := DPI.programmed_eq_some_iff config' c' hlist
  rw [hconfig, canFill_setPadded_iff dpi hsensor, hknown, lt_listed_iff dpi hlt hne,
    ← UInt8.lt_iff_toNat_lt, ← hconfig] at hafter
  simp only [hvalue, hvalue', Option.some_inj, exists_eq_left'] at hbefore hafter
  generalize hold : config.elim [] dpiValues = dpis at *
  by_cases hlisted : other.toNat < max c.dpiLists.1.length (needed dpis)
  · refine iff_of_true (Option.ext fun closest => ?_) fun _ hge => absurd hge (by omega)
    rw [hbefore, hafter, or_iff_left_of_imp fun _ => hlisted]
  · have hcan : CanFill info dpis := by
      right
      omega
    have hnone : DPI.programmed config c other = none :=
      Option.eq_none_iff_forall_ne_some.mpr fun closest heq => hlisted ((hbefore closest).mp heq).2.1
    rw [hnone, Option.eq_none_iff_forall_ne_some]
    simp only [ne_eq, hafter, hcan, hlisted, false_or, true_and, not_and]
    constructor
    · intro hall hlow _ hvalue hchooses
      obtain ⟨closest, hclosest⟩ :=
        Option.isSome_iff_exists.mp ((getClosestDPI_isSome_iff list (toUInt16 value)).mpr hchooses)
      exact hall closest hlow hvalue hclosest
    · intro hcond closest hlow hvalue hclosest
      apply hcond hlow (Nat.not_lt.mp hlisted) hvalue
      rw [← getClosestDPI_isSome_iff list (toUInt16 value), hclosest]
      rfl

/-! ### One other sensor -/

section Kept

variable {info : Info} {config : Option Config.DPI} {c c' : Control info} {dpi : UInt16}
  {sensor other : UInt8} {list : SensorDPIList}

/-- Another sensor keeps `GetDPI` and what `configure` programs. -/
def Kept (config : Option Config.DPI) (c c' : Control info) (dpi : UInt16) (sensor other : UInt8) :
    Prop :=
  DPI.getDPI (some (DPI.editConfig config dpi sensor)) c'.hardware other =
      DPI.getDPI config c.hardware other ∧
    DPI.programmed (some (DPI.editConfig config dpi sensor)) c' other =
      DPI.programmed config c other

/-- A sensor without a value below the edited one gets a zero. -/
theorem kept_unset_iff (hne : other ≠ sensor) (hhw : c'.hardware.dpi other = c.hardware.dpi other)
    (hlist : info.sensorLists[other.toNat]? = some list)
    (hunset : (config.elim [] dpiValues).length ≤ other.toNat) :
    Kept config c c' dpi sensor other ↔ (other < sensor → c.hardware.dpi other = 0) := by
  have hneNat : other.toNat ≠ sensor.toNat := fun heq => hne (UInt8.toNat_inj.mp heq)
  have hbefore : (config.elim [] dpiValues)[other.toNat]? = none := List.getElem?_eq_none hunset
  have hafter : (dpiValues (DPI.editConfig config dpi sensor))[other.toNat]? =
      if other.toNat < sensor.toNat then some 0 else none := by
    rw [DPI.dpiValues_editConfig, getElem?_setPadded, if_neg hneNat,
      if_neg (by rw [DPI.length_baseValues]; omega)]
  have hprogrammed : DPI.programmed (some (DPI.editConfig config dpi sensor)) c' other =
      DPI.programmed config c other := by
    refine Option.ext fun closest => ?_
    rw [DPI.programmed_eq_some_iff _ _ hlist, DPI.programmed_eq_some_iff _ _ hlist,
      Option.elim_some, hafter, hbefore]
    split <;> simp
  rw [Kept, and_iff_left hprogrammed, DPI.getDPI_eq, DPI.getDPI_eq, Option.elim_some, hafter, hbefore,
    UInt8.lt_iff_toNat_lt]
  split
  next hlow =>
    rw [forall_prop_of_true hlow]
    exact eq_comm
  next hhigh =>
    rw [forall_prop_of_false hhigh, iff_true]
    exact hhw

/-- The single value becomes the one of the edited sensor. -/
theorem kept_single_iff {old : Int32} (hdpi : dpi ≠ 0) (hne : sensor ≠ 0)
    (hsensor : sensor.toNat < info.sensorLists.length)
    (hlist : info.sensorLists[0]? = some list) :
    Kept (some (.inl old)) c c' dpi sensor 0 ↔ toUInt16 old = dpi := by
  have hneNat : (0 : Nat) ≠ sensor.toNat := fun heq => hne (UInt8.toNat_inj.mp heq.symm)
  have hafter : (dpiValues (DPI.editConfig (some (.inl old)) dpi sensor))[0]? =
      some (DPI.toInt32 dpi) := by
    rw [DPI.dpiValues_editConfig, getElem?_setPadded, if_neg hneNat]
    rfl
  have hget : DPI.getDPI (some (DPI.editConfig (some (.inl old)) dpi sensor)) c'.hardware 0 = dpi := by
    rw [DPI.getDPI_eq, Option.elim_some, UInt8.toNat_zero, hafter]
    exact toUInt16_toInt32 dpi
  have hold : DPI.getDPI (some (.inl old)) c.hardware 0 = toUInt16 old := rfl
  rw [Kept, hget, hold]
  constructor
  · rintro ⟨heq, -⟩
    exact heq.symm
  · intro heq
    refine ⟨heq.symm, Option.ext fun closest => ?_⟩
    have hold : old ≠ 0 := by
      rintro rfl
      exact hdpi heq.symm
    have hone : ∀ value : Int32, CanFill info [value] := by
      intro value
      right
      simp only [needed, List.length_singleton]
      omega
    have hcan : CanFill info (dpiValues (.inl old)) := hone old
    have hcan' : CanFill info (dpiValues (DPI.editConfig (some (.inl old)) dpi sensor)) := by
      rw [DPI.dpiValues_editConfig, canFill_setPadded_iff _ hsensor]
      exact hone (DPI.toInt32 dpi)
    have hneeded : ∀ dpis : List Int32, 0 < needed dpis := fun dpis => Nat.succ_pos _
    rw [DPI.programmed_eq_some_iff _ _ (by exact hlist),
      DPI.programmed_eq_some_iff _ _ (by exact hlist), Option.elim_some, Option.elim_some,
      UInt8.toNat_zero, hafter]
    have hbefore : (dpiValues (.inl old))[0]? = some old := rfl
    simp [hbefore, hcan, hcan', hold, heq, toUInt16_toInt32, toInt32_ne_zero hdpi,
      lt_max_of_lt_right (hneeded _)]

/-- Any other value stays, and is programmed as before where it has had a list. -/
theorem kept_value_iff {value : Int32} (hne : other ≠ sensor)
    (hsensor : sensor.toNat < info.sensorLists.length)
    (hlist : info.sensorLists[other.toNat]? = some list)
    (hvalue : (config.elim [] dpiValues)[other.toNat]? = some value)
    (hbase : DPI.baseValues config dpi = config.elim [] dpiValues)
    (hknown : c'.dpiLists.1.length = max c.dpiLists.1.length (sensor.toNat + 1)) :
    Kept config c c' dpi sensor other ↔
      (other < sensor →
        max c.dpiLists.1.length (needed (config.elim [] dpiValues)) ≤ other.toNat →
        value ≠ 0 → ¬ChoosesValue list) := by
  have hneNat : other.toNat ≠ sensor.toNat := fun heq => hne (UInt8.toNat_inj.mp heq)
  have hconfig : (some (DPI.editConfig config dpi sensor)).elim [] dpiValues =
      DPI.setPadded (config.elim [] dpiValues) (DPI.toInt32 dpi) sensor.toNat := by
    rw [Option.elim_some, DPI.dpiValues_editConfig, hbase]
  rw [← programmed_edit_iff hsensor hlist hneNat hvalue hconfig hknown, Kept, and_iff_right]
  rw [DPI.getDPI_eq, DPI.getDPI_eq, hconfig, getElem?_setPadded, if_neg hneNat,
    if_pos (List.getElem?_eq_some_iff.mp hvalue).1, hvalue]
  rfl

end Kept

/-! ## All other sensors -/

theorem baseValues_eq {config : Option Config.DPI} {dpi : UInt16}
    (hsingle : ∀ old, config ≠ some (.inl old)) :
    DPI.baseValues config dpi = config.elim [] dpiValues := by
  rcases config with _ | old | list
  · rfl
  · exact absurd rfl (hsingle old)
  · rfl

/-- `SetDPI` of a sensor that the device has returns where the chooser is defined. -/
theorem editDPI_eq {info : Info} (config : Option Config.DPI) (c : Control info) {dpi : UInt16}
    (hdpi : dpi ≠ 0) {sensor : UInt8} {list : SensorDPIList}
    (hlist : info.sensorLists[sensor.toNat]? = some list) (hchooses : ChoosesValue list) :
    ∃ c' : Control info,
      DPI.editDPI config c dpi sensor = some (DPI.editConfig config dpi sensor, c', true) ∧
        (∀ other, other ≠ sensor → c'.hardware.dpi other = c.hardware.dpi other) ∧
        c'.dpiLists.1.length = max c.dpiLists.1.length (sensor.toNat + 1) := by
  obtain ⟨lists, hknown, hset⟩ := DPI.setDPI_eq c hdpi hlist
  obtain ⟨closest, hclosest⟩ :=
    Option.isSome_iff_exists.mp ((getClosestDPI_isSome_iff list dpi).mpr hchooses)
  rw [hclosest] at hset
  refine ⟨_, by rw [DPI.editDPI, hset]; rfl, ?_, hknown⟩
  intro other hne
  exact Function.update_of_ne hne closest c.hardware.dpi

/-- Where `SetDPI` returns the chooser is defined. -/
theorem choosesValue_of_editDPI {info : Info} {config : Option Config.DPI} {c : Control info}
    {dpi : UInt16} (hdpi : dpi ≠ 0) {sensor : UInt8} {list : SensorDPIList}
    (hlist : info.sensorLists[sensor.toNat]? = some list) {result : Config.DPI × Control info × Bool}
    (h : DPI.editDPI config c dpi sensor = some result) : ChoosesValue list := by
  obtain ⟨lists, -, hset⟩ := DPI.setDPI_eq c hdpi hlist
  obtain ⟨_, hset', -⟩ := Option.bind_eq_some_iff.mp h
  obtain ⟨closest, hclosest, -⟩ := Option.map_eq_some_iff.mp (hset.symm.trans hset')
  rw [← getClosestDPI_isSome_iff list dpi, hclosest]
  rfl

section All

variable {info : Info} {config : Option Config.DPI} {c c' : Control info} {dpi : UInt16}
  {sensor : UInt8}

theorem keepsOthers_of_kept (hdpi : dpi ≠ 0) (hsensor : sensor.toNat < info.sensorLists.length)
    (hchooses : ∀ list, info.sensorLists[sensor.toNat]? = some list → ChoosesValue list)
    (hhw : ∀ other, other ≠ sensor → c'.hardware.dpi other = c.hardware.dpi other)
    (hknown : c'.dpiLists.1.length = max c.dpiLists.1.length (sensor.toNat + 1))
    (hkept : ∀ other : UInt8, other.toNat < info.sensorLists.length → other ≠ sensor →
      Kept config c c' dpi sensor other) : KeepsOthers config c dpi sensor := by
  refine ⟨hchooses, ?_, ?_, ?_⟩
  · rintro old rfl hne
    have hzero : (0 : Nat) < info.sensorLists.length := by omega
    exact (kept_single_iff hdpi hne hsensor (List.getElem?_eq_getElem hzero)).mp
      (hkept 0 hzero hne.symm)
  · intro other hunset hlow
    have hne : other ≠ sensor := UInt8.ne_of_lt hlow
    have hthere : other.toNat < info.sensorLists.length :=
      Nat.lt_trans (UInt8.lt_iff_toNat_lt.mp hlow) hsensor
    exact (kept_unset_iff hne (hhw other hne) (List.getElem?_eq_getElem hthere) hunset).mp
      (hkept other hthere hne) hlow
  · intro other value list hlow hgate hvalue hnonzero hlist
    have hne : other ≠ sensor := UInt8.ne_of_lt hlow
    have hthere := (List.getElem?_eq_some_iff.mp hlist).1
    have hsingle : ∀ old, config ≠ some (.inl old) := by
      rintro old rfl
      have hlt := (List.getElem?_eq_some_iff.mp hvalue).1
      simp only [Option.elim_some, dpiValues, List.length_singleton, needed] at hlt hgate
      omega
    exact (kept_value_iff hne hsensor hlist hvalue (baseValues_eq hsingle) hknown).mp
      (hkept other hthere hne) hlow hgate hnonzero

theorem KeepsOthers.kept (hkeeps : KeepsOthers config c dpi sensor) (hdpi : dpi ≠ 0)
    (hsensor : sensor.toNat < info.sensorLists.length)
    (hhw : ∀ other, other ≠ sensor → c'.hardware.dpi other = c.hardware.dpi other)
    (hknown : c'.dpiLists.1.length = max c.dpiLists.1.length (sensor.toNat + 1)) {other : UInt8}
    (hthere : other.toNat < info.sensorLists.length) (hne : other ≠ sensor) :
    Kept config c c' dpi sensor other := by
  have hother := List.getElem?_eq_getElem hthere
  cases hvalue : (config.elim [] dpiValues)[other.toNat]? with
  | none =>
    have hunset := List.getElem?_eq_none_iff.mp hvalue
    exact (kept_unset_iff hne (hhw other hne) hother hunset).mpr (hkeeps.padding other hunset)
  | some value =>
    by_cases hsingle : ∃ old, config = some (.inl old)
    · obtain ⟨old, rfl⟩ := hsingle
      have hlt := (List.getElem?_eq_some_iff.mp hvalue).1
      simp only [Option.elim_some, dpiValues, List.length_singleton, Nat.lt_one_iff] at hlt
      obtain rfl : other = 0 := UInt8.toNat_inj.mp hlt
      exact (kept_single_iff hdpi hne.symm hsensor hother).mpr (hkeeps.single old rfl hne.symm)
    · have hbase := @baseValues_eq config dpi fun old heq => hsingle ⟨old, heq⟩
      refine (kept_value_iff hne hsensor hother hvalue hbase hknown).mpr ?_
      intro hlow hgate hnonzero
      exact hkeeps.unlisted other value _ hlow hgate hvalue hnonzero hother

end All

/-- `SetDPI` of a sensor changes no other one exactly if the single value, the zeros and the lists that
it brings are what the other sensors have. -/
theorem touchesOne_iff {info : Info} (config : Option Config.DPI) (c : Control info) {dpi : UInt16}
    (hdpi : dpi ≠ 0) {sensor : UInt8} (hsensor : sensor.toNat < info.sensorLists.length) :
    TouchesOne config c dpi sensor ↔ KeepsOthers config c dpi sensor := by
  have hlist := List.getElem?_eq_getElem hsensor
  constructor
  · rintro ⟨config', c', hedit, -, hothers⟩
    have hchooses := choosesValue_of_editDPI hdpi hlist hedit
    obtain ⟨c'', hedit', hhw, hknown⟩ := editDPI_eq config c hdpi hlist hchooses
    obtain ⟨rfl, rfl⟩ : config' = DPI.editConfig config dpi sensor ∧ c' = c'' := by
      simpa using hedit.symm.trans hedit'
    refine keepsOthers_of_kept hdpi hsensor ?_ hhw hknown hothers
    intro list hlist'
    rwa [← Option.some_inj.mp (hlist.symm.trans hlist')]
  · intro hkeeps
    obtain ⟨c', hedit, hhw, hknown⟩ := editDPI_eq config c hdpi hlist (hkeeps.chooses _ hlist)
    refine ⟨_, c', hedit, ?_, fun other => hkeeps.kept hdpi hsensor hhw hknown⟩
    rw [DPI.getDPI_eq, Option.elim_some, DPI.dpiValues_editConfig, getElem?_setPadded, if_pos rfl]
    exact toUInt16_toInt32 dpi

/-- A list with a value for both sensors. -/
theorem touchesOne_list : TouchesOne (some (.inr [800, 800])) twoSensorsControl 1600 1 := by
  apply (touchesOne_iff (some (.inr [800, 800])) twoSensorsControl (by decide) (by decide)).mpr
  constructor
  · intro list hlist hrange
    obtain rfl : list = threeValues := (Option.some_inj.mp hlist).symm
    cases hrange
  · intro old heq
    cases heq
  · intro other hunset hlow
    exact absurd (UInt8.lt_iff_toNat_lt.mp hlow) (Nat.not_lt.mpr (Nat.le_of_succ_le hunset))
  · intro other value list hlow hgate
    have hgate : max 0 2 ≤ other.toNat := hgate
    have hlow : other.toNat < 1 := hlow
    omega

/-- The single value 800 becomes 1600 with that of the second sensor. -/
theorem editDPI_changes_single :
    ¬∀ (info : Info) (config : Option Config.DPI) (c : Control info) (dpi : UInt16) (sensor : UInt8),
      dpi ≠ 0 → sensor.toNat < info.sensorLists.length → TouchesOne config c dpi sensor := by
  intro h
  obtain ⟨config', c', hedit, -, hothers⟩ :=
    h twoSensors (some (.inl 800)) twoSensorsControl 1600 1 (by decide) (by decide)
  obtain rfl : DPI.editConfig (some (.inl 800)) 1600 1 = config' :=
    congrArg Prod.fst (Option.some_inj.mp hedit)
  have hzero : (0 : Nat) < twoSensors.sensorLists.length := by decide
  have hsame := (kept_single_iff (by decide) (by decide) (by decide)
    (List.getElem?_eq_getElem hzero)).mp (hothers 0 hzero (by decide))
  exact absurd hsame (by decide)

end Logid.Features
