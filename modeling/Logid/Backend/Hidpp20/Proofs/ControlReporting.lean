import Logid.Backend.Hidpp20.ControlReporting

/-!
# The table of the controls

The loop that fills the table inserts nothing twice, so attempts that are cut off by a request that fails
leave what a longer attempt finds anyway: the first control of each id.
-/

namespace Logid.Backend.Hidpp20.ReprogControls

/-- The first control with an id. -/
def firstControl (controls : List ControlInfo) (cid : UInt16) : Option ControlInfo :=
  controls.find? fun control => control.controlID = cid

/-- The table says of each id what the first of the controls says. -/
def Lists (cids : CidMap) (controls : List ControlInfo) : Prop :=
  ∀ cid, cids.find? cid = firstControl controls cid

theorem lists_empty : Lists .empty [] := fun _ => rfl

theorem Lists.emplace {cids : CidMap} {controls : List ControlInfo} (h : Lists cids controls)
    (control : ControlInfo) :
    Lists (cids.emplace control.controlID control) (controls ++ [control]) := by
  intro cid
  rw [SortedMap.find?_emplace cidLess_linear.weak, h cid, firstControl, firstControl,
    List.find?_append]
  cases hfirst : controls.find? fun control => control.controlID = cid with
  | some first => simp
  | none =>
    by_cases hcid : control.controlID = cid
    · rw [if_pos ⟨(SortedMap.equiv_iff cidLess_linear).mpr hcid, rfl⟩]
      simp [hcid]
    · rw [if_neg fun hboth => hcid ((SortedMap.equiv_iff cidLess_linear).mp hboth.1)]
      simp [hcid]

/-- Controls that are in the table already leave it as it is. -/
theorem firstControl_prefix {controls : List ControlInfo} {m m' : Nat} (cid : UInt16) :
    firstControl (controls.take m ++ controls.take m') cid =
      firstControl (controls.take (max m m')) cid := by
  rw [firstControl, List.find?_append]
  obtain hle | hle := Nat.le_total m m'
  · rw [Nat.max_eq_right hle]
    have htake : controls.take m <+: controls.take m' := List.take_prefix_take_left hle
    cases hfirst : (controls.take m).find? fun control => control.controlID = cid with
    | none => rfl
    | some first => exact (htake.find?_eq_some hfirst).symm
  · rw [Nat.max_eq_left hle]
    have htake : controls.take m' <+: controls.take m := List.take_prefix_take_left hle
    cases hfirst : (controls.take m').find? fun control => control.controlID = cid with
    | none => rw [Option.or_none, firstControl]
    | some first => rw [firstControl, htake.find?_eq_some hfirst, Option.or_self]

/-- What the requests of an attempt can give on a device with these controls. -/
structure Honest (controls : List ControlInfo) (count : Option UInt8)
    (info : Nat → Option ControlInfo) : Prop where
  count : ∀ n, count = some n → n.toNat = controls.length
  info : ∀ i control, info i = some control → controls[i]? = some control

theorem populate_spec (before : List ControlInfo) {controls : List ControlInfo}
    {info : Nat → Option ControlInfo}
    (hinfo : ∀ i control, info i = some control → controls[i]? = some control) :
    ∀ (left i : Nat) (cids : CidMap), i + left = controls.length →
      Lists cids (before ++ controls.take i) →
      ∃ m ≤ controls.length, Lists (populate info left i cids).1 (before ++ controls.take m) ∧
        ((populate info left i cids).2 = true → m = controls.length) := by
  intro left
  induction left with
  | zero => exact fun i cids hi h => ⟨i, by omega, h, fun _ => by omega⟩
  | succ left ih =>
    intro i cids hi h
    rw [populate]
    cases hcontrol : info i with
    | none => exact ⟨i, by omega, h, fun hfalse => by cases hfalse⟩
    | some control =>
      apply ih (i + 1) _ (by omega)
      rw [List.take_add_one, hinfo i control hcontrol, Option.toList_some, ← List.append_assoc]
      exact h.emplace control

/-- The table lists the controls up to some, and all of them once an attempt came to its end. -/
def Progressed (controls : List ControlInfo) (c : Cids) : Prop :=
  ∃ m ≤ controls.length, Lists c.cids (controls.take m) ∧
    (c.cidsInitialized = true → m = controls.length)

theorem progressed_initCidMap {controls : List ControlInfo} {c : Cids} (h : Progressed controls c)
    {count : Option UInt8} {info : Nat → Option ControlInfo} (honest : Honest controls count info) :
    Progressed controls (initCidMap count info c) := by
  unfold initCidMap
  split
  next => exact h
  next hnot =>
    obtain ⟨m, hm, hlists, -⟩ := h
    cases count with
    | none => exact ⟨m, hm, hlists, fun h => absurd h hnot⟩
    | some n =>
      obtain ⟨m', hm', hlists', hend⟩ := populate_spec (controls.take m) honest.info n.toNat 0 c.cids
        (by rw [honest.count n rfl, Nat.zero_add]) (by simpa using hlists)
      refine ⟨max m m', by omega, ?_, ?_⟩
      · intro cid
        rw [← firstControl_prefix]
        exact hlists' cid
      · intro hfinished
        have := hend hfinished
        omega

/-- Whatever attempts are cut off by requests that fail, and wherever, what `getControlIdInfo` says of a
control is what the first control of the device with that id says, and it says so of each control once
an attempt has come to its end. -/
theorem getControlIdInfo_of_attempts {controls : List ControlInfo}
    (attempts : List (Option UInt8 × (Nat → Option ControlInfo)))
    (honest : ∀ a ∈ attempts, Honest controls a.1 a.2) (cid : UInt16) :
    let c := attempts.foldl (fun c a => initCidMap a.1 a.2 c) {}
    (∀ control, c.cids.find? cid = some control → firstControl controls cid = some control) ∧
      (c.cidsInitialized = true → ∀ count info,
        getControlIdInfo count info cid c = (c, firstControl controls cid)) := by
  have hprogressed : ∀ c, Progressed controls c →
      Progressed controls (attempts.foldl (fun c a => initCidMap a.1 a.2 c) c) := by
    induction attempts with
    | nil => exact fun c hc => hc
    | cons a attempts ih =>
      intro c hc
      rw [List.forall_mem_cons] at honest
      exact ih honest.2 _ (progressed_initCidMap hc honest.1)
  obtain ⟨m, hm, hlists, hend⟩ := hprogressed {} ⟨0, Nat.zero_le _, lists_empty, fun h => by cases h⟩
  intro c
  refine ⟨?_, ?_⟩
  · intro control hcontrol
    rw [hlists cid] at hcontrol
    exact (List.take_prefix m controls).find?_eq_some hcontrol
  · intro hfinished count info
    have hinit : initCidMap count info c = c := if_pos hfinished
    obtain rfl := hend hfinished
    rw [getControlIdInfo, hinit, if_pos hfinished, hlists cid, List.take_length]

/-- The first attempt ends at the request for the second control, and the next one lists both. -/
theorem getControlIdInfo_of_attempts_cutOff :
    let controls : List ControlInfo := [{ controlID := 0x52 }, { controlID := 0x53 }]
    let c := [(some 2, fun i => if i = 0 then controls[0]? else none), (some 2, (controls[·]?))].foldl
      (fun c a => initCidMap a.1 a.2 c) {}
    getControlIdInfo none (fun _ => none) 0x53 c = (c, some { controlID := 0x53 }) := by
  intro controls
  have honest : ∀ a ∈ [(some (2 : UInt8), fun i => if i = 0 then controls[0]? else none),
      (some 2, (controls[·]?))], Honest controls a.1 a.2 := by
    rw [List.forall_mem_cons, List.forall_mem_singleton]
    refine ⟨⟨fun n h => by cases h; rfl, ?_⟩, fun n h => by cases h; rfl, fun i control h => h⟩
    intro i control h
    obtain ⟨rfl, h⟩ := Option.ite_none_right_eq_some.mp h
    exact h
  exact (getControlIdInfo_of_attempts _ honest 0x53).2 rfl none fun _ => none

end Logid.Backend.Hidpp20.ReprogControls
