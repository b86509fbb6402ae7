import Logid.Backend.Hidpp20.Device
import Logid.Backend.Hidpp.Proofs.SlotLifecycle

/-!
# Error reports of HID++ 2.0 devices

`Device::responseReport` takes the slot from the feature byte of the report, which in an error
report is the marker `0xff`, and only then decodes the feature that the error is about. An error
therefore reaches the request it is about exactly when the two share a slot.
-/

namespace Logid.Backend.Hidpp20.Device

open Logid.Backend.Hidpp ResponseMux

variable {ι : Type}

/-- The feature that a report answers to. -/
def namedFeature (report : Report) : UInt8 :=
  match report.isError20 with
  | some err => err.featureIndex
  | none => report.feature

/-- A step that is neither a new call of thread `c` nor a report about feature `f`. -/
def Foreign (c : ι) (f : UInt8) (a : ResponseMux.Label ι) : Prop :=
  (∀ request env, a ≠ .call c request env) ∧ ∀ report, a = .report report → namedFeature report ≠ f

theorem feature_of_isError20 {report : Report} {err : Hidpp20Error}
    (h : report.isError20 = some err) : report.feature = hidpp20ErrorID := by
  unfold Report.isError20 at h
  split at h
  next => cases h
  next =>
    split at h
    next => cases h
    next hne =>
      rw [not_or, not_not, not_not] at hne
      exact hne.2

theorem responseReport_key {slots slots' : Slots} {report : Report}
    (h : responseReport slots report = some slots') :
    (slots (slotIndex report.feature)).key = some (namedFeature report) ∧
      ∃ response, slots' = Function.update slots (slotIndex report.feature)
        { slots (slotIndex report.feature) with response := some response } := by
  unfold responseReport at h
  unfold namedFeature
  split at h
  next err herr =>
    obtain ⟨-, hkey, rfl⟩ := fileResponse_eq_some h
    exact ⟨by simpa [herr] using hkey, _, rfl⟩
  next herr =>
    obtain ⟨-, hkey, rfl⟩ := fileResponse_eq_some h
    exact ⟨by simpa [herr] using hkey, _, rfl⟩

/-- The slots of features with another low nibble than `0xff` never hold an error. -/
def ErrorFree (s : State Hidpp20Error responseCount ι) : Prop :=
  ∀ i, i ≠ slotIndex hidpp20ErrorID → ∀ err, (s.slots i).response ≠ some (.inr err)

theorem errorFree_of_update {slots : Slots} {i : Fin responseCount}
    (h : ∀ j, j ≠ slotIndex hidpp20ErrorID → ∀ err, (slots j).response ≠ some (.inr err))
    {slot : ResponseSlot Hidpp20Error}
    (hslot : i ≠ slotIndex hidpp20ErrorID → ∀ err, slot.response ≠ some (.inr err)) :
    ∀ j, j ≠ slotIndex hidpp20ErrorID → ∀ err,
      (Function.update slots i slot j).response ≠ some (.inr err) := by
  intro j hj
  by_cases hij : j = i
  · subst hij
    simpa using hslot hj
  · simpa [Function.update_of_ne hij] using h j hj

theorem errorFree_responseReport {slots slots' : Slots} {report : Report}
    (h : ∀ j, j ≠ slotIndex hidpp20ErrorID → ∀ err, (slots j).response ≠ some (.inr err))
    (hstep : responseReport slots report = some slots') :
    ∀ j, j ≠ slotIndex hidpp20ErrorID → ∀ err, (slots' j).response ≠ some (.inr err) := by
  unfold responseReport at hstep
  split at hstep
  next err herr =>
    obtain ⟨-, -, rfl⟩ := fileResponse_eq_some hstep
    refine errorFree_of_update h fun hne => ?_
    rw [feature_of_isError20 herr] at hne
    exact absurd rfl hne
  next herr =>
    obtain ⟨-, -, rfl⟩ := fileResponse_eq_some hstep
    exact errorFree_of_update h fun _ err => by simp

variable [DecidableEq ι]

theorem errorFree_step {s t : State Hidpp20Error responseCount ι} {a : ResponseMux.Label ι}
    (hs : ErrorFree s) (h : mux.step s a = some t) : ErrorFree t := by
  cases mux.step_transition h with
  | queue _ _ => exact hs
  | acquire _ _ => exact errorFree_of_update hs fun hne => hs _ hne
  | answered _ _ _ => exact errorFree_of_update hs fun _ err => by simp [ResponseSlot.reset]
  | timedOut _ _ => exact errorFree_of_update hs fun _ err => by simp [ResponseSlot.reset]
  | wait _ _ => exact hs
  | ignored _ => exact hs
  | stored hresp => exact errorFree_responseReport hs hresp

theorem errorFree_reachable {s : State Hidpp20Error responseCount ι}
    (hs : (machine mux).Reachable s) : ErrorFree s :=
  Machine.invariant (I := ErrorFree) (fun i _ err h => by cases h)
    (fun _ _ _ hs h => errorFree_step hs h) hs

/-- Thread `c` waits for `request` and its slot holds the error. -/
structure Holds (s : State Hidpp20Error responseCount ι) (c : ι) (request : Report)
    (err : Hidpp20Error) : Prop where
  inv : mux.Inv s
  wait : s.callers c = .waiting request
  stored : (s.slots (mux.slotOf request)).response = some (.inr err)

/-- What the error does to the call of `c`: however the run goes on, the call is pending until
the next step of `c`, and that step throws the error. -/
def EndsWithError (s : State Hidpp20Error responseCount ι) (c : ι) (request : Report)
    (err : Hidpp20Error) : Prop :=
  ∀ as t, (∀ a ∈ as, Foreign c request.feature a) → (machine mux).run s as = some t →
    (t.callers c = .waiting request ∧
      ∀ a u, a.thread = some c → mux.step t a = some u →
        u.callers c = .done request (.error err)) ∨
    t.callers c = .done request (.error err)

theorem Holds.thread_step {s t : State Hidpp20Error responseCount ι} {c : ι} {request : Report}
    {err : Hidpp20Error} (hs : Holds s c request err) {a : ResponseMux.Label ι}
    (ha : a.thread = some c) (h : mux.step s a = some t) :
    t.callers c = .done request (.error err) := by
  cases a with
  | call d r env =>
    simp only [Label.thread, Option.some.injEq] at ha
    subst ha
    simp [step, hs.wait] at h
  | wake d env =>
    simp only [Label.thread, Option.some.injEq] at ha
    subst ha
    simp only [step, hs.wait, hs.stored, Option.some.injEq] at h
    subst h
    simp [leave, Exit.ofResponse]
  | timeout d =>
    simp only [Label.thread, Option.some.injEq] at ha
    subst ha
    simp only [step, hs.wait, hs.stored, Option.some.injEq] at h
    subst h
    simp [leave, Exit.ofResponse]
  | report r => cases ha

/-- The steps of the other threads and the reports about other features leave the error where it
is. -/
theorem Holds.foreign_step {s t : State Hidpp20Error responseCount ι} {c : ι} {request : Report}
    {err : Hidpp20Error} (hs : Holds s c request err) {a : ResponseMux.Label ι}
    (ha : a.thread ≠ some c) (hf : Foreign c request.feature a) (h : mux.step s a = some t) :
    Holds t c request err := by
  have hinv := inv_step hs.inv h
  have hkey := hs.inv.pending hs.wait
  cases mux.step_transition h with
  | @queue _ d r env k try_ busy =>
    have hd : c ≠ d := fun e => ha (by rw [thread_of_tries try_, e])
    exact ⟨hinv, by simpa [Function.update_of_ne hd] using hs.wait, hs.stored⟩
  | @acquire _ d r env try_ free =>
    have hd : c ≠ d := fun e => ha (by rw [thread_of_tries try_, e])
    have hne : mux.slotOf request ≠ mux.slotOf r := fun e => by simp [e, free] at hkey
    refine ⟨hinv, ?_, ?_⟩
    · simpa [acquire, Function.update_of_ne hd] using hs.wait
    · simpa [acquire, Function.update_of_ne hne] using hs.stored
  | @answered _ d r response wait stored label =>
    have hd : c ≠ d := by
      intro heq
      subst heq
      rcases label with rfl | ⟨env, rfl⟩ <;> exact ha rfl
    have hne : mux.slotOf request ≠ mux.slotOf r := fun e => hd (hs.inv.owner hs.wait wait e)
    refine ⟨hinv, ?_, ?_⟩
    · simpa [leave, Function.update_of_ne hd] using hs.wait
    · simpa [leave, Function.update_of_ne hne] using hs.stored
  | @timedOut d r wait empty =>
    have hd : c ≠ d := fun e => ha (by rw [e]; rfl)
    have hne : mux.slotOf request ≠ mux.slotOf r := fun e => hd (hs.inv.owner hs.wait wait e)
    refine ⟨hinv, ?_, ?_⟩
    · simpa [leave, Function.update_of_ne hd] using hs.wait
    · simpa [leave, Function.update_of_ne hne] using hs.stored
  | wait _ _ => exact hs
  | ignored _ => exact hs
  | @stored report slots hresp =>
    refine ⟨hinv, by simpa using hs.wait, ?_⟩
    obtain ⟨hslot, response, rfl⟩ := responseReport_key hresp
    have hne : mux.slotOf request ≠ slotIndex report.feature := by
      intro e
      rw [← e, hkey, Option.some.injEq] at hslot
      exact hf.2 report rfl hslot.symm
    simpa [Function.update_of_ne hne] using hs.stored

theorem Holds.endsWithError {s : State Hidpp20Error responseCount ι} {c : ι} {request : Report}
    {err : Hidpp20Error} (hs : Holds s c request err) : EndsWithError s c request err := by
  intro as t hf hrun
  have hkept : Holds t c request err ∨ t.callers c = .done request (.error err) := by
    refine Machine.run_invariant_of (M := machine mux) (F := Foreign c request.feature)
      (I := fun s => Holds s c request err ∨ s.callers c = .done request (.error err))
      ?_ hf (.inl hs) hrun
    intro s a t hfa hs h
    rcases hs with hs | hdone
    · by_cases ha : a.thread = some c
      · exact .inr (hs.thread_step ha h)
      · exact .inl (hs.foreign_step ha hfa h)
    · exact .inr (done_step hfa.1 hdone h)
  rcases hkept with ht | ht
  · exact .inl ⟨ht.wait, fun a u ha hu => ht.thread_step ha hu⟩
  · exact .inr ht

/-- For a pending request on a feature and an error report about it: the error is stored in the
slot of the feature and ends the call exactly if the feature has the slot of the marker `0xff`. -/
theorem error_ends_call_iff {s t : State Hidpp20Error responseCount ι}
    (hs : (machine mux).Reachable s) {c : ι} {request report : Report} {err : Hidpp20Error}
    (hc : s.callers c = .waiting request) (herr : report.isError20 = some err)
    (hfeature : err.featureIndex = request.feature) (hsw : err.softwareId = softwareID)
    (h : mux.step s (.report report) = some t) :
    ((t.slots (slotIndex request.feature)).response = some (.inr err) ∧
      EndsWithError t c request err) ↔
    request.feature.toNat % 16 = 15 := by
  have hinv := inv_reachable hs
  constructor
  · intro hex
    obtain ⟨hstored, -⟩ := hex
    by_contra hne
    have hslot : slotIndex request.feature ≠ slotIndex hidpp20ErrorID := fun e =>
      hne (congrArg Fin.val e)
    exact errorFree_step (errorFree_reachable hs) h _ hslot err hstored
  · intro hmod
    have hslot : slotIndex report.feature = slotIndex request.feature := by
      rw [feature_of_isError20 herr]
      exact Fin.ext hmod.symm
    have hresp : mux.responseReport s.slots report =
        some (Function.update s.slots (slotIndex request.feature)
          { s.slots (slotIndex request.feature) with response := some (.inr err) }) := by
      have hkey : (s.slots (slotIndex request.feature)).key = some request.feature :=
        hinv.pending hc
      simp [mux, responseReport, fileResponse, herr, hsw, hslot, hfeature, hkey]
    simp only [step, hresp, Option.some.injEq] at h
    subst h
    refine ⟨by simp, Holds.endsWithError ⟨hinv.stored hresp, by simpa using hc, ?_⟩⟩
    simp [slotOf, mux]

/-- A request of function 0 of feature `f`. -/
def functionZero (f : UInt8) : Report := Report.ofFeature .short wirelessDevice1 f 0 softwareID

/-- The error report of code 6 for it. -/
def functionZeroError (f : UInt8) : Report :=
  (Report.ofSubId .long wirelessDevice1 hidpp20ErrorID f).copyParams [softwareID, 6]

theorem error_ends_call_feature15 :
    ∃ s t, (machine mux (ι := Unit)).Reachable s ∧
      mux.step s (.report (functionZeroError 15)) = some t ∧
      (t.slots (slotIndex 15)).response = some (.inr ⟨1, 15, 0, softwareID, 6⟩) ∧
      EndsWithError t () (functionZero 15) ⟨1, 15, 0, softwareID, 6⟩ := by
  have hs : (machine mux (ι := Unit)).Reachable
      (mux.acquire (machine mux).init () (functionZero 15) {}) :=
    ⟨[.call () (functionZero 15) {}], rfl⟩
  have hc : (mux.acquire (machine mux).init () (functionZero 15) {}).callers () =
      .waiting (functionZero 15) := rfl
  have herr : (functionZeroError 15).isError20 = some ⟨1, 15, 0, softwareID, 6⟩ := rfl
  exact ⟨_, _, hs, rfl, (error_ends_call_iff hs hc herr rfl rfl rfl).mpr rfl⟩

/-- The error for feature 5 is looked for in the slot of `0xff`, and the call times out. -/
theorem error_lost_feature5 :
    ∃ s t u, (machine mux (ι := Unit)).Reachable s ∧
      s.callers () = .waiting (functionZero 5) ∧
      (functionZeroError 5).isError20 = some ⟨1, 5, 0, softwareID, 6⟩ ∧
      mux.step s (.report (functionZeroError 5)) = some t ∧
      (t.slots (slotIndex 5)).response = none ∧
      mux.step t (.timeout ()) = some u ∧ u.callers () = .done (functionZero 5) .timeout :=
  ⟨_, _, _, ⟨[.call () (functionZero 5) {}], rfl⟩, rfl, rfl, rfl, rfl, rfl, rfl⟩

end Logid.Backend.Hidpp20.Device
