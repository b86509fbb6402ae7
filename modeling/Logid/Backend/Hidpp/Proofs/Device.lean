import Logid.Backend.Hidpp.Device

/-!
# What the base class returns for an error report

The three reply shapes of `Device::responseReport`, followed to the exit of the call they answer.
A HID++ 1.0 error ends the call with its exception; a HID++ 2.0 error matches the request but is
stored as a data report, so the call returns the error frame. A response that is stored while no
request is waiting stays for the next one.
-/

namespace Logid.Backend.Hidpp.Device

open Logid.Backend.Raw (Errno WriteEnv)

/-- The exception that the frame asks for. -/
def errorExit (report : Report) : Option Exit :=
  match report.isError10 with
  | some err => some (.hidpp10Error err)
  | none => report.isError20.map .hidpp20Error

/-- The frame is decoded to the sub id and the address of the request. -/
def Answers (report request : Report) : Prop :=
  (decode report).1 = request.subId ∧ (decode report).2.1 = request.address

variable {ι : Type}

/-- A step that is neither a new call of thread `c` nor a frame for the request. -/
def Foreign (c : ι) (request : Report) (a : Label ι) : Prop :=
  (∀ r, a ≠ .lock c r) ∧ ∀ report, a = .report report → ¬ Answers report request

def Outstanding (s : State ι) : Prop := ∃ c request, s.callers c = .inside .waiting request

/-- No response lies around while no request is outstanding. -/
def NoLeftover (s : State ι) : Prop := Outstanding s ∨ s.response = none

/-- A frame that matches the sent ids arrives while a request is outstanding. -/
def Timely (s : State ι) (a : Label ι) : Prop :=
  ∀ report, a = .report report → Accepts s report → Outstanding s

/-- Every report returned answers the request it is returned for. -/
def Matched (s : State ι) : Prop :=
  ∀ c request report, s.callers c = .done request (.returned report) → Answers report request

/-- The ids that a thread has set when it has reached a program point. -/
def IdsSet (s : State ι) (phase : Phase) (request : Report) : Prop :=
  (phase ≠ .locked → s.sentSubId = some request.subId) ∧
    (phase = .addressSet ∨ phase = .waiting → s.sentAddress = some request.address)

/-- The thread inside `sendReport` holds `_send_mutex`, and the sent ids are its own. -/
def Inv (s : State ι) : Prop :=
  ∀ c phase request, s.callers c = .inside phase request →
    s.sendMutex = some c ∧ IdsSet s phase request

theorem Inv.only {s : State ι} (hs : Inv s) {c d : ι} {p q : Phase} {request r : Report}
    (hc : s.callers c = .inside p request) (hd : s.callers d = .inside q r) : d = c := by
  have hmc := (hs c p request hc).1
  have hmd := (hs d q r hd).1
  rw [hmc, Option.some.injEq] at hmd
  exact hmd.symm

/-- While a thread is at another point of `sendReport`, none is waiting. -/
theorem Inv.not_outstanding {s : State ι} (hs : Inv s) {c : ι} {p : Phase} {request : Report}
    (hc : s.callers c = .inside p request) (hp : p ≠ .waiting) : ¬ Outstanding s := by
  intro hex
  obtain ⟨d, r, hd⟩ := hex
  have hdc := hs.only hc hd
  rw [hdc, hc] at hd
  cases hd
  exact hp rfl

/-- Nobody waits while `_send_mutex` is free. -/
theorem Inv.not_outstanding_of_free {s : State ι} (hs : Inv s) (hfree : s.sendMutex = none) :
    ¬ Outstanding s := by
  intro hex
  obtain ⟨c, request, hc⟩ := hex
  have hm := (hs c _ _ hc).1
  rw [hfree] at hm
  cases hm

theorem Inv.accepts_iff {s : State ι} (hs : Inv s) {c : ι} {request : Report}
    (hc : s.callers c = .inside .waiting request) (report : Report) :
    Accepts s report ↔ Answers report request := by
  obtain ⟨-, hsub, haddr⟩ := hs c _ _ hc
  rw [Accepts, hsub (by decide), haddr (.inr rfl), Option.some.injEq, Option.some.injEq]
  rfl

@[simp] theorem responseReport_callers (s : State ι) (report : Report) :
    (responseReport s report).callers = s.callers := by
  unfold responseReport
  split <;> rfl

theorem inv_responseReport {s : State ι} (hs : Inv s) (report : Report) :
    Inv (responseReport s report) := by
  intro c p r hc
  rw [responseReport_callers] at hc
  unfold responseReport
  split
  · exact hs c p r hc
  · exact hs c p r hc

variable [DecidableEq ι]

@[simp] theorem setCaller_self (s : State ι) (c : ι) (caller : Caller) :
    (setCaller s c caller).callers c = caller := by
  simp [setCaller]

theorem setCaller_of_ne (s : State ι) {c d : ι} (caller : Caller) (h : d ≠ c) :
    (setCaller s c caller).callers d = s.callers d := by
  simp [setCaller, Function.update_of_ne h]

theorem inv_init : Inv (machine (ι := ι)).init := by
  intro c p r h
  cases h

/-- A step of the thread inside `sendReport` keeps the invariant if it does for that thread: no
other thread is inside. -/
theorem Inv.of_caller {s t : State ι} (hs : Inv s) {c : ι} {p : Phase} {request : Report}
    (hc : s.callers c = .inside p request) (hother : ∀ d, d ≠ c → t.callers d = s.callers d)
    (hself : ∀ q r, t.callers c = .inside q r → t.sendMutex = some c ∧ IdsSet t q r) : Inv t := by
  intro d q r hd
  by_cases hdc : d = c
  · subst hdc
    exact hself q r hd
  · rw [hother d hdc] at hd
    exact absurd (hs.only hc hd) hdc

theorem inv_step {s t : State ι} {a : Label ι} (hs : Inv s) (h : step s a = some t) : Inv t := by
  cases step_transition h with
  | @lock c request outside free =>
    intro d q r hd
    by_cases hdc : d = c
    · subst hdc
      simp only [setCaller_self, Caller.inside.injEq] at hd
      obtain ⟨rfl, rfl⟩ := hd
      exact ⟨rfl, by simp [IdsSet]⟩
    · rw [show _ = s.callers d from setCaller_of_ne s _ hdc] at hd
      have hm := (hs d q r hd).1
      rw [free] at hm
      cases hm
  | @setSubId c request at_ =>
    obtain ⟨hm, -⟩ := hs _ _ _ at_
    refine hs.of_caller at_ (fun d hd => setCaller_of_ne s _ hd) fun q r hq => ?_
    simp only [setCaller_self, Caller.inside.injEq] at hq
    obtain ⟨rfl, rfl⟩ := hq
    exact ⟨hm, by simp [IdsSet]⟩
  | @setAddress c request at_ =>
    obtain ⟨hm, hsub, -⟩ := hs _ _ _ at_
    refine hs.of_caller at_ (fun d hd => setCaller_of_ne s _ hd) fun q r hq => ?_
    simp only [setCaller_self, Caller.inside.injEq] at hq
    obtain ⟨rfl, rfl⟩ := hq
    exact ⟨hm, fun _ => hsub (by decide), fun _ => rfl⟩
  | @write c request env at_ ok =>
    obtain ⟨hm, hsub, haddr⟩ := hs _ _ _ at_
    refine hs.of_caller at_ (fun d hd => setCaller_of_ne s _ hd) fun q r hq => ?_
    simp only [setCaller_self, Caller.inside.injEq] at hq
    obtain ⟨rfl, rfl⟩ := hq
    exact ⟨hm, fun _ => hsub (by decide), fun _ => haddr (.inl rfl)⟩
  | writeFailed at_ _ =>
    refine hs.of_caller at_ (fun d hd => setCaller_of_ne s _ hd) fun q r hq => ?_
    simp [leave] at hq
  | take at_ _ _ =>
    refine hs.of_caller at_ (fun d hd => setCaller_of_ne s _ hd) fun q r hq => ?_
    simp [Device.take, leave] at hq
  | timeOut at_ _ =>
    refine hs.of_caller at_ (fun d hd => setCaller_of_ne s _ hd) fun q r hq => ?_
    simp [Device.timeOut, leave] at hq
  | wait _ _ => exact hs
  | report => exact inv_responseReport hs _

theorem inv_reachable {s : State ι} (hs : (machine (ι := ι)).Reachable s) : Inv s :=
  Machine.invariant (I := Inv) inv_init (fun _ _ _ hs h => inv_step hs h) hs

/-- Thread `c` waits for `request`, and the response to end its call with is stored. -/
structure Holds (s : State ι) (c : ι) (request : Report) (response : Response) : Prop where
  inv : Inv s
  wait : s.callers c = .inside .waiting request
  stored : s.response = some response

/-- However the run goes on, the call of `c` is pending until the next time `c` wakes, and then it
ends with `exit`. -/
def EndsWith (s : State ι) (c : ι) (request : Report) (exit : Exit) : Prop :=
  ∀ as t, (∀ a ∈ as, Foreign c request a) → machine.run s as = some t →
    (t.callers c = .inside .waiting request ∧
      ∀ a u, a = .wake c ∨ a = .timeout c → step t a = some u →
        u.callers c = .done request exit) ∨
    t.callers c = .done request exit

omit [DecidableEq ι] in
theorem Holds.report {s : State ι} {c : ι} {request report : Report} {response : Response}
    (hs : Holds s c request response) (hr : ¬ Answers report request) :
    Holds (responseReport s report) c request response := by
  have hacc : ¬ Accepts s report := fun h => hr ((hs.inv.accepts_iff hs.wait report).mp h)
  rw [responseReport, if_neg hacc]
  exact hs

theorem Holds.wakes {s t : State ι} {c : ι} {request : Report} {response : Response}
    (hs : Holds s c request response) {a : Label ι} (ha : a = .wake c ∨ a = .timeout c)
    (h : step s a = some t) : t.callers c = .done request (.ofResponse response) := by
  have ht : t = Device.take s c request response := by
    rcases ha with rfl | rfl <;> simpa [step, hs.wait, hs.stored, eq_comm] using h
  rw [ht]
  exact setCaller_self ..

/-- Only the thread inside `sendReport` and the reports for its request touch its response. -/
theorem Holds.step {s t : State ι} {c : ι} {request : Report} {response : Response}
    (hs : Holds s c request response) {a : Label ι} (hf : Foreign c request a)
    (h : Device.step s a = some t) :
    Holds t c request response ∨ t.callers c = .done request (.ofResponse response) := by
  have hwake : ∀ {d p r}, s.callers d = .inside p r → p ≠ .waiting → False := fun hd hp =>
    hs.inv.not_outstanding hd hp ⟨c, request, hs.wait⟩
  cases step_transition h with
  | lock outside free =>
    exact absurd ⟨c, request, hs.wait⟩ (hs.inv.not_outstanding_of_free free)
  | setSubId at_ => exact (hwake at_ (by decide)).elim
  | setAddress at_ => exact (hwake at_ (by decide)).elim
  | write at_ _ => exact (hwake at_ (by decide)).elim
  | writeFailed at_ _ => exact (hwake at_ (by decide)).elim
  | @take _ d r resp at_ stored label =>
    obtain rfl := hs.inv.only hs.wait at_
    exact .inr (hs.wakes label h)
  | timeOut at_ empty =>
    rw [hs.stored] at empty
    cases empty
  | wait _ _ => exact .inl hs
  | report => exact .inl (hs.report (hf.2 _ rfl))

theorem done_step {s t : State ι} {a : Label ι} {c : ι} {request : Report} {exit : Exit}
    (hlock : ∀ r, a ≠ .lock c r) (hc : s.callers c = .done request exit)
    (h : step s a = some t) : t.callers c = .done request exit := by
  have hne : ∀ {d p r}, s.callers d = .inside p r → c ≠ d := by
    intro d p r hd e
    rw [← e, hc] at hd
    cases hd
  cases step_transition h with
  | @lock d r outside free =>
    have hd : c ≠ d := fun e => hlock r (by rw [e])
    exact (setCaller_of_ne s _ hd).trans hc
  | setSubId at_ => exact (setCaller_of_ne s _ (hne at_)).trans hc
  | setAddress at_ => exact (setCaller_of_ne s _ (hne at_)).trans hc
  | write at_ _ => exact (setCaller_of_ne s _ (hne at_)).trans hc
  | writeFailed at_ _ => exact (setCaller_of_ne s _ (hne at_)).trans hc
  | take at_ _ _ => exact (setCaller_of_ne s _ (hne at_)).trans hc
  | timeOut at_ _ => exact (setCaller_of_ne s _ (hne at_)).trans hc
  | wait _ _ => exact hc
  | report => rw [responseReport_callers, hc]

theorem Holds.endsWith {s : State ι} {c : ι} {request : Report} {response : Response}
    (hs : Holds s c request response) : EndsWith s c request (.ofResponse response) := by
  intro as t hf hrun
  have hkept : Holds t c request response ∨
      t.callers c = .done request (.ofResponse response) := by
    refine Machine.run_invariant_of (M := machine) (F := Foreign c request)
      (I := fun s => Holds s c request response ∨
        s.callers c = .done request (.ofResponse response)) ?_ hf (.inl hs) hrun
    intro s a t hfa hs h
    rcases hs with hs | hdone
    · exact hs.step hfa h
    · exact .inr (done_step hfa.1 hdone h)
  rcases hkept with ht | ht
  · exact .inl ⟨ht.wait, fun a u ha hu => ht.wakes ha hu⟩
  · exact .inr ht

/-- The response stored for a frame that answers the outstanding request decides the exit. -/
theorem endsWith_iff {s : State ι} (hs : Inv s) {c : ι} {request report : Report} {exit : Exit}
    (hc : s.callers c = .inside .waiting request) (hans : Answers report request) :
    EndsWith (responseReport s report) c request exit ↔
      exit = .ofResponse (decode report).2.2 := by
  have hholds : Holds (responseReport s report) c request (decode report).2.2 := by
    refine ⟨inv_responseReport hs report, by simpa using hc, ?_⟩
    rw [responseReport, if_pos ((hs.accepts_iff hc report).mpr hans)]
  constructor
  · intro h
    have hf : ∀ a ∈ ([] : List (Label ι)), Foreign c request a := by simp
    rcases h [] _ hf rfl with ⟨-, h⟩ | h
    · have hstep : step (responseReport s report) (.timeout c) =
          some (take (responseReport s report) c request (decode report).2.2) := by
        simp only [step, hholds.wait, hholds.stored]
      have hexit := h _ _ (.inr rfl) hstep
      rw [hholds.wakes (.inr rfl) hstep] at hexit
      cases hexit
      rfl
    · rw [hholds.wait] at h
      cases h
  · intro heq
    subst heq
    exact hholds.endsWith

theorem errorExit_eq_iff {report : Report} {exit : Exit} (h : errorExit report = some exit) :
    exit = .ofResponse (decode report).2.2 ↔ report.isError10.isSome := by
  unfold errorExit at h
  unfold decode
  cases h10 : report.isError10 with
  | some err =>
    simp only [h10, Option.some.injEq] at h
    subst h
    simp [Exit.ofResponse]
  | none =>
    simp only [h10, Option.map_eq_some_iff] at h
    obtain ⟨err, h20, rfl⟩ := h
    simp [h20, Exit.ofResponse]

theorem noLeftover_step {s t : State ι} {a : Label ι} (hs : Inv s) (hno : NoLeftover s)
    (h : step s a = some t) : NoLeftover t ↔ Timely s a := by
  have hempty : ∀ {c p r}, s.callers c = .inside p r → p ≠ .waiting → s.response = none :=
    fun hc hp => hno.resolve_left (hs.not_outstanding hc hp)
  have htimely : (∀ r, a ≠ .report r) → NoLeftover t → (NoLeftover t ↔ Timely s a) :=
    fun ha ht => ⟨fun _ r hr => absurd hr (ha r), fun _ => ht⟩
  cases step_transition h with
  | lock outside free =>
    have hout := hs.not_outstanding_of_free free
    exact htimely (by simp) (.inr (hno.resolve_left hout))
  | setSubId at_ => exact htimely (by simp) (.inr (hempty at_ (by decide)))
  | setAddress at_ => exact htimely (by simp) (.inr (hempty at_ (by decide)))
  | @write c request _ at_ _ => exact htimely (by simp) (.inl ⟨c, request, setCaller_self ..⟩)
  | writeFailed at_ _ => exact htimely (by simp) (.inr (hempty at_ (by decide)))
  | take at_ _ label => exact htimely (by rcases label with rfl | rfl <;> simp) (.inr rfl)
  | timeOut at_ empty => exact htimely (by simp) (.inr empty)
  | wait _ _ => exact htimely (by simp) hno
  | @report r =>
    by_cases hacc : Accepts s r
    · have hresp : (responseReport s r).response = some (decode r).2.2 := by
        rw [responseReport, if_pos hacc]
      constructor
      · rintro (hout | hnone) r' hr' -
        · simpa [Outstanding] using hout
        · rw [hresp] at hnone
          cases hnone
      · intro ht
        have hout := ht r rfl hacc
        exact .inl (by simpa [Outstanding] using hout)
    · have hsame : responseReport s r = s := by rw [responseReport, if_neg hacc]
      rw [hsame]
      refine ⟨fun _ r' hr' hacc' => ?_, fun _ => hno⟩
      cases hr'
      exact absurd hacc' hacc

/-- The invariant behind `Matched`. -/
structure MatchInv (s : State ι) : Prop where
  inv : Inv s
  noLeftover : NoLeftover s
  held : ∀ {c request report}, s.callers c = .inside .waiting request →
    s.response = some (.report report) → Answers report request
  matched : Matched s

omit [DecidableEq ι] in
theorem decode_report {report data : Report} (h : (decode report).2.2 = .report data) :
    data = report := by
  unfold decode at h
  split at h
  next => cases h
  next =>
    split at h <;>
    · cases h
      rfl

theorem Matched.of_not_done {s t : State ι} (hs : Matched s) {c : ι} {caller : Caller}
    (ht : t.callers = (setCaller s c caller).callers)
    (hc : ∀ request report, caller = .done request (.returned report) → Answers report request) :
    Matched t := by
  intro d r report hd
  rw [ht] at hd
  by_cases hdc : d = c
  · subst hdc
    rw [setCaller_self] at hd
    exact hc r report hd
  · rw [setCaller_of_ne s _ hdc] at hd
    exact hs d r report hd

theorem matchInv_step {s t : State ι} {a : Label ι} (hs : MatchInv s) (ha : Timely s a)
    (h : step s a = some t) : MatchInv t := by
  have hinv := inv_step hs.inv h
  have hno := (noLeftover_step hs.inv hs.noLeftover h).mpr ha
  have hempty : ∀ {c p r}, s.callers c = .inside p r → p ≠ .waiting → s.response = none :=
    fun hc hp => hs.noLeftover.resolve_left (hs.inv.not_outstanding hc hp)
  have hheld : t.response = none → ∀ {c request report}, t.callers c = .inside .waiting request →
      t.response = some (.report report) → Answers report request := by
    intro hnone c request report _ hresp
    rw [hnone] at hresp
    cases hresp
  cases step_transition h with
  | @lock c request outside free =>
    have hout := hs.inv.not_outstanding_of_free free
    exact ⟨hinv, hno, hheld (hs.noLeftover.resolve_left hout),
      hs.matched.of_not_done rfl (by simp)⟩
  | setSubId at_ =>
    exact ⟨hinv, hno, hheld (hempty at_ (by decide)), hs.matched.of_not_done rfl (by simp)⟩
  | setAddress at_ =>
    exact ⟨hinv, hno, hheld (hempty at_ (by decide)), hs.matched.of_not_done rfl (by simp)⟩
  | write at_ _ =>
    exact ⟨hinv, hno, hheld (hempty at_ (by decide)), hs.matched.of_not_done rfl (by simp)⟩
  | writeFailed at_ _ =>
    exact ⟨hinv, hno, hheld (hempty at_ (by decide)), hs.matched.of_not_done rfl (by simp)⟩
  | @take _ c request response at_ stored label =>
    refine ⟨hinv, hno, hheld rfl, hs.matched.of_not_done rfl ?_⟩
    intro r report hr
    cases response with
    | report data =>
      cases hr
      exact hs.held at_ stored
    | hidpp10Error err => cases hr
    | hidpp20Error err => cases hr
  | timeOut at_ empty =>
    exact ⟨hinv, hno, hheld empty, hs.matched.of_not_done rfl (by simp)⟩
  | wait _ _ => exact hs
  | @report r =>
    refine ⟨hinv, hno, ?_, ?_⟩
    · intro c request data hc hresp
      rw [responseReport_callers] at hc
      by_cases hacc : Accepts s r
      · rw [responseReport, if_pos hacc, Option.some.injEq] at hresp
        rw [decode_report hresp]
        exact (hs.inv.accepts_iff hc r).mp hacc
      · rw [responseReport, if_neg hacc] at hresp
        exact hs.held hc hresp
    · intro c request data hc
      rw [responseReport_callers] at hc
      exact hs.matched c request data hc

/-- The error frame of an outstanding request ends the call with the matching exception exactly if
it is a HID++ 1.0 error. A response is never left over in a run exactly if each frame that matches
the sent ids arrives while a request is outstanding, and then every report returned answers its
request. -/
theorem error_frame_ends_call_iff :
    (∀ (s : State ι) (c : ι) (request report : Report) (exit : Exit),
      machine.Reachable s → s.callers c = .inside .waiting request →
      errorExit report = some exit → Answers report request →
      (EndsWith (responseReport s report) c request exit ↔ report.isError10.isSome)) ∧
    (∀ as : List (Label ι), machine.Always NoLeftover machine.init as ↔
      machine.Meets Timely machine.init as) ∧
    (∀ as : List (Label ι), machine.Meets Timely machine.init as →
      machine.Always Matched machine.init as) := by
  refine ⟨?_, ?_, ?_⟩
  · intro s c request report exit hs hc hexit hans
    rw [endsWith_iff (inv_reachable hs) hc hans]
    exact errorExit_eq_iff hexit
  · intro as
    exact Machine.always_iff_meets (J := Inv) (fun _ _ _ hs _ h _ => inv_step hs h)
      (fun _ _ _ hs hno h => noLeftover_step hs hno h) inv_init (.inr rfl)
  · intro as h
    refine Machine.always_of_meets (I := MatchInv) (fun _ hs => hs.matched)
      (fun _ _ _ hs ha h => matchInv_step hs ha h) ?_ h
    exact ⟨inv_init, .inr rfl, (fun hc => nomatch hc), (fun _ _ _ hc => nomatch hc)⟩

/-- The version request of initialisation (function 1 of the root feature), written. -/
def versionRequest : Report := Report.ofFeature .short wirelessDevice1 0 1 softwareID

def versionRequested : State Unit where
  sendMutex := some ()
  sentSubId := some versionRequest.subId
  sentAddress := some versionRequest.address
  response := none
  callers := fun _ => .inside .waiting versionRequest

theorem versionRequested_reachable : machine.Reachable versionRequested :=
  ⟨[.lock () versionRequest, .setSubId (), .setAddress (), .write () {}], rfl⟩

/-- The answer of a device that is not there: `UnknownDevice` as a HID++ 1.0 error. -/
theorem unknownDevice_ends_call :
    EndsWith (responseReport versionRequested
        ((Report.ofSubId .short wirelessDevice1 hidpp10ErrorID 0).copyParams [0x12, 8]))
      () versionRequest (.hidpp10Error ⟨1, 0, 0x12, 8⟩) :=
  (error_frame_ends_call_iff.1 _ _ _ _ _ versionRequested_reachable rfl rfl ⟨rfl, rfl⟩).mpr rfl

/-- The same request answered with a HID++ 2.0 error: the call returns the error frame. -/
theorem hidpp20_error_returned :
    ∃ (report : Report) (t u : State Unit), machine.Reachable versionRequested ∧
      report.isError20 = some ⟨1, 0, 1, softwareID, 5⟩ ∧ Answers report versionRequest ∧
      step versionRequested (.report report) = some t ∧ step t (.wake ()) = some u ∧
      u.callers () = .done versionRequest (.returned report) :=
  ⟨(Report.ofSubId .long wirelessDevice1 hidpp20ErrorID 0).copyParams [0x12, 5], _, _,
    versionRequested_reachable, rfl, ⟨rfl, rfl⟩, rfl, rfl, rfl⟩

end Logid.Backend.Hidpp.Device
