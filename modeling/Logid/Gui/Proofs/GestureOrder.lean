import Logid.Gui.Proofs.GestureModes

/-!
# The order in which the calls of the gesture model take effect

A call that waits for its hop may be overtaken by a `SetGesture`, and by nothing else of its direction.
It has no effect after it unless it is for the new mode.
-/

namespace Logid.Gui.GestureModel

open Actions (Direction)

variable {p : Platform} {config : Config.GestureAction} {s t : Session} {d : Direction}

/-! ## Calls of one direction -/

def Call.direction : Call → String
  | .setGesture direction _ => direction
  | .param direction _ _ => direction

theorem act_of_direction_ne {c : Call} (h : c.direction ≠ d.name) (g : Option Config.Gesture) :
    c.act d g = g := by
  cases c with
  | setGesture direction type => exact if_neg h
  | param direction type method => exact if_neg h

theorem foldl_act_of_direction_ne {cs : List Call} (h : ∀ c ∈ cs, c.direction ≠ d.name)
    (g : Option Config.Gesture) : cs.foldl (Call.act d) g = g := by
  induction cs with
  | nil => rfl
  | cons c cs ih =>
    obtain ⟨hc, hcs⟩ := List.forall_mem_cons.mp h
    rw [List.foldl_cons, act_of_direction_ne hc, ih hcs]

/-- A gesture without settings has no action. -/
theorem action_ofType {type : String} {g : Config.Gesture}
    (h : Actions.Gesture.ofType type = some g) : Actions.Gesture.action g = none := by
  unfold Actions.Gesture.ofType at h
  split at h <;> cases h <;> rfl

/-- On a new gesture a call for another interface has no effect. -/
theorem act_of_type_ne {direction type type' : String} {method : Param} {g : Config.Gesture}
    (hg : Actions.Gesture.ofType type = some g) (hname : Actions.Gesture.interfaceName g = type)
    (htype : type' ≠ type) : (Call.param direction type' method).act d (some g) = some g := by
  rw [Call.act]
  split
  next =>
    rw [Option.map_some]
    split
    next => rfl
    next hon =>
      cases method with
      | setKeys keys =>
        have hfails : Param.run g (.setKeys keys) = none := by
          simp only [Param.run, Actions.Gesture.setKeys, action_ofType hg]
        rw [hfails, Option.getD_none]
      | setInterval interval | setThreshold threshold | setMultiplier multiplier | setAction action =>
        exact absurd ⟨rfl, fun heq => htype (heq.symm.trans hname)⟩ hon
  next => rfl

/-- So none of the calls of parameters of the direction has, if they are for other interfaces. -/
theorem foldl_act_of_type_ne {type : String} {g : Config.Gesture}
    (hg : Actions.Gesture.ofType type = some g) (hname : Actions.Gesture.interfaceName g = type)
    {cs : List Call} (hparams : ∀ c ∈ cs, c.IsParam)
    (hcs : ∀ c ∈ cs, ∀ type' method, c = .param d.name type' method → type' ≠ type) :
    cs.foldl (Call.act d) (some g) = some g := by
  induction cs with
  | nil => rfl
  | cons c cs ih =>
    obtain ⟨hparam, hparams⟩ := List.forall_mem_cons.mp hparams
    obtain ⟨htype, hcs⟩ := List.forall_mem_cons.mp hcs
    have hact : c.act d (some g) = some g := by
      cases c with
      | setGesture direction type' => cases hparam
      | param direction type' method =>
        by_cases hd : direction = d.name
        · subst hd
          exact act_of_type_ne hg hname (htype type' method rfl)
        · exact act_of_direction_ne (c := .param direction type' method) hd _
    rw [List.foldl_cons, hact, ih hparams hcs]

/-! ## Watchers -/

/-- A call that is fired by a watcher waits for its reply; those of one direction do it in the order in
which they were made. -/
structure Chained (s : Session) : Prop where
  fresh : ∀ w ∈ s.queue, w.serial < s.made
  pending : ∀ direction serial, s.pending direction = some serial →
    ∃ before w after, s.queue = before ++ w :: after ∧ w.serial = serial ∧
      (∃ type, w.request = .call (.setGesture direction type)) ∧
      (∀ w' ∈ before ++ after, w'.serial ≠ serial) ∧
      ∀ w' ∈ after, ∀ c ∈ w'.fires, c.direction ≠ direction

theorem Chained.send (h : Chained s) {r : Request} {fires : List Call}
    (hfires : ∀ c ∈ fires, s.pending c.direction = none) : Chained (send s r fires) where
  fresh w hw := by
    rw [queue_send, List.mem_append, List.mem_singleton] at hw
    rcases hw with hw | rfl
    · exact Nat.lt_succ_of_lt (h.fresh w hw)
    · exact Nat.lt_succ_self _
  pending direction serial hserial := by
    obtain ⟨before, w, after, hqueue, hw, hrequest, hothers, hafter⟩ :=
      h.pending direction serial hserial
    refine ⟨before, w, after ++ [{ serial := s.made, request := r, fires := fires }], ?_, hw, hrequest,
      ?_, ?_⟩
    · rw [queue_send, hqueue, List.append_assoc, List.cons_append]
    · intro w' hw'
      rw [← List.append_assoc, List.mem_append, List.mem_singleton] at hw'
      rcases hw' with hw' | rfl
      · exact hothers w' hw'
      · have hlt := h.fresh w (by simp [hqueue])
        exact fun heq => absurd (hw.trans heq.symm) (Nat.ne_of_lt hlt)
    · intro w' hw'
      rw [List.mem_append, List.mem_singleton] at hw'
      rcases hw' with hw' | rfl
      · exact hafter w' hw'
      · intro c hc heq
        have hnone := hfires c hc
        have hserial : s.pending direction = some serial := hserial
        rw [heq, hserial] at hnone
        cases hnone

theorem Chained.foldl_fire (h : Chained s) (cs : List Call) :
    Chained (cs.foldl GestureModel.fire s) := by
  induction cs generalizing s with
  | nil => exact h
  | cons c cs ih => exact ih (h.send (List.forall_mem_nil _))

theorem pending_performSetGesture (s : Session) (direction type direction' : String) :
    (performSetGesture s direction type).pending direction' =
      if direction' = direction then some s.made else s.pending direction' :=
  Function.update_apply ..

theorem queue_performSetGesture (s : Session) (direction type : String) :
    (performSetGesture s direction type).queue =
      s.queue ++ [{ serial := s.made, request := .call (.setGesture direction type) }] :=
  queue_send s (.call (.setGesture direction type)) []

theorem Chained.performSetGesture (h : Chained s) (direction type : String) :
    Chained (performSetGesture s direction type) := by
  have hsent : Chained (GestureModel.send s (.call (.setGesture direction type)) []) :=
    h.send (List.forall_mem_nil _)
  refine ⟨hsent.fresh, fun direction' serial hserial => ?_⟩
  rw [pending_performSetGesture] at hserial
  split at hserial
  next hd =>
    cases hserial
    refine ⟨s.queue, _, [], queue_performSetGesture .., rfl, ⟨type, by rw [hd]⟩, ?_,
      List.forall_mem_nil _⟩
    intro w' hw'
    rw [List.append_nil] at hw'
    exact Nat.ne_of_lt (h.fresh w' hw')
  next => exact hsent.pending direction' serial hserial

theorem connect_of_serial_ne {w : Watcher} {serial : Nat} (h : w.serial ≠ serial) (c : Call) :
    w.connect serial c = w :=
  if_neg h

theorem map_connect_of_serial_ne {ws : List Watcher} {serial : Nat}
    (h : ∀ w ∈ ws, w.serial ≠ serial) (c : Call) : ws.map (Watcher.connect serial c) = ws :=
  (List.map_congr_left fun w hw => connect_of_serial_ne (h w hw) c).trans (List.map_id _)

/-- A call that is connected to the pending watcher of its direction is the last to wait there. -/
theorem Chained.queue_connect (h : Chained s) {direction : String} {serial : Nat}
    (hserial : s.pending direction = some serial) (c : Call) :
    ∃ before w after, s.queue = before ++ w :: after ∧
      (connect s serial c).queue = before ++ { w with fires := w.fires ++ [c] } :: after ∧
      (∃ type, w.request = .call (.setGesture direction type)) ∧ w.serial = serial ∧
      (∀ w' ∈ before ++ after, w'.serial ≠ serial) ∧
      ∀ w' ∈ after, ∀ c ∈ w'.fires, c.direction ≠ direction := by
  obtain ⟨before, w, after, hqueue, hw, hrequest, hothers, hafter⟩ :=
    h.pending direction serial hserial
  obtain ⟨hbefore, hafter'⟩ := List.forall_mem_append.mp hothers
  refine ⟨before, w, after, hqueue, ?_, hrequest, hw, hothers, hafter⟩
  rw [GestureModel.queue_connect, hqueue, List.map_append, List.map_cons,
    map_connect_of_serial_ne hbefore, map_connect_of_serial_ne hafter', Watcher.connect, if_pos hw]

theorem serial_connect (serial : Nat) (c : Call) (w : Watcher) :
    (w.connect serial c).serial = w.serial := by
  rw [Watcher.connect]
  split <;> rfl

theorem mem_fires_connect {serial : Nat} {c c' : Call} {w : Watcher}
    (h : c' ∈ (w.connect serial c).fires) : c' ∈ w.fires ∨ c' = c := by
  rw [Watcher.connect] at h
  split at h
  next => exact (List.mem_append.mp h).imp_right List.mem_singleton.mp
  next => exact .inl h

theorem Chained.connect (h : Chained s) {direction : String} {serial : Nat} {c : Call}
    (hserial : s.pending direction = some serial) (hc : c.direction = direction) :
    Chained (connect s serial c) where
  fresh w hw := by
    rw [GestureModel.queue_connect] at hw
    obtain ⟨w', hw', rfl⟩ := List.mem_map.mp hw
    rw [serial_connect]
    exact h.fresh w' hw'
  pending direction' serial' hserial' := by
    have hpending : s.pending direction' = some serial' := hserial'
    obtain ⟨before, w, after, hqueue, hw, hrequest, hothers, hafter⟩ :=
      h.pending direction' serial' hpending
    obtain ⟨hbefore, hrest⟩ := List.forall_mem_append.mp hothers
    refine ⟨before.map (Watcher.connect serial c), w.connect serial c,
      after.map (Watcher.connect serial c), ?_, (serial_connect ..).trans hw, ?_, ?_, ?_⟩
    · rw [GestureModel.queue_connect, hqueue, List.map_append, List.map_cons]
    · rw [request_connect]
      exact hrequest
    · rw [← List.map_append]
      intro w' hw'
      obtain ⟨w'', hw'', rfl⟩ := List.mem_map.mp hw'
      rw [serial_connect]
      exact hothers w'' hw''
    · intro w' hw' c' hc' heq
      obtain ⟨w'', hw'', rfl⟩ := List.mem_map.mp hw'
      rcases mem_fires_connect hc' with hold | rfl
      · exact hafter w'' hw'' c' hold heq
      · -- a call of the same direction is connected to the pending watcher itself
        have hsame : serial = serial' := by
          rw [← hc, heq, hpending] at hserial
          exact (Option.some_inj.mp hserial).symm
        rw [hsame, connect_of_serial_ne (hrest w'' hw'')] at hc'
        exact hafter w'' hw'' c' hc' heq

theorem Chained.performParamCall (h : Chained s) (direction type : String) (method : Param) :
    Chained (performParamCall s direction type method) := by
  rw [GestureModel.performParamCall]
  split
  next serial hserial => exact h.connect hserial rfl
  next hnone => exact h.send (List.forall_mem_singleton.mpr hnone)

theorem Chained.perform (h : Chained s) (c : Call) : Chained (perform s c) := by
  cases c with
  | setGesture direction type => exact h.performSetGesture direction type
  | param direction type method => exact h.performParamCall direction type method

theorem Chained.foldl_perform (h : Chained s) (cs : List Call) :
    Chained (cs.foldl GestureModel.perform s) := by
  induction cs generalizing s with
  | nil => exact h
  | cons c cs ih => exact ih (h.perform c)

/-- A watcher whose reply has arrived is no longer pending. -/
theorem Chained.dropReply {w : Watcher} {r : Reply} {replies : List (Watcher × Reply)}
    {pending : String → Option Nat} (h : Chained s) (hreplies : s.replies = (w, r) :: replies)
    (hpending : ∀ direction serial, pending direction = some serial →
      s.pending direction = some serial ∧
        ∀ type, w.request = .call (.setGesture direction type) → w.serial ≠ serial) :
    Chained { s with replies := replies, pending := pending } where
  fresh w' hw' := h.fresh w' (queue_eq hreplies ▸ List.mem_cons_of_mem w hw')
  pending direction serial hserial := by
    obtain ⟨hold, hother⟩ := hpending direction serial hserial
    obtain ⟨before, w', after, hqueue, hw', ⟨type, hrequest⟩, hothers, hafter⟩ :=
      h.pending direction serial hold
    rw [queue_eq hreplies] at hqueue
    cases before with
    | nil =>
      obtain ⟨rfl, -⟩ := List.cons.inj hqueue
      exact absurd hw' (hother type hrequest)
    | cons w'' before =>
      obtain ⟨-, hqueue⟩ := List.cons.inj hqueue
      exact ⟨before, w', after, hqueue, hw', ⟨type, hrequest⟩,
        fun w hw => hothers w (List.mem_cons_of_mem w'' hw), hafter⟩

theorem Chained.carryOut (h : Chained s) (hstep : sessionStep p s .carryOut = some t) :
    Chained t := by
  rw [sessionStep] at hstep
  split at hstep
  next => cases hstep
  next w calls hcalls =>
    have hqueue : t.queue = s.queue := by
      cases hstep
      simp [Session.queue, hcalls]
    have hmade : t.made = s.made := by
      cases hstep
      rfl
    have hpending : t.pending = s.pending := by
      cases hstep
      rfl
    constructor
    · rw [hqueue, hmade]
      exact h.fresh
    · rw [hqueue, hpending]
      exact h.pending

theorem Chained.probeDirection (h : Chained s) (direction : String) (typeIdx : Nat) :
    Chained (probeDirection s direction typeIdx) := by
  rw [GestureModel.probeDirection]
  split
  next => exact h.send (List.forall_mem_nil _)
  next => exact h

theorem Chained.seedParam (h : Chained s) (direction type : String) :
    Chained (seedParam s direction type) := by
  rw [GestureModel.seedParam]
  split
  next => exact h.send (List.forall_mem_nil _)
  next => exact h

theorem Chained.setModel (h : Chained s) (m : GestureModel) : Chained { s with model := m } :=
  ⟨h.fresh, h.pending⟩

theorem Chained.reply {w : Watcher} {r : Reply} {replies : List (Watcher × Reply)} (h : Chained s)
    (hreplies : s.replies = (w, r) :: replies) :
    Chained (onReply p { s with replies := replies } w r) := by
  have hdrop : (∀ direction type, w.request ≠ .call (.setGesture direction type)) →
      Chained { s with replies := replies } := by
    intro hother
    apply h.dropReply hreplies
    intro direction serial hserial
    exact ⟨hserial, fun type hrequest => absurd hrequest (hother direction type)⟩
  obtain ⟨serial, request, fires⟩ := w
  cases request with
  | call c =>
    cases c with
    | setGesture direction type =>
      have hpending : Chained (
          if s.pending direction = some serial then
            { s with replies := replies, pending := Function.update s.pending direction none }
          else { s with replies := replies }) := by
        split
        next =>
          apply h.dropReply hreplies
          intro direction' serial' hserial'
          rw [Function.update_apply] at hserial'
          split at hserial'
          next => cases hserial'
          next hd =>
            refine ⟨hserial', fun type' hrequest => ?_⟩
            cases hrequest
            exact absurd rfl hd
        next hnot =>
          apply h.dropReply hreplies
          intro direction' serial' hserial'
          refine ⟨hserial', fun type' hrequest heq => ?_⟩
          cases hrequest
          exact hnot (hserial'.trans (congrArg some heq.symm))
      simp only [onReply]
      split
      next => exact hpending
      next => exact hpending.foldl_fire fires
    | param direction type method => exact hdrop (by simp)
  | hop direction type => exact (hdrop (by simp)).foldl_fire _
  | probe direction typeIdx =>
    have hdropped := hdrop (by simp)
    simp only [onReply]
    split
    next => exact hdropped.probeDirection _ _
    next => exact (hdropped.setModel _).seedParam _ _
  | getParam direction type =>
    have hdropped := hdrop (by simp)
    cases r with
    | error | done => exact hdropped
    | number n => exact hdropped.setModel _
    | multiplier x => exact hdropped.setModel _

theorem Chained.step {e : Event} (h : Chained s) (hstep : sessionStep p s e = some t) :
    Chained t := by
  cases e with
  | edit e =>
    obtain ⟨⟨m, calls⟩, -, rfl⟩ := Option.map_eq_some_iff.mp (show editLive s e = some t from hstep)
    exact (h.setModel m).foldl_perform calls
  | carryOut => exact h.carryOut hstep
  | reply =>
    rw [sessionStep] at hstep
    split at hstep
    next => cases hstep
    next w r replies hreplies =>
      cases hstep
      exact h.reply hreplies

/-! ## What is on its way -/

def Request.call? : Request → Option Call
  | .call c => some c
  | _ => none

namespace Session

/-- The calls that have been sent. -/
def sent (s : Session) : List Call := s.requests.filterMap Request.call?

/-- The calls that wait for their hops. -/
def waiting (s : Session) : List Call := s.queue.flatMap Watcher.fires

end Session

theorem sent_send (s : Session) (r : Request) (fires : List Call) :
    (send s r fires).sent = s.sent ++ r.call?.toList := by
  rw [Session.sent, requests_send, List.filterMap_append, Session.sent]
  cases r <;> rfl

theorem waiting_send (s : Session) (r : Request) (fires : List Call) :
    (send s r fires).waiting = s.waiting ++ fires := by
  rw [Session.waiting, queue_send, List.flatMap_append, Session.waiting, List.flatMap_singleton]

/-- A request whose reply fires calls. -/
def Request.Fires : Request → Prop
  | .call (.setGesture _ _) | .hop _ _ => True
  | .call (.param _ _ _) | .probe _ _ | .getParam _ _ => False

/-- The hops of a direction find the interface that they are for. -/
def Passes (direction : String) : String → List Request → Prop
  | _, [] => True
  | mode, r :: rs =>
    (∀ type, r = .hop direction type → mode = type) ∧ Passes direction (modeStep direction mode r) rs

theorem passes_append {direction mode : String} {rs more : List Request} :
    Passes direction mode (rs ++ more) ↔
      Passes direction mode rs ∧ Passes direction (rs.foldl (modeStep direction) mode) more := by
  induction rs generalizing mode with
  | nil => exact (and_iff_right trivial).symm
  | cons r rs ih => rw [List.cons_append, Passes, Passes, ih, and_assoc, List.foldl_cons]

theorem passes_of_not_hop {direction : String} {rs : List Request}
    (h : ∀ r ∈ rs, ∀ type, r ≠ .hop direction type) (mode : String) : Passes direction mode rs := by
  induction rs generalizing mode with
  | nil => trivial
  | cons r rs ih =>
    obtain ⟨hr, hrs⟩ := List.forall_mem_cons.mp h
    exact ⟨fun type heq => absurd heq (hr type), ih hrs _⟩

/-- The session ends with the configuration that the calls give in the order in which they were made. -/
structure Ordered (s : Session) (ordered : Config.GestureAction) : Prop where
  orderly : Orderly s
  agreed : s.Agreed
  chained : Chained s
  entries : ∀ d, (s.sent ++ s.waiting).foldl (Call.act d)
    (Actions.GestureAction.entry s.daemon d) = Actions.GestureAction.entry ordered d
  succeed : ∀ a ∈ s.answers, a.1.Fires → a.2 ≠ .error
  hops : ∀ d : Direction, Passes d.name (configuredMode s.daemon d.name) s.requests
  firing : ∀ w ∈ s.queue, w.fires ≠ [] → w.request.Fires
  shown : ∀ d : Direction, d ≠ .none →
    (s.model.dirs d.name).mode = "" ∨ (s.model.dirs d.name).mode = s.finalMode d.name

/-- What a request does to an entry. -/
theorem entry_carryOut_request (p : Platform) {r : Request} (hr : r.Valid) (d : Direction) :
    Actions.GestureAction.entry (carryOut p config r).1 d =
      r.call?.toList.foldl (Call.act d) (Actions.GestureAction.entry config d) := by
  cases r with
  | call c => exact entry_carryOut hr d
  | hop direction type | probe direction typeIdx | getParam direction type => rfl

/-- A request that calls wait for succeeds. -/
theorem reply_of_fires (p : Platform) {r : Request} (hr : r.Valid) (hfires : r.Fires)
    (hhop : ∀ (d : Direction) type, r = .hop d.name type → configuredMode config d.name = type) :
    (carryOut p config r).2 ≠ .error := by
  cases r with
  | call c =>
    cases c with
    | setGesture direction type =>
      simp [carryOut, Call.carryOut, setGesture_of_valid config hr, Reply.ofBool]
    | param direction type method => cases hfires
  | hop direction type =>
    obtain ⟨d, -, rfl⟩ := isCardinal_name hr.1
    have hfound := (interfaceAt_eq_some_iff hr.2).mpr (hhop d type rfl)
    simp [carryOut, hfound, Reply.ofBool]
  | probe direction typeIdx | getParam direction type => cases hfires

theorem Ordered.carryOut {ordered : Config.GestureAction} (h : Ordered s ordered)
    (hstep : sessionStep p s .carryOut = some t) : Ordered t ordered := by
  have hfinal := fun d => final_carryOut h.orderly hstep d
  have horderly := h.orderly.carryOut hstep
  have hchained := h.chained.carryOut hstep
  rw [sessionStep] at hstep
  split at hstep
  next => cases hstep
  next w calls hcalls =>
    have hqueue : t.queue = s.queue := by
      cases hstep
      simp [Session.queue, hcalls]
    have hrequests : s.requests = w.request :: t.requests := by
      cases hstep
      exact requests_eq hcalls
    have hmodel : t.model = s.model := by
      cases hstep
      rfl
    have hdaemon : t.daemon = (GestureModel.carryOut p s.daemon w.request).1 := by
      cases hstep
      rfl
    have hanswers : t.answers =
        s.answers ++ [(w.request, (GestureModel.carryOut p s.daemon w.request).2)] := by
      cases hstep
      simp [Session.answers]
    have hvalid : w.request.Valid :=
      h.orderly.requests w (List.mem_append.mpr (.inr (hcalls ▸ List.mem_cons_self)))
    refine ⟨horderly, ?_, hchained, ?_, ?_, ?_, ?_, ?_⟩
    · intro d hd
      rw [(hfinal d).1, (hfinal d).2]
      exact h.agreed d hd
    · intro d
      have hsent : s.sent = w.request.call?.toList ++ t.sent := by
        rw [Session.sent, hrequests, Session.sent]
        cases w.request <;> rfl
      have hwaiting : t.waiting = s.waiting := by rw [Session.waiting, hqueue, Session.waiting]
      rw [← h.entries d, hsent, hwaiting, hdaemon, entry_carryOut_request p hvalid]
      simp only [List.foldl_append]
    · rw [hanswers]
      intro a ha hfires
      rcases List.mem_append.mp ha with hold | hnew
      · exact h.succeed a hold hfires
      · rw [List.mem_singleton.mp hnew] at hfires ⊢
        have hpasses := h.hops
        rw [hrequests] at hpasses
        exact reply_of_fires p hvalid hfires fun d type heq => (hpasses d).1 type heq
    · intro d
      have hpasses := h.hops d
      have hmode := requestStep_carryOut p s.daemon hvalid d "" ""
      rw [hrequests] at hpasses
      have hnext : modeStep d.name (configuredMode s.daemon d.name) w.request =
          configuredMode t.daemon d.name := by
        rw [hdaemon, ← requestStep_fst "" d.name (configuredMode s.daemon d.name, "") w.request, hmode]
      rw [← hnext]
      exact hpasses.2
    · rw [hqueue]
      exact h.firing
    · rw [hmodel]
      intro d hd
      rw [(hfinal d).1]
      exact h.shown d hd

/-! ## Replies -/

/-- Requests are sent that nothing waits for, the calls among them. -/
structure Sends (s t : Session) (cs : List Call) : Prop where
  requests : ∃ rs, t.requests = s.requests ++ rs ∧ ∀ r ∈ rs, ∀ direction type,
    r ≠ .hop direction type
  queue : ∃ ws, t.queue = s.queue ++ ws ∧ ∀ w ∈ ws, w.fires = []
  answers : t.answers = s.answers
  daemon : t.daemon = s.daemon
  sent : t.sent = s.sent ++ cs
  waiting : t.waiting = s.waiting

theorem Sends.refl (s : Session) : Sends s s [] where
  requests := ⟨[], (List.append_nil _).symm, List.forall_mem_nil _⟩
  queue := ⟨[], (List.append_nil _).symm, List.forall_mem_nil _⟩
  answers := rfl
  daemon := rfl
  sent := (List.append_nil _).symm
  waiting := rfl

theorem Sends.send (s : Session) {r : Request} (h : ∀ direction type, r ≠ .hop direction type) :
    Sends s (send s r []) r.call?.toList where
  requests := ⟨[r], requests_send .., List.forall_mem_singleton.mpr h⟩
  queue := ⟨_, queue_send .., List.forall_mem_singleton.mpr rfl⟩
  answers := rfl
  daemon := rfl
  sent := sent_send ..
  waiting := (waiting_send ..).trans (List.append_nil _)

theorem Sends.trans {u : Session} {cs cs' : List Call} (h : Sends s t cs) (h' : Sends t u cs') :
    Sends s u (cs ++ cs') where
  requests := by
    obtain ⟨rs, hrs, hhop⟩ := h.requests
    obtain ⟨rs', hrs', hhop'⟩ := h'.requests
    exact ⟨rs ++ rs', by rw [hrs', hrs, List.append_assoc], List.forall_mem_append.mpr ⟨hhop, hhop'⟩⟩
  queue := by
    obtain ⟨ws, hws, hfires⟩ := h.queue
    obtain ⟨ws', hws', hfires'⟩ := h'.queue
    exact ⟨ws ++ ws', by rw [hws', hws, List.append_assoc],
      List.forall_mem_append.mpr ⟨hfires, hfires'⟩⟩
  answers := h'.answers.trans h.answers
  daemon := h'.daemon.trans h.daemon
  sent := by rw [h'.sent, h.sent, List.append_assoc]
  waiting := h'.waiting.trans h.waiting

theorem Sends.foldl_fire (s : Session) (cs : List Call) : Sends s (cs.foldl fire s) cs := by
  induction cs generalizing s with
  | nil => exact Sends.refl s
  | cons c cs ih =>
    have hfirst : Sends s (fire s c) [c] := Sends.send s (r := .call c) (by simp)
    exact hfirst.trans (ih (fire s c))

theorem Sends.probeDirection (s : Session) (direction : String) (typeIdx : Nat) :
    Sends s (probeDirection s direction typeIdx) [] := by
  rw [GestureModel.probeDirection]
  split
  next => exact Sends.send s (r := .probe direction typeIdx) (by simp)
  next => exact Sends.refl s

theorem Sends.seedParam (s : Session) (direction type : String) :
    Sends s (seedParam s direction type) [] := by
  rw [GestureModel.seedParam]
  split
  next => exact Sends.send s (r := .getParam direction type) (by simp)
  next => exact Sends.refl s

/-- A session but for its model and its pending watchers. -/
theorem Sends.of_eq {cs : List Call} {model : GestureModel} {pending : String → Option Nat}
    (h : Sends { s with model := model, pending := pending } t cs) : Sends s t cs :=
  ⟨h.requests, h.queue, h.answers, h.daemon, h.sent, h.waiting⟩

/-- The calls that wait for a reply are sent when it arrives. -/
theorem sends_onReply (p : Platform) (s : Session) {w : Watcher} {r : Reply}
    (hfiring : w.fires ≠ [] → w.request.Fires) (hr : w.request.Fires → r ≠ .error) :
    Sends s (onReply p s w r) w.fires := by
  have hnothing : ¬w.request.Fires → w.fires = [] := fun hnot =>
    by_contra fun hsome => hnot (hfiring hsome)
  obtain ⟨serial, request, fires⟩ := w
  cases request with
  | call c =>
    cases c with
    | setGesture direction type =>
      simp only [onReply, if_neg (hr trivial)]
      split
      next => exact (Sends.foldl_fire _ fires).of_eq
      next => exact Sends.foldl_fire s fires
    | param direction type method =>
      obtain rfl : fires = [] := hnothing id
      exact Sends.refl s
  | hop direction type =>
    have hall : fires.filter (fun c => r ≠ .error ∨ c.unconditional) = fires := by
      simp [hr trivial]
    simp only [onReply, hall]
    exact Sends.foldl_fire s fires
  | probe direction typeIdx =>
    obtain rfl : fires = [] := hnothing id
    simp only [onReply]
    split
    next => exact Sends.probeDirection ..
    next => exact (Sends.seedParam ..).of_eq
  | getParam direction type =>
    obtain rfl : fires = [] := hnothing id
    cases r with
    | error | done => exact Sends.refl s
    | number n => exact (Sends.refl _).of_eq
    | multiplier x => exact (Sends.refl _).of_eq

theorem model_seedParam (s : Session) (direction type : String) :
    (seedParam s direction type).model = s.model := by
  rw [seedParam]
  split <;> rfl

theorem model_probeDirection (s : Session) (direction : String) (typeIdx : Nat) :
    (probeDirection s direction typeIdx).model = s.model := by
  rw [probeDirection]
  split <;> rfl

/-- A reply changes a mode that is shown only to one that a probe has found. -/
theorem mode_onReply (p : Platform) (s : Session) (w : Watcher) (r : Reply) (direction : String) :
    ((onReply p s w r).model.dirs direction).mode = (s.model.dirs direction).mode ∨
      r ≠ .error ∧ ∃ typeIdx, w.request = .probe direction typeIdx ∧
        ((onReply p s w r).model.dirs direction).mode = seedTypes.getD typeIdx "" := by
  obtain ⟨serial, request, fires⟩ := w
  cases request with
  | call c =>
    cases c with
    | setGesture direction' type =>
      simp only [onReply]
      split
      next => split <;> exact .inl rfl
      next =>
        obtain ⟨-, -, hmodel, -⟩ := foldl_fire_frame
          (if s.pending direction' = some serial then
            { s with pending := Function.update s.pending direction' none }
          else s) fires
        rw [hmodel]
        split <;> exact .inl rfl
    | param direction' type method => exact .inl rfl
  | hop direction' type =>
    obtain ⟨-, -, hmodel, -⟩ := foldl_fire_frame s (fires.filter fun c => r ≠ .error ∨ c.unconditional)
    refine .inl ?_
    simp only [onReply]
    rw [hmodel]
  | probe direction' typeIdx =>
    simp only [onReply]
    split
    next =>
      rw [model_probeDirection]
      exact .inl rfl
    next hr =>
      rw [model_seedParam, setSeeded, dirs_setState]
      split
      next hd =>
        subst hd
        exact .inr ⟨hr, typeIdx, rfl, rfl⟩
      next => exact .inl rfl
  | getParam direction' type =>
    cases r with
    | error | done => exact .inl rfl
    | number n => exact .inl (mode_setGranularity ..)
    | multiplier x => exact .inl (mode_setGranularity ..)

theorem Ordered.reply {ordered : Config.GestureAction} {w : Watcher} {r : Reply}
    {replies : List (Watcher × Reply)} (h : Ordered s ordered)
    (hreplies : s.replies = (w, r) :: replies) :
    Ordered (onReply p { s with replies := replies } w r) ordered := by
  have hfinal := fun direction => final_reply (p := p) h.orderly hreplies direction
  have hqueue := queue_eq hreplies
  have hsends := sends_onReply p { s with replies := replies }
    (h.firing w (hqueue ▸ List.mem_cons_self))
    (h.succeed (w.request, r) (answers_eq hreplies ▸ List.mem_cons_self))
  obtain ⟨rs, hrequests, hhop⟩ := hsends.requests
  obtain ⟨ws, hws, hfires⟩ := hsends.queue
  refine ⟨h.orderly.reply hreplies, ?_, h.chained.reply hreplies, ?_, ?_, ?_, ?_, ?_⟩
  · intro d hd
    rw [(hfinal d.name).1, (hfinal d.name).2]
    exact h.agreed d hd
  · intro d
    have hwaiting : s.waiting = w.fires ++ Session.waiting { s with replies := replies } := by
      rw [Session.waiting, hqueue, List.flatMap_cons, Session.waiting]
    rw [← h.entries d, hsends.sent, hsends.waiting, hsends.daemon, hwaiting, List.append_assoc]
    rfl
  · rw [hsends.answers]
    exact fun a ha => h.succeed a (answers_eq hreplies ▸ List.mem_cons_of_mem _ ha)
  · intro d
    rw [hrequests, hsends.daemon]
    exact passes_append.mpr ⟨h.hops d, passes_of_not_hop (fun r hr type => hhop r hr d.name type) _⟩
  · rw [hws]
    intro w' hw'
    rcases List.mem_append.mp hw' with hold | hnew
    · exact h.firing w' (hqueue ▸ List.mem_cons_of_mem w hold)
    · exact fun hsome => absurd (hfires w' hnew) hsome
  · intro d hd
    rw [(hfinal d.name).1]
    rcases mode_onReply p { s with replies := replies } w r d.name with
      hkept | ⟨hr, typeIdx, hprobe, hmode⟩
    · rw [hkept]
      exact h.shown d hd
    · obtain ⟨serial, request, fires⟩ := w
      obtain rfl : request = .probe d.name typeIdx := hprobe
      have hshown := finalShown_of_probe h.orderly hreplies
      rw [if_neg hr, h.agreed d hd] at hshown
      exact .inr (hmode.trans hshown.symm)

/-! ## Edits -/

/-- A call takes effect as if it were the last, if no later one is of its direction. -/
theorem foldl_act_insert {c : Call} (before : List Call) {after : List Call}
    (h : c.direction = d.name → ∀ c' ∈ after, c'.direction ≠ d.name) (g : Option Config.Gesture) :
    (before ++ c :: after).foldl (Call.act d) g =
      c.act d ((before ++ after).foldl (Call.act d) g) := by
  rw [List.foldl_append, List.foldl_cons, List.foldl_append]
  by_cases hc : c.direction = d.name
  · rw [foldl_act_of_direction_ne (h hc), foldl_act_of_direction_ne (h hc)]
  · rw [act_of_direction_ne hc, act_of_direction_ne hc]

theorem mem_waiting {c : Call} (h : c ∈ s.waiting) : ∃ w ∈ s.queue, c ∈ w.fires :=
  List.mem_flatMap.mp h

/-- Where the call of a parameter comes to wait. -/
theorem waiting_performParamCall (h : Chained s) (direction type : String) (method : Param) :
    ∃ before after, s.waiting = before ++ after ∧
      (performParamCall s direction type method).waiting =
        before ++ .param direction type method :: after ∧
      ∀ c ∈ after, c.direction ≠ direction := by
  rw [performParamCall]
  split
  next serial hserial =>
    obtain ⟨before, w, after, hqueue, hconnect, -, -, -, hafter⟩ :=
      h.queue_connect hserial (.param direction type method)
    refine ⟨before.flatMap Watcher.fires ++ w.fires, after.flatMap Watcher.fires, ?_, ?_, ?_⟩
    · rw [Session.waiting, hqueue, List.flatMap_append, List.flatMap_cons, List.append_assoc]
    · rw [Session.waiting, hconnect, List.flatMap_append, List.flatMap_cons]
      simp
    · intro c hc
      obtain ⟨w', hw', hc⟩ := List.mem_flatMap.mp hc
      exact hafter w' hw' c hc
  next =>
    exact ⟨s.waiting, [], (List.append_nil _).symm, waiting_send .., List.forall_mem_nil _⟩

theorem Ordered.setModel {ordered : Config.GestureAction} (h : Ordered s ordered) {m : GestureModel}
    (hm : ∀ direction, (m.dirs direction).mode = (s.model.dirs direction).mode ∧
      (m.dirs direction).plainMode = (s.model.dirs direction).plainMode) :
    Ordered { s with model := m } ordered where
  orderly := h.orderly.setModel fun direction => by
    rw [(hm direction).1, (hm direction).2]
    exact h.orderly.plain direction
  agreed d hd := by
    obtain ⟨hmode, hshown⟩ := final_setModel s (hm d.name).1
    rw [hmode, hshown]
    exact h.agreed d hd
  chained := h.chained.setModel m
  entries := h.entries
  succeed := h.succeed
  hops := h.hops
  firing := h.firing
  shown d hd := by
    rw [(hm d.name).1]
    exact h.shown d hd

/-- A call waits for a hop or for the `SetGesture` that is pending. -/
theorem firing_performParamCall (h : Chained s)
    (hfiring : ∀ w ∈ s.queue, w.fires ≠ [] → w.request.Fires) (direction type : String)
    (method : Param) :
    ∀ w ∈ (performParamCall s direction type method).queue, w.fires ≠ [] → w.request.Fires := by
  rw [performParamCall]
  split
  next serial hserial =>
    obtain ⟨before, w, after, hqueue, hconnect, ⟨type', hrequest⟩, -⟩ :=
      h.queue_connect hserial (.param direction type method)
    rw [hqueue] at hfiring
    rw [hconnect]
    intro w' hw'
    rcases List.mem_append.mp hw' with hbefore | hrest
    · exact hfiring w' (List.mem_append.mpr (.inl hbefore))
    · rcases List.mem_cons.mp hrest with rfl | hafter
      · intro _
        rw [hrequest]
        trivial
      · exact hfiring w' (List.mem_append.mpr (.inr (List.mem_cons_of_mem w hafter)))
  next =>
    rw [queue_send]
    intro w' hw'
    rcases List.mem_append.mp hw' with hold | hnew
    · exact hfiring w' hold
    · rw [List.mem_singleton.mp hnew]
      exact fun _ => trivial

/-- A hop finds the mode that the model shows. -/
theorem Ordered.performParamCall {ordered : Config.GestureAction} (h : Ordered s ordered)
    {direction type : String} {method : Param}
    (hparam : (Call.param direction type method).IsParam) (htype : type = s.finalMode direction) :
    Ordered (performParamCall s direction type method)
      ((Call.param direction type method).carryOut ordered).1 := by
  have hfinal := final_perform_params (s := s) (List.forall_mem_singleton.mpr hparam)
  obtain ⟨rs, -, -, hanswers, hmodel, hdaemon⟩ := performParamCall_frame s direction type method
  obtain ⟨before, after, hwaiting, hwaiting', hafter⟩ :=
    waiting_performParamCall h.chained direction type method
  refine ⟨h.orderly.performParamCall hparam, ?_, h.chained.performParamCall direction type method, ?_,
    ?_, ?_, ?_, ?_⟩
  · intro d hd
    exact (hfinal d.name).2.trans ((h.agreed d hd).trans (hfinal d.name).1.symm)
  · intro d
    have hsent : (GestureModel.performParamCall s direction type method).sent = s.sent := by
      rw [GestureModel.performParamCall]
      split
      next => rw [Session.sent, requests_connect, Session.sent]
      next => exact (sent_send ..).trans (List.append_nil _)
    have hlast : (Call.param direction type method).direction = d.name →
        ∀ c ∈ after, c.direction ≠ d.name := by
      intro hd c hc
      rw [← hd]
      exact hafter c hc
    have hinsert := foldl_act_insert (s.sent ++ before) hlast (Actions.GestureAction.entry s.daemon d)
    rw [hsent, hwaiting', hdaemon, ← List.append_assoc, hinsert, List.append_assoc, ← hwaiting,
      h.entries, entry_carryOut hparam.valid]
  · rw [hanswers]
    exact h.succeed
  · intro d
    rw [hdaemon]
    have hpasses := h.hops d
    rw [GestureModel.performParamCall]
    split
    next =>
      rw [requests_connect]
      exact hpasses
    next =>
      rw [requests_send]
      refine passes_append.mpr ⟨hpasses, ?_, trivial⟩
      intro type' heq
      cases heq
      exact htype.symm
  · exact firing_performParamCall h.chained h.firing direction type method
  · intro d hd
    rw [hmodel, show (GestureModel.performParamCall s direction type method).finalMode d.name =
      s.finalMode d.name from (hfinal d.name).1]
    exact h.shown d hd

theorem Ordered.perform_params {ordered : Config.GestureAction} {m : GestureModel} {cs : List Call}
    (hcs : ∀ c ∈ cs, c.ForMode m) (h : Ordered s ordered)
    (hm : ∀ d : Direction, d ≠ .none → (m.dirs d.name).mode ≠ "" →
      (m.dirs d.name).mode = s.finalMode d.name) :
    Ordered (cs.foldl perform s) (inOrder ordered cs) := by
  induction cs generalizing s ordered with
  | nil => exact h
  | cons c cs ih =>
    obtain ⟨hc, hrest⟩ := List.forall_mem_cons.mp hcs
    cases c with
    | setGesture direction type => cases hc
    | param direction type method =>
      obtain ⟨d, hd, rfl⟩ := isCardinal_name hc.1
      have hmode : type = s.finalMode d.name := by
        rw [hc.2.1]
        exact hm d hd (hc.2.1 ▸ hc.2.2)
      refine ih hrest (h.performParamCall hc.isParam hmode) fun d' hd' hsome => ?_
      have hfinal := final_perform_params (s := s) (List.forall_mem_singleton.mpr hc.isParam) d'.name
      exact (hm d' hd' hsome).trans hfinal.1.symm

/-- A `SetGesture` takes effect before the calls that wait, which have none after it. -/
theorem Ordered.performSetGesture {ordered : Config.GestureAction} (h : Ordered s ordered)
    {direction type : String} {st : DirectionState} (hmode : st.mode = type)
    (hvalid : (Call.setGesture direction type).Valid)
    (hplain : st.plainMode = plainModeForType st.mode)
    (hagreed : Session.Agreed (performSetGesture
      { s with model := s.model.setState direction st } direction type))
    (hwaits : ∀ c ∈ s.waiting, ∀ type' method, c = .param direction type' method → type' ≠ type) :
    Ordered (performSetGesture { s with model := s.model.setState direction st } direction type)
      ((Call.setGesture direction type).carryOut ordered).1 := by
  obtain ⟨hself, hothers⟩ := final_performSetGesture
    { s with model := s.model.setState direction st } direction type
  refine ⟨(h.orderly.setState direction hplain).performSetGesture hvalid, hagreed,
    (h.chained.setModel _).performSetGesture direction type, ?_, h.succeed, ?_, ?_, ?_⟩
  · intro d
    have hsent : (GestureModel.performSetGesture
        { s with model := s.model.setState direction st } direction type).sent =
          s.sent ++ [.setGesture direction type] :=
      sent_send { s with model := s.model.setState direction st }
        (.call (.setGesture direction type)) []
    have hwaiting : (GestureModel.performSetGesture
        { s with model := s.model.setState direction st } direction type).waiting = s.waiting :=
      (waiting_send { s with model := s.model.setState direction st }
        (.call (.setGesture direction type)) []).trans (List.append_nil _)
    rw [hsent, hwaiting, entry_carryOut hvalid, ← h.entries d, List.append_assoc,
      List.singleton_append]
    by_cases hd : direction = d.name
    · subst hd
      obtain ⟨g, hg, hname⟩ := ofType_of_mem hvalid.2
      have hset : ∀ e, (Call.setGesture d.name type).act d e = some g := fun e =>
        (if_pos rfl).trans hg
      rw [List.foldl_append, List.foldl_cons]
      simp only [hset]
      refine foldl_act_of_type_ne hg hname (fun c hc => ?_) fun c hc type' method heq => ?_
      · obtain ⟨w, hw, hfires⟩ := mem_waiting hc
        exact h.orderly.fires w hw c hfires
      · exact hwaits c hc type' method heq
    · have hlast : (Call.setGesture direction type).direction = d.name →
          ∀ c ∈ s.waiting, c.direction ≠ d.name := fun hc => absurd hc hd
      exact foldl_act_insert s.sent hlast _
  · intro d
    have hrequests : (GestureModel.performSetGesture
        { s with model := s.model.setState direction st } direction type).requests =
          s.requests ++ [.call (.setGesture direction type)] := requests_send ..
    rw [hrequests]
    exact passes_append.mpr ⟨h.hops d, passes_of_not_hop (by simp) _⟩
  · rw [queue_performSetGesture]
    intro w hw
    rcases List.mem_append.mp hw with hold | hnew
    · exact h.firing w hold
    · rw [List.mem_singleton.mp hnew]
      exact fun _ => trivial
  · intro d hd
    by_cases hname : d.name = direction
    · refine .inr ?_
      rw [hname, hself, GestureModel.performSetGesture, model_send, dirs_setState, if_pos rfl, hmode]
    · have hkept : ((GestureModel.performSetGesture
          { s with model := s.model.setState direction st } direction type).model.dirs d.name) =
            s.model.dirs d.name :=
        Function.update_of_ne hname _ _
      rw [hkept, (hothers d.name hname).1]
      exact h.shown d hd

theorem Ordered.edit {ordered : Config.GestureAction} {e : Edit} (h : Ordered s ordered)
    (hstep : sessionStep p s (.edit e) = some t) (hunhurried : Unhurried s (.edit e)) :
    Ordered t (inOrder ordered (madeBy s (.edit e))) := by
  have hagreed := (agreed_edit h.orderly h.agreed hstep).mpr hunhurried.1
  obtain ⟨⟨m, calls⟩, hedit, rfl⟩ := Option.map_eq_some_iff.mp (show editLive s e = some t from hstep)
  rw [madeBy, hedit]
  cases edited hedit with
  | @mode direction plainMode type st hcardinal hmapped hmode hplain =>
    refine h.performSetGesture hmode ⟨hcardinal, mem_seedTypes hmapped⟩ ?_ hagreed ?_
    · rw [hmode, hplain, plainModeForType_mapMode hmapped]
    · rintro c hc type' method rfl heq
      obtain ⟨w, hw, hfires⟩ := mem_waiting hc
      exact hunhurried.2 w hw type' method hfires (hmapped.trans (congrArg some heq.symm))
  | param other params kept =>
    refine (h.setModel kept).perform_params params fun d hd hsome => ?_
    have hshown := (h.shown d hd).resolve_left hsome
    exact hshown.trans (final_setModel s (kept d.name).1).1.symm

theorem Ordered.step {ordered : Config.GestureAction} {e : Event} (h : Ordered s ordered)
    (hstep : sessionStep p s e = some t) (hunhurried : Unhurried s e) :
    Ordered t (inOrder ordered (madeBy s e)) := by
  cases e with
  | edit e => exact h.edit hstep hunhurried
  | carryOut => exact h.carryOut hstep
  | reply =>
    rw [sessionStep] at hstep
    split at hstep
    next => cases hstep
    next w r replies hreplies =>
      cases hstep
      exact h.reply hreplies

theorem chained_init (config : Config.GestureAction) : Chained (seedFromDaemon config) where
  fresh := by
    have hmade : (seedFromDaemon config).made = 4 := rfl
    rw [queue_init, hmade]
    simp
  pending direction serial hserial := by cases hserial

theorem ordered_init (config : Config.GestureAction) : Ordered (seedFromDaemon config) config where
  orderly := orderly_init config
  agreed := agreed_init config
  chained := chained_init config
  entries d := rfl
  succeed := List.forall_mem_nil _
  hops d := by
    have hrequests : (seedFromDaemon config).requests =
        cardinals.map fun direction => .probe direction 0 := rfl
    rw [hrequests]
    exact passes_of_not_hop (by simp [cardinals]) _
  firing w hw hsome := absurd (fires_init hw) hsome
  shown d _ := .inl rfl

theorem Ordered.run {ordered : Config.GestureAction} {es : List Event} (h : Ordered s ordered)
    (hrun : (session p config).run s es = some t) (hmeets : (session p config).Meets Unhurried s es) :
    Ordered t (inOrder ordered (madeCalls p s es)) := by
  induction es generalizing s ordered with
  | nil =>
    cases hrun
    exact h
  | cons e es ih =>
    obtain ⟨u, hu, hrun⟩ := Machine.run_cons_some hrun
    have hstep : sessionStep p s e = some u := hu
    obtain ⟨hunhurried, hmeets⟩ := hmeets u hu
    have hlater := ih (h.step hstep hunhurried) hrun hmeets
    rw [madeCalls, hstep, inOrder, List.foldl_append]
    exact hlater

/-- From the constructor on, in every run in which no new mode is set for a direction while a probe of it
finds another mode or a call for the interface of the new one waits, the daemon ends with the entries
that it would have if every call were carried out when it is made. -/
theorem entries_in_order {es : List Event}
    (hrun : (session p config).run (session p config).init es = some s)
    (hmeets : (session p config).Meets Unhurried (session p config).init es) (hidle : s.Idle)
    (d : Direction) :
    Actions.GestureAction.entry s.daemon d = Actions.GestureAction.entry
      (inOrder config (madeCalls p (session p config).init es)) d := by
  have hordered := (ordered_init config).run hrun hmeets
  have hsent : s.sent = [] := by rw [Session.sent, Session.requests, hidle.1, List.map_nil]; rfl
  have hwaiting : s.waiting = [] := by rw [Session.waiting, Session.queue, hidle.1, hidle.2]; rfl
  have hentry := hordered.entries d
  rw [hsent, hwaiting] at hentry
  exact hentry

theorem unhurried_of_not_edit {e : Event} (h : ¬e.IsEdit) (s : Session) : Unhurried s e := by
  cases e with
  | edit e => exact absurd trivial h
  | carryOut | reply => exact ⟨trivial, trivial⟩

theorem madeCalls_of_not_edit {es : List Event} (h : ∀ e ∈ es, ¬e.IsEdit) (s : Session) :
    madeCalls p s es = [] := by
  induction es generalizing s with
  | nil => rfl
  | cons e es ih =>
    obtain ⟨he, hes⟩ := List.forall_mem_cons.mp h
    have hmade : madeBy s e = [] := by
      cases e with
      | edit e => exact absurd trivial he
      | carryOut | reply => rfl
    rw [madeCalls, hmade, List.nil_append]
    cases sessionStep p s e with
    | none => rfl
    | some t => rw [Option.map_some, Option.getD_some, ih hes]

theorem madeCalls_append (p : Platform) (config : Config.GestureAction) (s : Session)
    (es es' : List Event) :
    madeCalls p s (es ++ es') = madeCalls p s es ++
      (((session p config).run s es).map fun t => madeCalls p t es').getD [] := by
  induction es generalizing s with
  | nil => rfl
  | cons e es ih =>
    rw [List.cons_append, madeCalls, madeCalls, Machine.run_cons, List.append_assoc]
    have hstep : (session p config).step s e = sessionStep p s e := rfl
    rw [hstep]
    cases sessionStep p s e with
    | none => rfl
    | some t => simp only [Option.map_some, Option.getD_some, Option.bind_some, ih]

/-- Axes have no names here, and the numbers that are rounded are not negative. -/
def nameless : Platform where
  axisName _ := none
  qRound x := Int32.ofInt (x + 1 / 2).floor

/-- A mode and a granularity are set while the probes of the constructor are on their way. -/
def setAtOnce : List Event :=
  [.edit (.mode "up" "Repeat while moving"), .edit (.granularity "up" 50)]

theorem entries_in_order_setAtOnce : ∃ es s,
    (session nameless {}).run (session nameless {}).init (setAtOnce ++ es) = some s ∧ s.Idle ∧
      Actions.GestureAction.entry s.daemon .up = some (.interval { interval := some 50 }) := by
  obtain ⟨s, hs⟩ : ∃ s, (session nameless {}).run (session nameless {}).init setAtOnce = some s :=
    ⟨_, rfl⟩
  obtain ⟨es, t, hes, ht, hidle⟩ := exists_idle nameless {} s
  have hrun : (session nameless {}).run (session nameless {}).init (setAtOnce ++ es) = some t := by
    rw [Machine.run_append, hs, Option.bind_some, ht]
  have hmeets : (session nameless {}).Meets Unhurried (session nameless {}).init (setAtOnce ++ es) := by
    intro u hu
    have hstep : sessionStep nameless (seedFromDaemon {})
        (.edit (.mode "up" "Repeat while moving")) = some u := hu
    have hagreed : u.Agreed := by
      obtain rfl := Option.some_inj.mp hu
      intro d hd
      cases d with
      | none => exact absurd rfl hd
      | up | down | left | right => rfl
    refine ⟨⟨(agreed_edit (orderly_init {}) (agreed_init {}) hstep).mp hagreed, ?_⟩, ?_⟩
    · intro w hw type method hfires
      rw [fires_init hw] at hfires
      cases hfires
    · intro u' hu'
      exact ⟨⟨trivial, trivial⟩, Machine.meets_of_forall
        (fun e he s => unhurried_of_not_edit (hes e he) s) u'⟩
  refine ⟨es, t, hrun, hidle, ?_⟩
  rw [entries_in_order hrun hmeets hidle .up, madeCalls_append nameless {}, hs, Option.map_some,
    Option.getD_some, madeCalls_of_not_edit hes]
  rfl

end Logid.Gui.GestureModel
