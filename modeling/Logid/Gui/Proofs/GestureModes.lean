import Logid.Gui.Proofs.GestureDispatch

/-!
# Which mode the gesture model settles at

The calls and the replies that are on their way tell which mode the model is going to show for a
direction, and which the daemon is going to have. Only an edit changes either.
-/

namespace Logid.Gui.GestureModel

open Actions (Direction)

variable {p : Platform} {config : Config.GestureAction} {s t : Session} {d : Direction}

/-! ## What is going to be shown -/

/-- What probes from a type on end with when `mode` is configured and `shown` is shown. -/
def probeFrom (mode shown : String) (typeIdx : Nat) : String :=
  if mode ∈ seedTypes.drop typeIdx then mode else shown

/-- What a reply makes of the mode that is shown, where `final` is the one that later probes find. -/
def answerStep (final direction shown : String) (a : Request × Reply) : String :=
  match a.1 with
  | .probe direction' typeIdx =>
    if direction' = direction then
      if a.2 = .error then probeFrom final shown (typeIdx + 1) else seedTypes.getD typeIdx ""
    else shown
  | _ => shown

/-- The same for a request that the daemon is yet to carry out, with the mode that it has then. -/
def requestStep (final direction : String) (mode : String × String) (r : Request) :
    String × String :=
  match r with
  | .call (.setGesture _ _) => (modeStep direction mode.1 r, mode.2)
  | .probe direction' typeIdx =>
    if direction' = direction then
      (mode.1, if mode.1 = seedTypes.getD typeIdx "" then mode.1
        else probeFrom final mode.2 (typeIdx + 1))
    else mode
  | _ => mode

namespace Session

/-- The mode of a direction in the daemon when everything is carried out. -/
def finalMode (s : Session) (direction : String) : String :=
  s.requests.foldl (modeStep direction) (configuredMode s.daemon direction)

/-- The mode that the model shows for a direction when every reply has arrived. -/
def finalShown (s : Session) (direction : String) : String :=
  (s.requests.foldl (requestStep (s.finalMode direction) direction)
    (configuredMode s.daemon direction,
      s.answers.foldl (answerStep (s.finalMode direction) direction)
        (s.model.dirs direction).mode)).2

end Session

theorem getD_seedTypes {typeIdx : Nat} (h : typeIdx < seedTypes.length) :
    seedTypes.getD typeIdx "" = seedTypes[typeIdx] := by
  rw [List.getD_eq_getElem?_getD, List.getElem?_eq_getElem h, Option.getD_some]

theorem probeFrom_self (mode : String) (typeIdx : Nat) : probeFrom mode mode typeIdx = mode := by
  rw [probeFrom, ite_self]

/-- The probe for a type, and those after it. -/
theorem probeFrom_step {typeIdx : Nat} (h : typeIdx < seedTypes.length) (mode shown : String) :
    probeFrom mode shown typeIdx =
      if mode = seedTypes.getD typeIdx "" then mode else probeFrom mode shown (typeIdx + 1) := by
  rw [probeFrom, probeFrom, List.drop_eq_getElem_cons h, getD_seedTypes h]
  by_cases hmode : mode = seedTypes[typeIdx]
  · rw [if_pos hmode, if_pos (List.mem_cons.mpr (.inl hmode))]
  · simp only [List.mem_cons, hmode, false_or, if_false]

theorem probeFrom_end (mode shown : String) {typeIdx : Nat} (h : seedTypes.length ≤ typeIdx) :
    probeFrom mode shown typeIdx = shown := by
  rw [probeFrom, List.drop_eq_nil_of_le h, if_neg List.not_mem_nil]

theorem requestStep_fst (final direction : String) (mode : String × String) (r : Request) :
    (requestStep final direction mode r).1 = modeStep direction mode.1 r := by
  cases r with
  | call c => cases c <;> rfl
  | hop direction' type | getParam direction' type => rfl
  | probe direction' typeIdx =>
    rw [requestStep]
    split <;> rfl

theorem foldl_requestStep_fst (final direction : String) (rs : List Request)
    (mode : String × String) :
    (rs.foldl (requestStep final direction) mode).1 = rs.foldl (modeStep direction) mode.1 := by
  induction rs generalizing mode with
  | nil => rfl
  | cons r rs ih => rw [List.foldl_cons, List.foldl_cons, ih, requestStep_fst]

theorem answerStep_probe (final direction shown : String) (typeIdx : Nat) (r : Reply) :
    answerStep final direction shown (.probe direction typeIdx, r) =
      if r = .error then probeFrom final shown (typeIdx + 1) else seedTypes.getD typeIdx "" :=
  if_pos rfl

/-- Only probes of a direction change what is going to be shown for it. -/
theorem answerStep_of_not_probe {final direction : String} {a : Request × Reply}
    (h : a.1.isProbe direction = false) (shown : String) :
    answerStep final direction shown a = shown := by
  obtain ⟨r, reply⟩ := a
  cases r with
  | call c | hop direction' type | getParam direction' type => rfl
  | probe direction' typeIdx => exact if_neg (by simpa [Request.isProbe] using h)

theorem requestStep_snd_of_not_probe {final direction : String} {r : Request}
    (h : r.isProbe direction = false) (mode : String × String) :
    (requestStep final direction mode r).2 = mode.2 := by
  cases r with
  | call c => cases c <;> rfl
  | hop direction' type | getParam direction' type => rfl
  | probe direction' typeIdx =>
    rw [requestStep, if_neg (by simpa [Request.isProbe] using h)]

theorem foldl_answerStep_of_not_probe {final direction : String} {as : List (Request × Reply)}
    (h : ∀ a ∈ as, a.1.isProbe direction = false) (shown : String) :
    as.foldl (answerStep final direction) shown = shown := by
  induction as with
  | nil => rfl
  | cons a as ih =>
    obtain ⟨ha, has⟩ := List.forall_mem_cons.mp h
    rw [List.foldl_cons, answerStep_of_not_probe ha, ih has]

theorem foldl_requestStep_of_not_probe {final direction : String} {rs : List Request}
    (h : ∀ r ∈ rs, r.isProbe direction = false) (mode : String × String) :
    (rs.foldl (requestStep final direction) mode).2 = mode.2 := by
  induction rs generalizing mode with
  | nil => rfl
  | cons r rs ih =>
    obtain ⟨hr, hrs⟩ := List.forall_mem_cons.mp h
    rw [List.foldl_cons, ih hrs, requestStep_snd_of_not_probe hr]

/-- The daemon's answer to a request makes of the model what the request was going to. -/
theorem requestStep_carryOut (p : Platform) (config : Config.GestureAction) {r : Request}
    (hr : r.Valid) (d : Direction)
    (final shown : String) :
    requestStep final d.name (configuredMode config d.name, shown) r =
      (configuredMode (carryOut p config r).1 d.name,
        answerStep final d.name shown (r, (carryOut p config r).2)) := by
  cases r with
  | call c =>
    rw [carryOut, configuredMode_carryOut hr]
    cases c <;> rfl
  | hop direction type | getParam direction type => rfl
  | probe direction typeIdx =>
    rw [requestStep, answerStep, carryOut]
    by_cases hd : direction = d.name
    · have htype : seedTypes.getD typeIdx "" ≠ "" := by
        rw [getD_seedTypes hr]
        exact ne_empty_of_mem (List.getElem_mem hr)
      subst hd
      simp only [if_true, interfaceAt_eq_some_iff htype]
      generalize seedTypes.getD typeIdx "" = type
      by_cases hmode : configuredMode config d.name = type
      · simp [hmode, Reply.ofBool]
      · simp [hmode, Reply.ofBool]
    · simp only [if_neg hd]

/-! ## Steps that are not edits -/

theorem Request.Inert.modeStep {r : Request} (h : r.Inert) (direction mode : String) :
    modeStep direction mode r = mode := by
  cases r with
  | call c =>
    cases c with
    | setGesture direction' type => cases h
    | param direction' type method => rfl
  | probe direction' typeIdx => cases h
  | hop direction' type | getParam direction' type => rfl

theorem Request.Inert.not_probe {r : Request} (h : r.Inert) (direction : String) :
    r.isProbe direction = false := by
  cases r with
  | call c | hop direction' type | getParam direction' type => rfl
  | probe direction' typeIdx => cases h

theorem inert_of_isParam {c : Call} (h : c.IsParam) : (Request.call c).Inert := by
  cases c with
  | setGesture direction type => cases h
  | param direction type method => trivial

/-- What is sent besides leaves what the session is going to. -/
theorem final_eq_of_inert {rs : List Request} (hrs : ∀ r ∈ rs, r.Inert)
    (hrequests : t.requests = s.requests ++ rs) (hanswers : t.answers = s.answers)
    (hdaemon : t.daemon = s.daemon) (direction : String)
    (hmodel : (t.model.dirs direction).mode = (s.model.dirs direction).mode) :
    t.finalMode direction = s.finalMode direction ∧
      t.finalShown direction = s.finalShown direction := by
  have hmode : t.finalMode direction = s.finalMode direction := by
    rw [Session.finalMode, Session.finalMode, hrequests, hdaemon, List.foldl_append]
    generalize s.requests.foldl (modeStep direction) (configuredMode s.daemon direction) = mode
    clear hrequests
    induction rs with
    | nil => rfl
    | cons r rs ih =>
      obtain ⟨hr, hrs⟩ := List.forall_mem_cons.mp hrs
      rw [List.foldl_cons, hr.modeStep, ih hrs]
  refine ⟨hmode, ?_⟩
  rw [Session.finalShown, Session.finalShown, hmode, hrequests, hanswers, hdaemon, hmodel,
    List.foldl_append, foldl_requestStep_of_not_probe fun r hr => (hrs r hr).not_probe direction]

/-- The daemon does what was to be expected of it. -/
theorem final_carryOut (h : Orderly s) (hstep : sessionStep p s .carryOut = some t) (d : Direction) :
    t.finalMode d.name = s.finalMode d.name ∧ t.finalShown d.name = s.finalShown d.name := by
  rw [sessionStep] at hstep
  split at hstep
  next => cases hstep
  next w calls hcalls =>
    cases hstep
    have hvalid : w.request.Valid :=
      h.requests w (List.mem_append.mpr (.inr (hcalls ▸ List.mem_cons_self)))
    have hsent := requestStep_carryOut p s.daemon hvalid d
    have hmode : modeStep d.name (configuredMode s.daemon d.name) w.request =
        configuredMode (carryOut p s.daemon w.request).1 d.name := by
      rw [← requestStep_fst "" d.name (configuredMode s.daemon d.name, "") w.request, hsent]
    have hfinal : ∀ t : Session, t.daemon = (carryOut p s.daemon w.request).1 →
        t.requests = calls.map Watcher.request → t.finalMode d.name = s.finalMode d.name := by
      intro t hdaemon hrequests
      rw [Session.finalMode, Session.finalMode, requests_eq hcalls, List.foldl_cons, hmode,
        hdaemon, hrequests]
    refine ⟨hfinal _ rfl rfl, ?_⟩
    rw [Session.finalShown, hfinal _ rfl rfl, Session.finalShown, requests_eq hcalls,
      List.foldl_cons, hsent, Session.answers, List.map_append, List.foldl_append]
    rfl

section Reply

variable {w : Watcher} {r : Reply} {replies : List (Watcher × Reply)}

theorem not_probe_of_queue {direction : String}
    (h : ∀ w ∈ s.queue, w.request.isProbe direction = false) :
    (∀ a ∈ s.answers, a.1.isProbe direction = false) ∧
      ∀ r ∈ s.requests, r.isProbe direction = false := by
  constructor
  · intro a ha
    obtain ⟨reply, hreply, rfl⟩ := List.mem_map.mp ha
    exact h reply.1 (List.mem_append.mpr (.inl (List.mem_map_of_mem hreply)))
  · intro r hr
    obtain ⟨w, hw, rfl⟩ := List.mem_map.mp hr
    exact h w (List.mem_append.mpr (.inr hw))

/-- Without probes on their way the mode that is shown stays. -/
theorem finalShown_of_not_probe {direction : String}
    (h : ∀ w ∈ s.queue, w.request.isProbe direction = false) :
    s.finalShown direction = (s.model.dirs direction).mode := by
  obtain ⟨hanswers, hrequests⟩ := not_probe_of_queue h
  rw [Session.finalShown, foldl_requestStep_of_not_probe hrequests,
    foldl_answerStep_of_not_probe hanswers]

theorem finalShown_dropReply (hreplies : s.replies = (w, r) :: replies) (direction : String)
    (hw : w.request.isProbe direction = false) :
    Session.finalShown { s with replies := replies } direction = s.finalShown direction := by
  have hmode : Session.finalMode { s with replies := replies } direction =
      s.finalMode direction := rfl
  rw [Session.finalShown, Session.finalShown, hmode, answers_eq hreplies, List.foldl_cons,
    answerStep_of_not_probe hw]
  rfl

theorem final_foldl_fire {cs : List Call} (hcs : ∀ c ∈ cs, c.IsParam) (direction : String) :
    (cs.foldl fire s).finalMode direction = s.finalMode direction ∧
      (cs.foldl fire s).finalShown direction = s.finalShown direction := by
  obtain ⟨hrequests, hanswers, hmodel, hdaemon⟩ := foldl_fire_frame s cs
  refine final_eq_of_inert ?_ hrequests hanswers hdaemon direction (by rw [hmodel])
  intro request hrequest
  obtain ⟨c, hc, rfl⟩ := List.mem_map.mp hrequest
  exact inert_of_isParam (hcs c hc)

theorem final_probeDirection (s : Session) {direction' direction : String} (h : direction' ≠ direction)
    (typeIdx : Nat) :
    (probeDirection s direction' typeIdx).finalMode direction = s.finalMode direction ∧
      (probeDirection s direction' typeIdx).finalShown direction = s.finalShown direction := by
  rw [probeDirection]
  split
  next =>
    have hmode : (send s (.probe direction' typeIdx) []).finalMode direction =
        s.finalMode direction := by
      rw [Session.finalMode, requests_send, List.foldl_append]
      rfl
    refine ⟨hmode, ?_⟩
    have hother : Request.isProbe direction (.probe direction' typeIdx) = false := by
      simpa [Request.isProbe] using h
    rw [Session.finalShown, hmode, requests_send, List.foldl_append, List.foldl_cons, List.foldl_nil,
      requestStep_snd_of_not_probe hother]
    rfl
  next => exact ⟨rfl, rfl⟩

/-- A probe that is sent finds what is there in the end. -/
theorem final_probeDirection_self {direction : String}
    (h : ∀ w ∈ s.queue, w.request.isProbe direction = false) (typeIdx : Nat) :
    (probeDirection s direction typeIdx).finalMode direction = s.finalMode direction ∧
      (probeDirection s direction typeIdx).finalShown direction =
        probeFrom (s.finalMode direction) (s.model.dirs direction).mode typeIdx := by
  obtain ⟨hanswers, hrequests⟩ := not_probe_of_queue h
  rw [probeDirection]
  split
  next hlt =>
    have hmode : (send s (.probe direction typeIdx) []).finalMode direction =
        s.finalMode direction := by
      rw [Session.finalMode, requests_send, List.foldl_append]
      rfl
    refine ⟨hmode, ?_⟩
    have hbefore : s.requests.foldl (requestStep (s.finalMode direction) direction)
        (configuredMode s.daemon direction, (s.model.dirs direction).mode) =
          (s.finalMode direction, (s.model.dirs direction).mode) :=
      Prod.ext (foldl_requestStep_fst ..) (foldl_requestStep_of_not_probe hrequests _)
    rw [Session.finalShown, hmode, answers_send, foldl_answerStep_of_not_probe hanswers,
      requests_send, List.foldl_append, daemon_send, model_send, hbefore, probeFrom_step hlt]
    simp [requestStep]
  next hle =>
    rw [probeFrom_end _ _ (Nat.not_lt.mp hle), finalShown_of_not_probe h]
    exact ⟨rfl, rfl⟩

theorem final_seedParam (s : Session) (direction' type direction : String) :
    (seedParam s direction' type).finalMode direction = s.finalMode direction ∧
      (seedParam s direction' type).finalShown direction = s.finalShown direction := by
  rw [seedParam]
  split
  next =>
    have hinert : ∀ r ∈ [Request.getParam direction' type], r.Inert :=
      List.forall_mem_singleton.mpr trivial
    exact final_eq_of_inert hinert (requests_send ..) rfl rfl direction rfl
  next => exact ⟨rfl, rfl⟩

/-- A model with the same modes. -/
theorem final_setModel (s : Session) {m : GestureModel} {direction : String}
    (h : (m.dirs direction).mode = (s.model.dirs direction).mode) :
    Session.finalMode { s with model := m } direction = s.finalMode direction ∧
      Session.finalShown { s with model := m } direction = s.finalShown direction :=
  final_eq_of_inert (s := s) (t := { s with model := m }) (List.forall_mem_nil Request.Inert)
    (List.append_nil _).symm rfl rfl direction h

theorem final_setSeeded (s : Session) {direction' direction : String} (h : direction' ≠ direction)
    (type : String) :
    (setSeeded s direction' type).finalMode direction = s.finalMode direction ∧
      (setSeeded s direction' type).finalShown direction = s.finalShown direction :=
  final_setModel s (by rw [dirs_setState, if_neg (Ne.symm h)])

theorem final_setGranularitySeeded (p : Platform) (s : Session) (direction' : String) (r : Reply)
    (direction : String) :
    (setGranularitySeeded p s direction' r).finalMode direction = s.finalMode direction ∧
      (setGranularitySeeded p s direction' r).finalShown direction = s.finalShown direction := by
  cases r with
  | error | done => exact ⟨rfl, rfl⟩
  | number n => exact final_setModel s (mode_setGranularity ..)
  | multiplier x => exact final_setModel s (mode_setGranularity ..)

/-- The reply to a probe is what is going to be shown, or what the probes after it find. -/
theorem finalShown_of_probe {serial typeIdx : Nat} {direction : String} {fires : List Call}
    (h : Orderly s) (hreplies : s.replies =
      ({ serial := serial, request := .probe direction typeIdx, fires := fires }, r) :: replies) :
    s.finalShown direction =
      if r = .error then
        probeFrom (s.finalMode direction) (s.model.dirs direction).mode (typeIdx + 1)
      else seedTypes.getD typeIdx "" := by
  have honly := h.only_probe hreplies direction (by simp [Request.isProbe])
  obtain ⟨hanswers, hrequests⟩ := not_probe_of_queue honly
  have hrequests : ∀ r ∈ s.requests, r.isProbe direction = false := hrequests
  rw [Session.finalShown, foldl_requestStep_of_not_probe hrequests, answers_eq hreplies,
    List.foldl_cons, ← answerStep_probe]
  exact foldl_answerStep_of_not_probe hanswers _

/-- A reply to a probe of the direction makes the model show what was to be expected. -/
theorem final_reply_probe {serial typeIdx : Nat} {direction : String} {fires : List Call}
    (h : Orderly s) (hreplies : s.replies =
      ({ serial := serial, request := .probe direction typeIdx, fires := fires }, r) :: replies) :
    (onReply p { s with replies := replies }
        { serial := serial, request := .probe direction typeIdx, fires := fires } r).finalMode
          direction = s.finalMode direction ∧
      (onReply p { s with replies := replies }
        { serial := serial, request := .probe direction typeIdx, fires := fires } r).finalShown
          direction = s.finalShown direction := by
  have honly := h.only_probe hreplies direction (by simp [Request.isProbe])
  rw [finalShown_of_probe h hreplies]
  simp only [onReply]
  split
  next => exact final_probeDirection_self honly (typeIdx + 1)
  next =>
    obtain ⟨hmode, hseed⟩ := final_seedParam
      (setSeeded { s with replies := replies } direction (seedTypes.getD typeIdx "")) direction
      (seedTypes.getD typeIdx "") direction
    have honly : ∀ w ∈ (setSeeded { s with replies := replies } direction
        (seedTypes.getD typeIdx "")).queue, w.request.isProbe direction = false := honly
    refine ⟨hmode, (hseed.trans (finalShown_of_not_probe honly)).trans ?_⟩
    rw [setSeeded, dirs_setState, if_pos rfl]

/-- The slots of a reply do what was to be expected of them. -/
theorem final_reply (h : Orderly s) (hreplies : s.replies = (w, r) :: replies) (direction : String) :
    (onReply p { s with replies := replies } w r).finalMode direction = s.finalMode direction ∧
      (onReply p { s with replies := replies } w r).finalShown direction =
        s.finalShown direction := by
  have hfires : ∀ c ∈ w.fires, c.IsParam := h.fires w (queue_eq hreplies ▸ List.mem_cons_self)
  obtain ⟨serial, request, fires⟩ := w
  cases request with
  | call c =>
    have hdropped := finalShown_dropReply hreplies direction rfl
    cases c with
    | setGesture direction' type =>
      simp only [onReply]
      split
      next => split <;> exact ⟨rfl, hdropped⟩
      next =>
        obtain ⟨hmode, hshown⟩ := final_foldl_fire hfires direction
        rw [hmode, hshown]
        split <;> exact ⟨rfl, hdropped⟩
    | param direction' type method => exact ⟨rfl, hdropped⟩
  | hop direction' type =>
    have hfired : ∀ c ∈ fires.filter fun c => r ≠ .error ∨ c.unconditional, c.IsParam :=
      fun c hc => hfires c (List.mem_filter.mp hc).1
    obtain ⟨hmode, hshown⟩ := final_foldl_fire hfired direction
    exact ⟨hmode, hshown.trans (finalShown_dropReply hreplies direction rfl)⟩
  | probe direction' typeIdx =>
    by_cases hd : direction' = direction
    · subst hd
      exact final_reply_probe h hreplies
    · have hdropped := finalShown_dropReply hreplies direction
        (by simpa [Request.isProbe] using hd)
      simp only [onReply]
      split
      next =>
        obtain ⟨hmode, hprobe⟩ := final_probeDirection { s with replies := replies } hd (typeIdx + 1)
        exact ⟨hmode, hprobe.trans hdropped⟩
      next =>
        obtain ⟨hmode, hseed⟩ := final_seedParam
          (setSeeded { s with replies := replies } direction' (seedTypes.getD typeIdx ""))
          direction' (seedTypes.getD typeIdx "") direction
        obtain ⟨hmode', hset⟩ := final_setSeeded { s with replies := replies } hd
          (seedTypes.getD typeIdx "")
        exact ⟨hmode.trans hmode', (hseed.trans hset).trans hdropped⟩
  | getParam direction' type =>
    obtain ⟨hmode, hset⟩ := final_setGranularitySeeded p { s with replies := replies } direction' r
      direction
    exact ⟨hmode, hset.trans (finalShown_dropReply hreplies direction rfl)⟩

end Reply

/-! ## Edits -/

theorem final_perform_params {cs : List Call} (hcs : ∀ c ∈ cs, c.IsParam) (direction : String) :
    (cs.foldl perform s).finalMode direction = s.finalMode direction ∧
      (cs.foldl perform s).finalShown direction = s.finalShown direction := by
  induction cs generalizing s with
  | nil => exact ⟨rfl, rfl⟩
  | cons c cs ih =>
    obtain ⟨hc, hrest⟩ := List.forall_mem_cons.mp hcs
    cases c with
    | setGesture direction' type => cases hc
    | param direction' type method =>
      obtain ⟨rs, hrs, hrequests, hanswers, hmodel, hdaemon⟩ :=
        performParamCall_frame s direction' type method
      obtain ⟨hmode, hshown⟩ := final_eq_of_inert hrs hrequests hanswers hdaemon
        direction (by rw [hmodel])
      obtain ⟨hmode', hshown'⟩ := ih hrest
      exact ⟨hmode'.trans hmode, hshown'.trans hshown⟩

/-! ### A new mode -/

theorem countP_queue (s : Session) (direction : String) :
    s.queue.countP (fun w => w.request.isProbe direction) =
      s.answers.countP (fun a => a.1.isProbe direction) +
        s.requests.countP (Request.isProbe direction) := by
  rw [Session.queue, List.countP_append, Session.answers, Session.requests, List.countP_map,
    List.countP_map, List.countP_map]
  rfl

/-- An element that is counted is the only one if there is at most one. -/
theorem not_of_countP_cons {α : Type*} {f : α → Bool} {a : α} {as : List α}
    (h : (a :: as).countP f ≤ 1) (ha : f a = true) : ∀ b ∈ as, f b = false := by
  rw [List.countP_cons, if_pos ha] at h
  have hnone : as.countP f = 0 := by omega
  intro b hb
  simpa using List.countP_eq_zero.mp hnone b hb

theorem countP_le_of_cons {α : Type*} {f : α → Bool} {a : α} {as : List α}
    (h : (a :: as).countP f ≤ 1) : as.countP f ≤ 1 :=
  Nat.le_trans (List.sublist_cons_self a as).countP_le h

/-- Replies leave the mode that has been set, but for one that has found another. -/
theorem foldl_answerStep_self {direction type : String} {as : List (Request × Reply)}
    (h : as.countP (fun a => a.1.isProbe direction) ≤ 1) :
    as.foldl (answerStep type direction) type = type ↔
      ∀ typeIdx r, (.probe direction typeIdx, r) ∈ as → r ≠ .error →
        seedTypes.getD typeIdx "" = type := by
  induction as with
  | nil => simp
  | cons a as ih =>
    have hrest := ih (countP_le_of_cons h)
    rw [List.foldl_cons]
    cases ha : a.1.isProbe direction with
    | false =>
      rw [answerStep_of_not_probe ha, hrest]
      refine forall₂_congr fun typeIdx r => imp_congr_left ?_
      rw [List.mem_cons, or_iff_right]
      rintro rfl
      simp [Request.isProbe] at ha
    | true =>
      have hnone := not_of_countP_cons h ha
      rw [foldl_answerStep_of_not_probe hnone]
      obtain ⟨request, reply⟩ := a
      cases request with
      | call c | hop direction' type' | getParam direction' type' => cases ha
      | probe direction' typeIdx =>
        obtain rfl : direction' = direction := by simpa [Request.isProbe] using ha
        rw [answerStep_probe, probeFrom_self]
        constructor
        · intro hfound typeIdx' r hmem hr
          rcases List.mem_cons.mp hmem with hhead | htail
          · cases hhead
            rwa [if_neg hr] at hfound
          · cases (hnone _ htail).symm.trans ha
        · intro hall
          by_cases hr : reply = .error
          · rw [if_pos hr]
          · rw [if_neg hr]
            exact hall typeIdx reply List.mem_cons_self hr

/-- So do the requests on their way, but for one that the daemon gets to in another mode. -/
theorem foldl_requestStep_self {direction type : String} {rs : List Request}
    (h : rs.countP (Request.isProbe direction) ≤ 1) (mode : String) :
    (rs.foldl (requestStep type direction) (mode, type)).2 = type ↔
      ∀ before typeIdx after, rs = before ++ .probe direction typeIdx :: after →
        before.foldl (modeStep direction) mode = seedTypes.getD typeIdx "" →
          seedTypes.getD typeIdx "" = type := by
  induction rs generalizing mode with
  | nil => simp
  | cons r rs ih =>
    rw [List.foldl_cons]
    cases hr : r.isProbe direction with
    | false =>
      have hstep : requestStep type direction (mode, type) r = (modeStep direction mode r, type) :=
        Prod.ext (requestStep_fst ..) (requestStep_snd_of_not_probe hr _)
      rw [hstep, ih (countP_le_of_cons h)]
      constructor
      · intro hall before typeIdx after hrs hmode
        cases before with
        | nil =>
          rw [List.nil_append, List.cons.injEq] at hrs
          simp [hrs.1, Request.isProbe] at hr
        | cons r' before =>
          rw [List.cons_append, List.cons.injEq] at hrs
          obtain ⟨rfl, hrs⟩ := hrs
          exact hall before typeIdx after hrs hmode
      · intro hall before typeIdx after hrs hmode
        apply hall (r :: before) typeIdx after
        · rw [hrs, List.cons_append]
        · exact hmode
    | true =>
      have hnone := not_of_countP_cons h hr
      rw [foldl_requestStep_of_not_probe hnone]
      cases r with
      | call c | hop direction' type' | getParam direction' type' => cases hr
      | probe direction' typeIdx =>
        obtain rfl : direction' = direction := by simpa [Request.isProbe] using hr
        rw [requestStep, if_pos rfl, probeFrom_self]
        constructor
        · intro hfound before typeIdx' after hrs hmode
          cases before with
          | nil =>
            rw [List.nil_append, List.cons.injEq] at hrs
            obtain ⟨hprobe, -⟩ := hrs
            cases hprobe
            have hmode : mode = seedTypes.getD typeIdx "" := hmode
            simp only [if_pos hmode] at hfound
            rw [← hmode, hfound]
          | cons r' before =>
            rw [List.cons_append, List.cons.injEq] at hrs
            have hmem : Request.probe direction' typeIdx' ∈ rs := by simp [hrs.2]
            cases (hnone _ hmem).symm.trans hr
        · intro hall
          split
          next hmode =>
            have hfound := hall [] typeIdx rs rfl hmode
            exact hmode.trans hfound
          next => rfl

/-- The model goes on showing a mode that has been set exactly if no probe finds another. -/
theorem finalShown_eq_iff {direction type : String} (h : Orderly s)
    (hfinal : s.finalMode direction = type) (hmode : (s.model.dirs direction).mode = type) :
    s.finalShown direction = type ↔ ∀ type', s.Finds direction type' → type' = type := by
  have hsingle := h.single direction
  rw [countP_queue] at hsingle
  rw [Session.finalShown, hfinal, hmode]
  by_cases hanswers : s.answers.countP (fun a => a.1.isProbe direction) = 0
  · have hnone : ∀ a ∈ s.answers, a.1.isProbe direction = false := by
      simpa [List.countP_eq_zero] using hanswers
    rw [foldl_answerStep_of_not_probe hnone, foldl_requestStep_self (by omega)]
    constructor
    · intro hall type' hfinds
      obtain ⟨typeIdx, rfl, ⟨r, -, hmem⟩ | ⟨before, after, hrs, hfound⟩⟩ := hfinds
      · have hprobe := hnone _ hmem
        simp [Request.isProbe] at hprobe
      · exact hall before typeIdx after hrs hfound
    · intro hall before typeIdx after hrs hfound
      exact hall _ ⟨typeIdx, rfl, .inr ⟨before, after, hrs, hfound⟩⟩
  · have hnone : ∀ r ∈ s.requests, r.isProbe direction = false := by
      have hzero : s.requests.countP (Request.isProbe direction) = 0 := by omega
      simpa [List.countP_eq_zero] using hzero
    rw [foldl_requestStep_of_not_probe hnone, foldl_answerStep_self (by omega)]
    constructor
    · intro hall type' hfinds
      obtain ⟨typeIdx, rfl, ⟨r, hr, hmem⟩ | ⟨before, after, hrs, -⟩⟩ := hfinds
      · exact hall typeIdx r hmem hr
      · have hprobe := hnone (.probe direction typeIdx) (by simp [hrs])
        simp [Request.isProbe] at hprobe
    · intro hall typeIdx r hmem hr
      exact hall _ ⟨typeIdx, rfl, .inl ⟨r, hr, hmem⟩⟩

theorem append_singleton_eq_iff {α : Type*} {l before after : List α} {x y : α} (h : y ≠ x) :
    l ++ [x] = before ++ y :: after ↔ ∃ after', after = after' ++ [x] ∧ l = before ++ y :: after' := by
  constructor
  · intro heq
    rcases List.eq_nil_or_concat' after with rfl | ⟨after', z, rfl⟩
    · obtain ⟨-, hlast⟩ := List.append_inj' heq rfl
      cases hlast
      exact absurd rfl h
    · rw [← List.cons_append, ← List.append_assoc] at heq
      obtain ⟨hl, hlast⟩ := List.append_inj' heq rfl
      cases hlast
      exact ⟨after', rfl, hl⟩
  · rintro ⟨after', rfl, rfl⟩
    rw [List.append_assoc, List.cons_append]

/-- A `SetGesture` that is sent comes after the probes. -/
theorem finds_append {direction type direction' type' : String}
    (hrequests : t.requests = s.requests ++ [.call (.setGesture direction' type')])
    (hanswers : t.answers = s.answers) (hdaemon : t.daemon = s.daemon) :
    t.Finds direction type ↔ s.Finds direction type := by
  have hprobe : ∀ typeIdx, Request.probe direction typeIdx ≠ .call (.setGesture direction' type') :=
    by simp
  rw [Session.Finds, Session.Finds, hrequests, hanswers, hdaemon]
  refine exists_congr fun typeIdx => and_congr_right fun _ => or_congr_right ?_
  simp only [append_singleton_eq_iff (hprobe typeIdx)]
  constructor
  · rintro ⟨before, after, ⟨after', -, hrs⟩, hfound⟩
    exact ⟨before, after', hrs, hfound⟩
  · rintro ⟨before, after, hrs, hfound⟩
    exact ⟨before, _, ⟨after, rfl, hrs⟩, hfound⟩

theorem final_performSetGesture (s : Session) (direction type : String) :
    (performSetGesture s direction type).finalMode direction = type ∧
      ∀ direction', direction' ≠ direction →
        (performSetGesture s direction type).finalMode direction' = s.finalMode direction' ∧
          (performSetGesture s direction type).finalShown direction' = s.finalShown direction' := by
  have hrequests : (performSetGesture s direction type).requests =
      s.requests ++ [.call (.setGesture direction type)] := requests_send ..
  constructor
  · rw [Session.finalMode, hrequests, List.foldl_append]
    exact if_pos rfl
  · intro direction' hd
    have hmode : (performSetGesture s direction type).finalMode direction' =
        s.finalMode direction' := by
      rw [Session.finalMode, hrequests, List.foldl_append]
      exact if_neg (Ne.symm hd)
    refine ⟨hmode, ?_⟩
    rw [Session.finalShown, hmode, hrequests, List.foldl_append]
    rfl

/-- The modes are going to agree. -/
def Session.Agreed (s : Session) : Prop :=
  ∀ d : Direction, d ≠ .none → s.finalShown d.name = s.finalMode d.name

/-- An edit keeps the modes agreed exactly if it is timely. -/
theorem agreed_edit {e : Edit} (h : Orderly s) (hagreed : s.Agreed)
    (hstep : sessionStep p s (.edit e) = some t) : t.Agreed ↔ Timely s (.edit e) := by
  have horderly := h.edit hstep
  obtain ⟨⟨m, calls⟩, hedit, rfl⟩ := Option.map_eq_some_iff.mp (show editLive s e = some t from hstep)
  cases edited hedit with
  | @mode direction plainMode type st hcardinal hmapped hmode hplain =>
    have horderly : Orderly (performSetGesture { s with model := s.model.setState direction st }
        direction type) := horderly
    obtain ⟨hself, hothers⟩ := final_performSetGesture
      { s with model := s.model.setState direction st } direction type
    have hshown := finalShown_eq_iff horderly hself (by
      rw [performSetGesture, model_send, dirs_setState, if_pos rfl, hmode])
    have hfinds : ∀ type', Session.Finds (performSetGesture
        { s with model := s.model.setState direction st } direction type) direction type' ↔
          s.Finds direction type' :=
      fun type' => finds_append (requests_send ..) rfl rfl
    simp only [hfinds] at hshown
    have htimely : Timely s (.edit (.mode direction plainMode)) ↔
        ∀ type', s.Finds direction type' → type' = type := by
      simp only [Timely, hmapped, Option.some_inj, eq_comm]
    rw [htimely, ← hshown]
    obtain ⟨d, hd, rfl⟩ := isCardinal_name hcardinal
    constructor
    · intro hagreed'
      exact (hagreed' d hd).trans hself
    · intro hd' e he
      by_cases hname : e = d
      · subst hname
        exact hd'.trans hself.symm
      · have hed : e.name ≠ d.name := fun h => hname (Direction.name_injective h)
        obtain ⟨hmode', hshown'⟩ := hothers e.name hed
        have hkept : ((s.model.setState d.name st).dirs e.name).mode =
            (s.model.dirs e.name).mode := by rw [dirs_setState, if_neg hed]
        obtain ⟨hmode'', hshown''⟩ := final_setModel s hkept
        exact (hshown'.trans hshown'').trans ((hagreed e he).trans (hmode'.trans hmode'').symm)
  | param other params kept =>
    have htimely : Timely s (.edit e) := by
      cases e with
      | mode direction plainMode => exact absurd rfl (other direction plainMode)
      | granularity direction rawValue | action direction actionType
        | keypress direction evdevNames => trivial
    refine iff_of_true ?_ htimely
    intro d hd
    obtain ⟨hmode, hshown⟩ := final_perform_params (s := { s with model := m })
      (fun c hc => (params c hc).isParam) d.name
    obtain ⟨hmode', hshown'⟩ := final_setModel s (kept d.name).1
    exact (hshown.trans hshown').trans ((hagreed d hd).trans (hmode.trans hmode').symm)

/-! ## Runs -/

/-- The steps of the daemon and of the replies keep what the session is going to. -/
theorem final_of_not_edit {e : Event} (he : ¬e.IsEdit) (h : Orderly s)
    (hstep : sessionStep p s e = some t) (d : Direction) :
    t.finalMode d.name = s.finalMode d.name ∧ t.finalShown d.name = s.finalShown d.name := by
  cases e with
  | edit e => exact absurd trivial he
  | carryOut => exact final_carryOut h hstep d
  | reply =>
    rw [sessionStep] at hstep
    split at hstep
    next => cases hstep
    next w r replies hreplies =>
      cases hstep
      exact final_reply h hreplies d.name

theorem modesAgree_iff_of_idle (h : Orderly s) (hidle : s.Idle) : s.ModesAgree ↔ s.Agreed := by
  have hrequests : s.requests = [] := by rw [Session.requests, hidle.1, List.map_nil]
  have hanswers : s.answers = [] := by rw [Session.answers, hidle.2, List.map_nil]
  refine forall₂_congr fun d _ => ?_
  rw [Session.finalShown, Session.finalMode, hrequests, hanswers]
  exact and_iff_left (h.plain d.name)

theorem settles_iff (p : Platform) (config : Config.GestureAction) (h : Orderly s) :
    Settles p config s ↔ s.Agreed := by
  have hrun : ∀ es t, (∀ e ∈ es, ¬e.IsEdit) → (session p config).run s es = some t →
      Orderly t ∧ (t.Agreed ↔ s.Agreed) := by
    intro es t hes hrun
    refine Machine.run_invariant_of (F := fun e => ¬Event.IsEdit e)
      (I := fun t => Orderly t ∧ (t.Agreed ↔ s.Agreed)) ?_ hes ⟨h, Iff.rfl⟩ hrun
    intro s' e t' he hs' hstep
    have hfinal := final_of_not_edit he hs'.1 hstep
    refine ⟨hs'.1.step hstep, Iff.trans ?_ hs'.2⟩
    refine forall₂_congr fun d _ => ?_
    rw [(hfinal d).1, (hfinal d).2]
  constructor
  · intro hsettles
    obtain ⟨es, t, hes, ht, hidle⟩ := exists_idle p config s
    obtain ⟨horderly, hiff⟩ := hrun es t hes ht
    exact hiff.mp ((modesAgree_iff_of_idle horderly hidle).mp (hsettles es t hes ht hidle))
  · intro hagreed es t hes ht hidle
    obtain ⟨horderly, hiff⟩ := hrun es t hes ht
    exact (modesAgree_iff_of_idle horderly hidle).mpr (hiff.mpr hagreed)

theorem configuredMode_mem (config : Config.GestureAction) (d : Direction) :
    configuredMode config d.name ∈ seedTypes ∨ configuredMode config d.name = "" := by
  rw [configuredMode_name]
  cases Actions.GestureAction.entry config d with
  | none => exact .inr rfl
  | some g => cases g <;> exact .inl (by simp [Actions.Gesture.interfaceName, seedTypes])

/-- The probes of the constructor find what is configured. -/
theorem agreed_init (config : Config.GestureAction) : (seedFromDaemon config).Agreed := by
  intro d hd
  have hmode : (seedFromDaemon config).finalMode d.name = configuredMode config d.name := rfl
  have hshown : (seedFromDaemon config).finalShown d.name =
      probeFrom (configuredMode config d.name) "" 0 := by
    rw [probeFrom_step (by decide), Session.finalShown, hmode]
    cases d with
    | none => exact absurd rfl hd
    | up | down | left | right => rfl
  rw [hmode, hshown, probeFrom, List.drop_zero]
  rcases configuredMode_mem config d with hmem | hempty
  · rw [if_pos hmem]
  · rw [hempty, ite_self]

/-- From the constructor on, whatever the edits and whenever the daemon and the replies come to it, the
modes settle in agreement exactly as long as no new mode is set for a direction while a probe of it
finds another. -/
theorem modes_settle_iff (p : Platform) (config : Config.GestureAction) (es : List Event) :
    (session p config).Always (Settles p config) (session p config).init es ↔
      (session p config).Meets Timely (session p config).init es := by
  have hiff : ∀ s e t, Orderly s → Settles p config s → (session p config).step s e = some t →
      (Settles p config t ↔ Timely s e) := by
    intro s e t horderly hsettles hstep
    have hstep : sessionStep p s e = some t := hstep
    have hagreed := (settles_iff p config horderly).mp hsettles
    rw [settles_iff p config (horderly.step hstep)]
    by_cases he : e.IsEdit
    · cases e with
      | edit e => exact agreed_edit horderly hagreed hstep
      | carryOut | reply => cases he
    · have hfinal := final_of_not_edit he horderly hstep
      have htimely : Timely s e := by
        cases e with
        | edit e => exact absurd trivial he
        | carryOut | reply => trivial
      refine iff_of_true (fun d hd => ?_) htimely
      rw [(hfinal d).1, (hfinal d).2]
      exact hagreed d hd
  refine Machine.always_iff_meets (fun s e t horderly _ hstep _ => horderly.step hstep) hiff
    (orderly_init config) ?_
  exact (settles_iff p config (orderly_init config)).mpr (agreed_init config)

end Logid.Gui.GestureModel
