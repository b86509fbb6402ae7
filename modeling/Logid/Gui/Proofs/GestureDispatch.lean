import Logid.Gui.GestureDispatch
import Logid.Gui.Proofs.Gestures

/-!
# What a session of the gesture model keeps

The calls of the edits on the entries of the daemon, the order of what is on its way, and that without
further edits every reply arrives.
-/

namespace Logid.Gui.GestureModel

open Actions (Direction)

variable {p : Platform} {config : Config.GestureAction} {s t : Session} {d : Direction}

/-! ## The daemon -/

theorem interfaceAt_name (config : Config.GestureAction) (d : Direction) :
    interfaceAt config d.name =
      (Actions.GestureAction.entry config d).map Actions.Gesture.interfaceName := by
  simp only [interfaceAt, nodeDirection_name, Option.bind_eq_bind, Option.bind_some, Option.pure_def]
  cases Actions.GestureAction.entry config d <;> rfl

theorem interfaceAt_eq_some_iff {direction type : String} (htype : type ≠ "") :
    interfaceAt config direction = some type ↔ configuredMode config direction = type := by
  rw [configuredMode]
  cases interfaceAt config direction with
  | none => simp [htype.symm]
  | some mode => simp

/-- A method on the interface of a gesture keeps it a gesture of the interface. -/
theorem interfaceName_run {method : Param} {g g' : Config.Gesture} (h : method.run g = some g') :
    Actions.Gesture.interfaceName g' = Actions.Gesture.interfaceName g := by
  cases method with
  | setInterval interval =>
    cases g with
    | interval g | fewPixels g =>
      cases h
      rfl
    | none g | axis g | release g | threshold g => cases h
  | setThreshold threshold =>
    cases g with
    | none g => cases h
    | axis g | interval g | fewPixels g | release g | threshold g =>
      cases h
      rfl
  | setMultiplier multiplier =>
    cases g with
    | axis g =>
      cases h
      rfl
    | none g | interval g | fewPixels g | release g | threshold g => cases h
  | setAction type =>
    obtain ⟨value, -, hwith⟩ := run_setAction h
    exact (withAction_spec hwith).1
  | setKeys keys =>
    simp only [Param.run, Actions.Gesture.setKeys] at h
    split at h
    next => exact (withAction_spec h).1
    next => cases h

/-- What a call does to the entry of a direction. -/
def Call.act (d : Direction) (g : Option Config.Gesture) : Call → Option Config.Gesture
  | .setGesture direction type => if direction = d.name then Actions.Gesture.ofType type else g
  | .param direction type method =>
    if direction = d.name then
      g.map fun g =>
        if method.onGesture ∧ Actions.Gesture.interfaceName g ≠ type then g
        else (method.run g).getD g
    else g

/-- A call that the model makes: of a direction that it edits, and for a mode that the daemon knows. -/
def Call.Valid : Call → Prop
  | .setGesture direction type => isCardinal direction = true ∧ type ∈ seedTypes
  | .param direction _ _ => isCardinal direction = true

theorem ofType_of_mem {type : String} (h : type ∈ seedTypes) :
    ∃ g, Actions.Gesture.ofType type = some g ∧ Actions.Gesture.interfaceName g = type := by
  simp only [seedTypes, List.mem_cons, List.not_mem_nil, or_false] at h
  rcases h with rfl | rfl | rfl | rfl <;> exact ⟨_, rfl, rfl⟩

theorem mem_seedTypes {plainMode type : String} (h : mapMode plainMode = some type) :
    type ∈ seedTypes := by
  unfold mapMode at h
  split at h <;> cases h <;> decide

theorem ne_empty_of_mem {type : String} (h : type ∈ seedTypes) : type ≠ "" := by
  rintro rfl
  revert h
  decide

/-- `SetGesture` for one of the modes succeeds. -/
theorem setGesture_of_valid (config : Config.GestureAction) {direction type : String}
    (h : (Call.setGesture direction type).Valid) :
    (Actions.GestureAction.setGesture config direction type).2 = true := by
  obtain ⟨d, -, rfl⟩ := isCardinal_name h.1
  obtain ⟨g, hg, -⟩ := ofType_of_mem h.2
  simp [Actions.GestureAction.setGesture, Direction.ofName_name, hg]

theorem run_param_name (config : Config.GestureAction) (d : Direction) (type : String)
    (method : Param) :
    Call.run config (.param d.name type method) =
      (Actions.GestureAction.entry config d).bind fun g =>
        if method.onGesture ∧ Actions.Gesture.interfaceName g ≠ type then none
        else (method.run g).map (Actions.GestureAction.modifyEntry config d) := by
  simp only [Call.run, nodeDirection_name, Option.bind_eq_bind, Option.bind_some, Option.pure_def]
  congr 1
  funext g
  split
  next => rfl
  next => cases method.run g <;> rfl

theorem entry_carryOut {c : Call} (hc : c.Valid) (d : Direction) :
    Actions.GestureAction.entry (c.carryOut config).1 d =
      c.act d (Actions.GestureAction.entry config d) := by
  cases c with
  | setGesture direction type =>
    have hsucceeds := setGesture_of_valid config hc
    obtain ⟨e, he, rfl⟩ := isCardinal_name hc.1
    obtain ⟨g, hg, hentry⟩ := Actions.GestureAction.entry_setGesture he (Prod.ext rfl hsucceeds)
    rw [Call.carryOut, hentry, Call.act, hg]
    by_cases hed : e = d
    · simp [hed]
    · rw [if_neg hed, if_neg fun h => hed (Direction.name_injective h)]
  | param direction type method =>
    obtain ⟨e, he, rfl⟩ := isCardinal_name hc
    have hconfig : (Call.carryOut config (.param e.name type method)).1 =
        (Call.run config (.param e.name type method)).getD config := by
      rw [Call.carryOut]
      cases Call.run config (.param e.name type method) <;> rfl
    rw [hconfig, Call.act]
    by_cases hed : e = d
    · subst hed
      rw [if_pos rfl, run_param_name]
      cases hg : Actions.GestureAction.entry config e with
      | none => exact hg
      | some g =>
        rw [Option.bind_some, Option.map_some]
        split
        next => exact hg
        next =>
          cases method.run g with
          | none => exact hg
          | some g' =>
            rw [Option.map_some, Option.getD_some, Actions.GestureAction.entry_modifyEntry hg,
              if_pos rfl, Option.getD_some]
    · rw [if_neg fun h => hed (Direction.name_injective h)]
      cases hrun : Call.run config (.param e.name type method) with
      | none => rfl
      | some config' =>
        obtain ⟨g, g', -, -, hentry⟩ := run_param hrun
        rw [Option.getD_some, hentry, if_neg hed]

theorem configuredMode_name (config : Config.GestureAction) (d : Direction) :
    configuredMode config d.name =
      ((Actions.GestureAction.entry config d).map Actions.Gesture.interfaceName).getD "" := by
  rw [configuredMode, interfaceAt_name]

theorem configuredMode_carryOut {c : Call} (hc : c.Valid) (d : Direction) :
    configuredMode (c.carryOut config).1 d.name =
      modeStep d.name (configuredMode config d.name) (.call c) := by
  rw [configuredMode_name, configuredMode_name, entry_carryOut hc]
  cases c with
  | setGesture direction type =>
    obtain ⟨g, hg, hname⟩ := ofType_of_mem hc.2
    rw [Call.act, modeStep]
    split
    next => rw [hg, Option.map_some, hname, Option.getD_some]
    next => rfl
  | param direction type method =>
    have hsame : ∀ mode, modeStep d.name mode (.call (.param direction type method)) = mode :=
      fun _ => rfl
    rw [Call.act, hsame]
    split
    next =>
      cases Actions.GestureAction.entry config d with
      | none => rfl
      | some g =>
        simp only [Option.map_some, Option.getD_some]
        split
        next => rfl
        next =>
          cases hrun : method.run g with
          | none => rfl
          | some g' => exact interfaceName_run hrun
    next => rfl

/-! ## Sending -/

/-- A request of the model. -/
def Request.Valid : Request → Prop
  | .call c => c.Valid
  | .hop direction type => isCardinal direction = true ∧ type ≠ ""
  | .probe _ typeIdx => typeIdx < seedTypes.length
  | .getParam _ _ => True

def Request.isProbe (direction : String) : Request → Bool
  | .probe direction' _ => direction' == direction
  | _ => false

@[simp] theorem requests_send (s : Session) (r : Request) (fires : List Call) :
    (send s r fires).requests = s.requests ++ [r] := by
  simp [send, Session.requests]

@[simp] theorem answers_send (s : Session) (r : Request) (fires : List Call) :
    (send s r fires).answers = s.answers := rfl

@[simp] theorem model_send (s : Session) (r : Request) (fires : List Call) :
    (send s r fires).model = s.model := rfl

@[simp] theorem daemon_send (s : Session) (r : Request) (fires : List Call) :
    (send s r fires).daemon = s.daemon := rfl

theorem request_connect (serial : Nat) (c : Call) (w : Watcher) :
    (w.connect serial c).request = w.request := by
  rw [Watcher.connect]
  split <;> rfl

@[simp] theorem requests_connect (s : Session) (serial : Nat) (c : Call) :
    (connect s serial c).requests = s.requests := by
  simp [connect, Session.requests, Function.comp_def, request_connect]

@[simp] theorem answers_connect (s : Session) (serial : Nat) (c : Call) :
    (connect s serial c).answers = s.answers := by
  simp [connect, Session.answers, Function.comp_def, request_connect]

/-- A call that waits for a hop. -/
def Call.IsParam : Call → Prop
  | .setGesture _ _ => False
  | .param direction type _ => isCardinal direction = true ∧ type ≠ ""

theorem Call.IsParam.valid {c : Call} (h : c.IsParam) : c.Valid := by
  cases c with
  | setGesture direction type => cases h
  | param direction type method => exact h.1

/-- What every session keeps. -/
structure Orderly (s : Session) : Prop where
  requests : ∀ w ∈ s.queue, w.request.Valid
  fires : ∀ w ∈ s.queue, ∀ c ∈ w.fires, c.IsParam
  single : ∀ direction, s.queue.countP (fun w => w.request.isProbe direction) ≤ 1
  plain : ∀ direction,
    (s.model.dirs direction).plainMode = plainModeForType (s.model.dirs direction).mode

theorem queue_send (s : Session) (r : Request) (fires : List Call) :
    (send s r fires).queue = s.queue ++ [{ serial := s.made, request := r, fires := fires }] := by
  simp [send, Session.queue]

theorem queue_connect (s : Session) (serial : Nat) (c : Call) :
    (connect s serial c).queue = s.queue.map (Watcher.connect serial c) := by
  simp [connect, Session.queue, Function.comp_def]

theorem Orderly.send (h : Orderly s) {r : Request} {fires : List Call} (hr : r.Valid)
    (hfires : ∀ c ∈ fires, c.IsParam)
    (hsingle : ∀ direction, r.isProbe direction = true →
      ∀ w ∈ s.queue, w.request.isProbe direction = false) :
    Orderly (send s r fires) where
  requests w hw := by
    rw [queue_send, List.mem_append, List.mem_singleton] at hw
    rcases hw with hw | rfl
    · exact h.requests w hw
    · exact hr
  fires w hw := by
    rw [queue_send, List.mem_append, List.mem_singleton] at hw
    rcases hw with hw | rfl
    · exact h.fires w hw
    · exact hfires
  single direction := by
    rw [queue_send, List.countP_append, List.countP_singleton]
    split
    next hprobe =>
      have hnone : s.queue.countP (fun w => w.request.isProbe direction) = 0 := by
        rw [List.countP_eq_zero]
        intro w hw
        simp [hsingle direction hprobe w hw]
      omega
    next => exact h.single direction
  plain := h.plain

theorem Orderly.connect (h : Orderly s) (serial : Nat) {c : Call} (hc : c.IsParam) :
    Orderly (connect s serial c) where
  requests w hw := by
    rw [queue_connect] at hw
    obtain ⟨w', hw', rfl⟩ := List.mem_map.mp hw
    rw [request_connect]
    exact h.requests w' hw'
  fires w hw := by
    rw [queue_connect] at hw
    obtain ⟨w', hw', rfl⟩ := List.mem_map.mp hw
    intro c' hc'
    rw [Watcher.connect] at hc'
    split at hc'
    next =>
      rcases List.mem_append.mp hc' with hold | hnew
      · exact h.fires w' hw' c' hold
      · rw [List.mem_singleton.mp hnew]
        exact hc
    next => exact h.fires w' hw' c' hc'
  single direction := by
    rw [queue_connect, List.countP_map]
    simp only [Function.comp_def, request_connect]
    exact h.single direction
  plain := h.plain

theorem Orderly.setPending (h : Orderly s) (pending : String → Option Nat) :
    Orderly { s with pending := pending } :=
  ⟨h.requests, h.fires, h.single, h.plain⟩

theorem Orderly.fire (h : Orderly s) {c : Call} (hc : c.IsParam) : Orderly (fire s c) :=
  h.send hc.valid (List.forall_mem_nil _) fun _ hprobe => by cases hprobe

theorem Orderly.foldl_fire (h : Orderly s) {cs : List Call} (hcs : ∀ c ∈ cs, c.IsParam) :
    Orderly (cs.foldl GestureModel.fire s) := by
  induction cs generalizing s with
  | nil => exact h
  | cons c cs ih =>
    obtain ⟨hc, hcs⟩ := List.forall_mem_cons.mp hcs
    exact ih (h.fire hc) hcs

/-- What calls that are fired leave as it was. -/
theorem foldl_fire_frame (s : Session) (cs : List Call) :
    (cs.foldl fire s).requests = s.requests ++ cs.map Request.call ∧
      (cs.foldl fire s).answers = s.answers ∧ (cs.foldl fire s).model = s.model ∧
      (cs.foldl fire s).daemon = s.daemon := by
  induction cs generalizing s with
  | nil => simp
  | cons c cs ih =>
    obtain ⟨hrequests, hanswers, hmodel, hdaemon⟩ := ih (fire s c)
    refine ⟨?_, hanswers, hmodel, hdaemon⟩
    rw [List.foldl_cons, hrequests, fire, requests_send, List.map_cons, List.append_assoc,
      List.singleton_append]

theorem requests_eq {w : Watcher} {calls : List Watcher} (h : s.calls = w :: calls) :
    s.requests = w.request :: calls.map Watcher.request := by
  rw [Session.requests, h, List.map_cons]

theorem answers_eq {w : Watcher} {r : Reply} {replies : List (Watcher × Reply)}
    (h : s.replies = (w, r) :: replies) :
    s.answers = (w.request, r) :: replies.map fun r => (r.1.request, r.2) := by
  rw [Session.answers, h, List.map_cons]

/-! ## Steps -/

section Reply

variable {w : Watcher} {r : Reply} {replies : List (Watcher × Reply)}

theorem queue_eq (h : s.replies = (w, r) :: replies) :
    s.queue = w :: Session.queue { s with replies := replies } := by
  rw [Session.queue, h, List.map_cons, List.cons_append]
  rfl

theorem Orderly.dropReply (h : Orderly s) (hreplies : s.replies = (w, r) :: replies) :
    Orderly { s with replies := replies } where
  requests w' hw' := h.requests w' (queue_eq hreplies ▸ List.mem_cons_of_mem w hw')
  fires w' hw' := h.fires w' (queue_eq hreplies ▸ List.mem_cons_of_mem w hw')
  single direction := by
    have hsingle := h.single direction
    rw [queue_eq hreplies, List.countP_cons] at hsingle
    omega
  plain := h.plain

/-- The reply to a probe is the only one that is awaited of the direction. -/
theorem Orderly.only_probe (h : Orderly s) (hreplies : s.replies = (w, r) :: replies)
    (direction : String) (hw : w.request.isProbe direction = true) :
    ∀ w' ∈ Session.queue { s with replies := replies }, w'.request.isProbe direction = false := by
  have hsingle := h.single direction
  rw [queue_eq hreplies, List.countP_cons, if_pos hw] at hsingle
  have hnone : (Session.queue { s with replies := replies }).countP
      (fun w => w.request.isProbe direction) = 0 := by
    omega
  intro w' hw'
  simpa using List.countP_eq_zero.mp hnone w' hw'

theorem dirs_setState (m : GestureModel) (direction' direction : String) (st : DirectionState) :
    (m.setState direction' st).dirs direction =
      if direction = direction' then st else m.dirs direction :=
  Function.update_apply ..

theorem mode_setGranularity (m : GestureModel) (direction' direction : String) (g : Int32) :
    ((m.setState direction' { m.dirs direction' with granularity := g }).dirs direction).mode =
      (m.dirs direction).mode := by
  rw [dirs_setState]
  split
  next hd => rw [hd]
  next => rfl

theorem Orderly.carryOut (h : Orderly s) (hstep : sessionStep p s .carryOut = some t) :
    Orderly t := by
  rw [sessionStep] at hstep
  split at hstep
  next => cases hstep
  next w calls hcalls =>
    have hqueue : t.queue = s.queue := by
      cases hstep
      simp [Session.queue, hcalls]
    have hmodel : t.model = s.model := by
      cases hstep
      rfl
    exact ⟨hqueue ▸ h.requests, hqueue ▸ h.fires, hqueue ▸ h.single, hmodel ▸ h.plain⟩

theorem Orderly.setModel (h : Orderly s) {m : GestureModel}
    (hm : ∀ direction, (m.dirs direction).plainMode = plainModeForType (m.dirs direction).mode) :
    Orderly { s with model := m } :=
  ⟨h.requests, h.fires, h.single, hm⟩

theorem Orderly.probeDirection (h : Orderly s) {direction : String}
    (honly : ∀ w ∈ s.queue, w.request.isProbe direction = false) (typeIdx : Nat) :
    Orderly (probeDirection s direction typeIdx) := by
  rw [GestureModel.probeDirection]
  split
  next hlt =>
    refine h.send hlt (List.forall_mem_nil _) fun direction' hprobe => ?_
    obtain rfl : direction = direction' := by simpa [Request.isProbe] using hprobe
    exact honly
  next => exact h

theorem Orderly.seedParam (h : Orderly s) (direction type : String) :
    Orderly (seedParam s direction type) := by
  rw [GestureModel.seedParam]
  split
  next => exact h.send trivial (List.forall_mem_nil _) fun _ hprobe => by cases hprobe
  next => exact h

theorem Orderly.setState (h : Orderly s) (direction : String) {st : DirectionState}
    (hst : st.plainMode = plainModeForType st.mode) :
    Orderly { s with model := s.model.setState direction st } := by
  refine h.setModel fun direction' => ?_
  rw [dirs_setState]
  split
  next => exact hst
  next => exact h.plain direction'

theorem Orderly.reply (h : Orderly s) (hreplies : s.replies = (w, r) :: replies) :
    Orderly (onReply p { s with replies := replies } w r) := by
  have hdrop := h.dropReply hreplies
  have hfires : ∀ c ∈ w.fires, c.IsParam := h.fires w (queue_eq hreplies ▸ List.mem_cons_self)
  obtain ⟨serial, request, fires⟩ := w
  cases request with
  | call c =>
    cases c with
    | setGesture direction type =>
      simp only [onReply]
      split
      next =>
        split
        next => exact hdrop.setPending _
        next => exact hdrop
      next =>
        apply Orderly.foldl_fire _ hfires
        split
        next => exact hdrop.setPending _
        next => exact hdrop
    | param direction type method => exact hdrop
  | hop direction type => exact hdrop.foldl_fire fun c hc => hfires c (List.mem_filter.mp hc).1
  | probe direction typeIdx =>
    simp only [onReply]
    split
    next =>
      apply hdrop.probeDirection
      exact h.only_probe hreplies direction (by simp [Request.isProbe])
    next => exact (hdrop.setState direction rfl).seedParam _ _
  | getParam direction type =>
    cases r with
    | error | done => exact hdrop
    | number n => exact hdrop.setState direction (h.plain direction)
    | multiplier x => exact hdrop.setState direction (h.plain direction)

end Reply

/-! ## Edits -/

/-- A call of a parameter for the mode that the model shows. -/
def Call.ForMode (m : GestureModel) : Call → Prop
  | .setGesture _ _ => False
  | .param direction type _ =>
    isCardinal direction = true ∧ type = (m.dirs direction).mode ∧ type ≠ ""

theorem Call.ForMode.isParam {m : GestureModel} {c : Call} (h : c.ForMode m) : c.IsParam := by
  cases c with
  | setGesture direction type => cases h
  | param direction type method => exact ⟨h.1, h.2.2⟩

/-- The calls of an edit, and what it changes of the modes. -/
inductive Edited (m : GestureModel) : Edit → GestureModel → List Call → Prop where
  | mode {direction plainMode type : String} {st : DirectionState}
      (cardinal : isCardinal direction = true) (mapped : mapMode plainMode = some type)
      (mode : st.mode = type) (plain : st.plainMode = plainMode) :
      Edited m (.mode direction plainMode) (m.setState direction st) [.setGesture direction type]
  | param {e : Edit} {m' : GestureModel} {calls : List Call}
      (other : ∀ direction plainMode, e ≠ .mode direction plainMode)
      (params : ∀ c ∈ calls, Call.ForMode m c)
      (kept : ∀ direction, (m'.dirs direction).mode = (m.dirs direction).mode ∧
        (m'.dirs direction).plainMode = (m.dirs direction).plainMode) :
      Edited m e m' calls

theorem kept_setState {m : GestureModel} {direction : String} {st : DirectionState}
    (hmode : st.mode = (m.dirs direction).mode)
    (hplain : st.plainMode = (m.dirs direction).plainMode) (direction' : String) :
    ((m.setState direction st).dirs direction').mode = (m.dirs direction').mode ∧
      ((m.setState direction st).dirs direction').plainMode = (m.dirs direction').plainMode := by
  rw [dirs_setState]
  split
  next heq =>
    subst heq
    exact ⟨hmode, hplain⟩
  next => exact ⟨rfl, rfl⟩

theorem ne_empty_of_discrete {mode : String} (h : discrete mode = true) : mode ≠ "" := by
  rintro rfl
  revert h
  decide

theorem edited {m m' : GestureModel} {e : Edit} {calls : List Call}
    (h : m.edit e = some (m', calls)) : Edited m e m' calls := by
  cases e with
  | mode direction plainMode =>
    simp only [edit, setMode] at h
    split at h
    next hcardinal =>
      obtain ⟨type, htype, heq⟩ := Option.map_eq_some_iff.mp h
      cases heq
      apply Edited.mode hcardinal htype
      · split <;> rfl
      · split <;> rfl
    next => cases h
  | granularity direction rawValue =>
    simp only [edit, setGranularity] at h
    split at h
    next hvalid =>
      obtain ⟨method, hmethod, heq⟩ := Option.map_eq_some_iff.mp h
      cases heq
      have hmode : (m.dirs direction).mode ≠ "" := by
        intro hempty
        rw [hempty] at hmethod
        cases hmethod
      refine Edited.param (by simp) ?_ (kept_setState rfl rfl)
      exact List.forall_mem_singleton.mpr ⟨hvalid.1, rfl, hmode⟩
    next => cases h
  | action direction actionType =>
    simp only [edit, setGestureAction] at h
    split at h
    next hvalid =>
      cases h
      have hmode := ne_empty_of_discrete hvalid.2.1
      refine Edited.param (by simp) ?_ (kept_setState rfl rfl)
      exact List.forall_mem_singleton.mpr ⟨hvalid.1, rfl, hmode⟩
    next => cases h
  | keypress direction evdevNames =>
    simp only [edit, setGestureKeypress] at h
    split at h
    next hvalid =>
      cases h
      have hmode := ne_empty_of_discrete hvalid.2.1
      refine Edited.param (by simp) ?_ (kept_setState rfl rfl)
      exact List.forall_mem_cons.mpr
        ⟨⟨hvalid.1, rfl, hmode⟩, List.forall_mem_singleton.mpr ⟨hvalid.1, rfl, hmode⟩⟩
    next => cases h

/-- A request that neither sets a mode nor finds one. -/
def Request.Inert : Request → Prop
  | .call (.setGesture _ _) | .probe _ _ => False
  | .call (.param _ _ _) | .hop _ _ | .getParam _ _ => True

/-- The call of a parameter sends at most a hop. -/
theorem performParamCall_frame (s : Session) (direction type : String) (method : Param) :
    ∃ rs, (∀ r ∈ rs, r.Inert) ∧
      (performParamCall s direction type method).requests = s.requests ++ rs ∧
      (performParamCall s direction type method).answers = s.answers ∧
      (performParamCall s direction type method).model = s.model ∧
      (performParamCall s direction type method).daemon = s.daemon := by
  rw [performParamCall]
  split
  next =>
    exact ⟨[], List.forall_mem_nil _, (requests_connect ..).trans (List.append_nil _).symm,
      answers_connect .., rfl, rfl⟩
  next =>
    exact ⟨[.hop direction type], List.forall_mem_singleton.mpr trivial, requests_send .., rfl, rfl,
      rfl⟩

theorem Orderly.performParamCall (h : Orderly s) {direction type : String} {method : Param}
    (hparam : (Call.param direction type method).IsParam) :
    Orderly (performParamCall s direction type method) := by
  rw [GestureModel.performParamCall]
  split
  next serial hpending => exact h.connect serial hparam
  next =>
    exact h.send hparam (List.forall_mem_singleton.mpr hparam) fun _ hprobe => by cases hprobe

theorem Orderly.performSetGesture (h : Orderly s) {direction type : String}
    (hvalid : (Call.setGesture direction type).Valid) :
    Orderly (performSetGesture s direction type) :=
  (h.send (r := .call (.setGesture direction type)) hvalid (List.forall_mem_nil _)
    fun _ hprobe => by cases hprobe).setPending _

theorem Orderly.perform_params {cs : List Call} (hcs : ∀ c ∈ cs, c.IsParam) (h : Orderly s) :
    Orderly (cs.foldl perform s) := by
  induction cs generalizing s with
  | nil => exact h
  | cons c cs ih =>
    obtain ⟨hc, hrest⟩ := List.forall_mem_cons.mp hcs
    cases c with
    | setGesture direction type => cases hc
    | param direction type method => exact ih hrest (h.performParamCall hc)

theorem Orderly.edit {e : Edit} (h : Orderly s) (hstep : sessionStep p s (.edit e) = some t) :
    Orderly t := by
  obtain ⟨⟨m, calls⟩, hedit, rfl⟩ := Option.map_eq_some_iff.mp (show editLive s e = some t from hstep)
  cases edited hedit with
  | @mode direction plainMode type st hcardinal hmapped hmode hplain =>
    have hset : Orderly { s with model := s.model.setState direction st } :=
      h.setState direction (by rw [hmode, hplain, plainModeForType_mapMode hmapped])
    exact hset.performSetGesture ⟨hcardinal, mem_seedTypes hmapped⟩
  | param other params kept =>
    have hset : Orderly { s with model := m } := h.setModel fun direction => by
      rw [(kept direction).1, (kept direction).2]
      exact h.plain direction
    exact hset.perform_params fun c hc => (params c hc).isParam

theorem Orderly.step {e : Event} (h : Orderly s) (hstep : sessionStep p s e = some t) :
    Orderly t := by
  cases e with
  | edit e => exact h.edit hstep
  | carryOut => exact h.carryOut hstep
  | reply =>
    rw [sessionStep] at hstep
    split at hstep
    next => cases hstep
    next w r replies hreplies =>
      cases hstep
      exact h.reply hreplies

/-! ## Coming to rest -/

/-- The steps that a request takes, with what its reply starts. -/
def Request.weight : Request → Nat
  | .call _ | .hop _ _ | .getParam _ _ => 1
  | .probe _ typeIdx => 3 + 2 * (seedTypes.length - typeIdx)

def Watcher.weight (w : Watcher) : Nat := w.request.weight + 2 * w.fires.length

/-- The steps that are left without further edits. -/
def Session.weight (s : Session) : Nat :=
  (s.calls.map fun w => w.weight + 1).sum + (s.replies.map fun r => r.1.weight).sum

theorem weight_send (s : Session) (r : Request) (fires : List Call) :
    (send s r fires).weight = s.weight + (r.weight + 2 * fires.length + 1) := by
  simp only [send, Session.weight, List.map_append, List.sum_append, List.map_singleton,
    List.sum_singleton, Watcher.weight]
  omega

theorem weight_foldl_fire (s : Session) (cs : List Call) :
    (cs.foldl fire s).weight = s.weight + 2 * cs.length := by
  induction cs generalizing s with
  | nil => rfl
  | cons c cs ih =>
    rw [List.foldl_cons, ih, fire, weight_send, List.length_cons]
    simp only [Request.weight, List.length_nil]
    omega

theorem weight_setGranularitySeeded (p : Platform) (s : Session) (direction : String) (r : Reply) :
    (setGranularitySeeded p s direction r).weight = s.weight := by
  cases r <;> rfl

theorem weight_carryOut (hstep : sessionStep p s .carryOut = some t) : t.weight < s.weight := by
  rw [sessionStep] at hstep
  split at hstep
  next => cases hstep
  next w calls hcalls =>
    cases hstep
    simp only [Session.weight, hcalls, List.map_append, List.sum_append, List.map_cons, List.sum_cons,
      List.map_nil, List.sum_nil]
    omega

theorem weight_reply {w : Watcher} {r : Reply} {replies : List (Watcher × Reply)}
    (hreplies : s.replies = (w, r) :: replies) :
    (onReply p { s with replies := replies } w r).weight < s.weight := by
  have hweight : s.weight = Session.weight { s with replies := replies } + w.weight := by
    simp only [Session.weight, hreplies, List.map_cons, List.sum_cons]
    omega
  rw [hweight]
  generalize ({ s with replies := replies } : Session) = s₀
  obtain ⟨serial, request, fires⟩ := w
  cases request with
  | call c =>
    cases c with
    | setGesture direction type =>
      have hpending : ∀ pending, Session.weight { s₀ with pending := pending } = s₀.weight :=
        fun _ => rfl
      simp only [onReply]
      split <;> split <;>
        simp only [weight_foldl_fire, hpending, Watcher.weight, Request.weight] <;> omega
    | param direction type method => simp [onReply, Watcher.weight, Request.weight]
  | hop direction type =>
    have hlength := List.length_filter_le (fun c => r ≠ .error ∨ c.unconditional) fires
    simp only [onReply, weight_foldl_fire, Watcher.weight, Request.weight]
    omega
  | probe direction typeIdx =>
    simp only [onReply]
    split
    next =>
      rw [probeDirection]
      split
      next hlt =>
        rw [weight_send]
        simp only [Watcher.weight, Request.weight, List.length_nil]
        omega
      next =>
        simp only [Watcher.weight, Request.weight]
        omega
    next =>
      have hset : ∀ type, (setSeeded s₀ direction type).weight = s₀.weight := fun _ => rfl
      rw [seedParam]
      split
      next =>
        rw [weight_send, hset]
        simp only [Watcher.weight, Request.weight, List.length_nil]
        omega
      next =>
        rw [hset]
        simp only [Watcher.weight, Request.weight]
        omega
  | getParam direction type =>
    rw [onReply, weight_setGranularitySeeded]
    simp [Watcher.weight, Request.weight]

/-- Without further edits every reply arrives. -/
theorem exists_idle (p : Platform) (config : Config.GestureAction) (s : Session) :
    ∃ es t, (∀ e ∈ es, ¬e.IsEdit) ∧ (session p config).run s es = some t ∧ t.Idle := by
  refine Machine.exists_run_of_measure (μ := Session.weight) (fun s hbusy => ?_) s
  cases hcalls : s.calls with
  | cons w calls =>
    have hstep : (session p config).step s .carryOut = some
        { s with daemon := (carryOut p s.daemon w.request).1, calls := calls
                 replies := s.replies ++ [(w, (carryOut p s.daemon w.request).2)] } := by
      simp only [session, sessionStep, hcalls]
    exact ⟨.carryOut, _, id, hstep, weight_carryOut hstep⟩
  | nil =>
    cases hreplies : s.replies with
    | nil => exact absurd ⟨hcalls, hreplies⟩ hbusy
    | cons reply replies =>
      obtain ⟨w, r⟩ := reply
      have hstep : (session p config).step s .reply =
          some (onReply p { s with replies := replies } w r) := by
        simp only [session, sessionStep, hreplies]
      exact ⟨.reply, _, id, hstep, weight_reply hreplies⟩

/-! ## The start -/

/-- The probes of the constructor. -/
theorem queue_init (config : Config.GestureAction) : (seedFromDaemon config).queue = [
    { serial := 0, request := .probe "up" 0 }, { serial := 1, request := .probe "down" 0 },
    { serial := 2, request := .probe "left" 0 }, { serial := 3, request := .probe "right" 0 }] :=
  rfl

theorem fires_init {config : Config.GestureAction} {w : Watcher}
    (h : w ∈ (seedFromDaemon config).queue) : w.fires = [] := by
  rw [queue_init] at h
  simp only [List.mem_cons, List.not_mem_nil, or_false] at h
  rcases h with rfl | rfl | rfl | rfl <;> rfl

theorem orderly_init (config : Config.GestureAction) : Orderly (seedFromDaemon config) where
  requests := by
    rw [queue_init]
    simp [Request.Valid, seedTypes]
  fires w hw c hc := by
    rw [fires_init hw] at hc
    cases hc
  single direction := by
    rw [queue_init]
    simp only [Request.isProbe, List.countP_cons, List.countP_nil, beq_iff_eq]
    grind
  plain direction := rfl

end Logid.Gui.GestureModel
