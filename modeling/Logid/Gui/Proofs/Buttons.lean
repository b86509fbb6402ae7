import Logid.Features.Methods
import Logid.Gui.ButtonsModel

/-!
# When the rows of buttons agree with the daemon

A reply starts the next call of its chain, or ends it. The one of a probe that finds an interface tells
the truth unless a later reply of the button is behind it. So a row is left wrong only where a chain
ends without a look at the daemon, or with a look that has missed an interface.
-/

namespace Logid.Gui.ButtonsModel

open Actions (ActionObject)

/-! ### The daemon's buttons -/

theorem interfaceName_make (codes : Actions.EventCodes) (entry : Config.Action) :
    (ActionObject.make codes entry).interfaceName = Actions.Action.interfaceName entry := by
  cases entry <;> rfl

/-- The interface that a button of the daemon has after the call, and whether the call returns. -/
theorem DaemonButton.setAction_callSetAction (codes : Actions.EventCodes) (b : DaemonButton)
    (type : String) (entry : Option Config.Action) {object : Features.Button}
    (hobject : object.action.map ActionObject.interfaceName = b.interface) :
    let called := Features.Button.callSetAction codes b.control type entry object
    called.object.action.map ActionObject.interfaceName = (b.setAction type).1.interface ∧
      (called.reply = .ok ↔ (b.setAction type).2 = true) := by
  unfold Features.Button.callSetAction DaemonButton.setAction Features.ControlInfo.accepts
  cases b.control.temporaryDivertable with
  | false => simp [hobject]
  | true =>
    by_cases hgesture : type = "Gesture" ∧ b.control.rawXY = false
    · simp [hgesture.1, hgesture.2, hobject]
    · have hrefused : (decide (type = "Gesture") && !b.control.rawXY) = false := by
        simpa using hgesture
      have haccepted : (type != "Gesture" || b.control.rawXY) = true := by
        simpa [imp_iff_not_or] using hgesture
      simp only [Bool.not_true, Bool.false_eq_true, if_false, hrefused, Bool.true_and, haccepted,
        if_true, Features.Button.setAction]
      cases hname : Actions.Action.ofName type with
      | none => simp [interface]
      | some action =>
        simp only [interface, Option.bind_some, id, Option.map_map, iff_self, and_true]
        cases action with
        | none => rfl
        | some action => exact congrArg some (interfaceName_make codes action)

theorem interface_ne_default (b : DaemonButton) : b.interface ≠ some "Default" := by
  unfold DaemonButton.interface
  cases b.action with
  | none => simp
  | some action => cases action <;> simp [Actions.Action.interfaceName]

/-- "None" and "Default" show what is absent or null, and nothing else. -/
theorem shows_iff_inert {type : String} (h : type = "None" ∨ type = "Default") (b : DaemonButton) :
    Shows type b ↔ b.Inert := by
  unfold Shows
  split
  next hinert => exact iff_of_true h hinert
  next hinert =>
    refine iff_of_false (fun hshows => ?_) hinert
    rcases h with rfl | rfl
    · exact hinert (.inr hshows)
    · exact interface_ne_default b hshows

theorem shows_of_probed {type : String} (hprobed : type ∈ probedTypes) {b : DaemonButton}
    (h : b.interface = some type) : Shows type b := by
  have hinert : ¬b.Inert := by
    rintro (hnone | hnull)
    · rw [h] at hnone
      cases hnone
    · rw [h, Option.some_inj] at hnull
      subst hnull
      exact absurd hprobed (by decide)
  rw [Shows, if_neg hinert]
  exact h

/-- A row that agrees with the daemon names the daemon's interface, or nothing where there is nothing. -/
theorem shows_iff {type : String} {b : DaemonButton} :
    Shows type b ↔
      b.interface = some type ∨ (type = "None" ∨ type = "Default") ∧ b.Inert := by
  by_cases hinert : b.Inert
  · rw [Shows, if_pos hinert, and_iff_left hinert]
    refine ⟨.inr, fun h => h.elim (fun hnamed => ?_) id⟩
    rcases hinert with hnone | hnull
    · rw [hnone] at hnamed
      cases hnamed
    · rw [hnull, Option.some_inj] at hnamed
      exact .inl hnamed.symm
  · rw [Shows, if_neg hinert]
    exact (or_iff_left fun h => hinert h.2).symm

/-- The type that `enumerate` reads shows the action. -/
theorem shows_enumerated (b : DaemonButton) : Shows (enumerated b).currentActionType b := by
  cases hfind : probedTypes.find? fun type => b.interface = some type with
  | some type =>
    have hinterface : b.interface = some type := by simpa using List.find?_some hfind
    simp only [enumerated, hfind, Option.getD_some]
    exact shows_of_probed (List.mem_of_find?_eq_some hfind) hinterface
  | none =>
    simp only [enumerated, hfind, Option.getD_none]
    rw [shows_iff_inert (.inl rfl)]
    have hnone := List.find?_eq_none.mp hfind
    unfold DaemonButton.Inert DaemonButton.interface at *
    cases haction : b.action with
    | none => exact .inl rfl
    | some action =>
      rw [haction] at hnone
      cases action with
      | none => exact .inr rfl
      | _ =>
        exfalso
        simp [probedTypes, Actions.Action.interfaceName] at hnone

/-! ### Replies tell the truth -/

/-- A reply that an interface is there is true, or a reply of the button is behind it. -/
def Truthful (daemon : String → DaemonButton) : List (Call × Bool) → Prop
  | [] => True
  | (.getAll path index, true) :: replies =>
    (∃ type, probedTypes[index]? = some type ∧ ((daemon path).interface = some type ∨
      path ∈ replies.map fun reply => reply.1.path)) ∧ Truthful daemon replies
  | _ :: replies => Truthful daemon replies

theorem Truthful.tail {daemon : String → DaemonButton} {reply : Call × Bool}
    {replies : List (Call × Bool)} (h : Truthful daemon (reply :: replies)) :
    Truthful daemon replies := by
  obtain ⟨call, returned⟩ := reply
  cases call with
  | setAction | setParam => exact h
  | getAll path index =>
    cases returned with
    | false => exact h
    | true => exact h.2

/-- One more reply that tells the truth, from a daemon that has changed at most the button of that
reply. -/
theorem Truthful.append {daemon daemon' : String → DaemonButton} {replies : List (Call × Bool)}
    {last : Call × Bool} (h : Truthful daemon replies)
    (hsame : ∀ path, path ≠ last.1.path → daemon' path = daemon path)
    (hlast : Truthful daemon' [last]) : Truthful daemon' (replies ++ [last]) := by
  induction replies with
  | nil => exact hlast
  | cons reply replies ih =>
    obtain ⟨call, returned⟩ := reply
    rw [List.cons_append]
    cases call with
    | setAction | setParam => exact ih h
    | getAll path index =>
      cases returned with
      | false => exact ih h
      | true =>
        obtain ⟨⟨type, htype, hfound⟩, h⟩ := h
        refine ⟨⟨type, htype, ?_⟩, ih h⟩
        rw [List.map_append, List.mem_append]
        by_cases hpath : path = last.1.path
        · exact .inr (.inr (List.mem_singleton.mpr hpath))
        · rcases hfound with hinterface | hmem
          · exact .inl (by rw [hsame path hpath, hinterface])
          · exact .inr (.inl hmem)

/-- What the daemon answers is true when it answers. -/
theorem truthful_carryOut (s : Session) (fault : Fault) (call : Call) :
    Truthful (carryOut s fault call).1.daemon [(call, (carryOut s fault call).2)] := by
  cases call with
  | setAction | setParam => trivial
  | getAll path index =>
    cases hreturned : (carryOut s fault (.getAll path index)).2 with
    | false => trivial
    | true =>
      obtain ⟨type, htype, hcall⟩ := (Option.any_eq_true _ _).mp hreturned
      exact ⟨⟨type, htype, .inl (of_decide_eq_true hcall).2⟩, trivial⟩

theorem daemon_carryOut_ne (s : Session) (fault : Fault) (call : Call) {path : String}
    (h : path ≠ call.path) : (carryOut s fault call).1.daemon path = s.daemon path := by
  cases call with
  | setAction => exact Function.update_of_ne h _ _
  | setParam | getAll => rfl

/-! ### Who is busy -/

@[simp] theorem busy_send {s : Session} {call : Call} {path : String} :
    (send s call).Busy path ↔ s.Busy path ∨ path = call.path := by
  simp only [Session.Busy, send, List.map_append, List.map_cons, List.map_nil, List.mem_append,
    List.mem_singleton]
  tauto

@[simp] theorem busy_applyCurrentAction {s : Session} {path other type : String} :
    (applyCurrentAction s other type).Busy path ↔ s.Busy path := Iff.rfl

/-- Of the rows only the one of the path is written. -/
theorem rows_applyCurrentAction_ne {s : Session} {path other type : String} (h : path ≠ other) :
    (applyCurrentAction s other type).rows path = s.rows path := Function.update_of_ne h _ _

theorem applyAbsence_cases (s : Session) (path : String) :
    applyAbsence s path = s ∨ applyAbsence s path = applyCurrentAction s path "None" := by
  unfold applyAbsence
  split
  · split
    · exact .inr rfl
    · exact .inl rfl
  · exact .inl rfl

/-- A step at one button leaves the others' rows, the daemon and the unanswered calls. -/
structure Local (path : String) (s t : Session) : Prop where
  rows : ∀ other, other ≠ path → t.rows other = s.rows other
  daemon : t.daemon = s.daemon
  busy : ∀ other, s.Busy other → t.Busy other

theorem Local.refl (path : String) (s : Session) : Local path s s :=
  ⟨fun _ _ => rfl, rfl, fun _ h => h⟩

theorem local_send (s : Session) (path : String) (call : Call) : Local path s (send s call) :=
  ⟨fun _ _ => rfl, rfl, fun _ h => busy_send.mpr (.inl h)⟩

theorem local_applyCurrentAction (s : Session) (path type : String) :
    Local path s (applyCurrentAction s path type) :=
  ⟨fun _ h => rows_applyCurrentAction_ne h, rfl, fun _ h => h⟩

theorem local_probe (s : Session) (path : String) (index : Nat) :
    Local path s (probe s path index) := by
  unfold probe
  split
  · exact local_send s path _
  · rcases applyAbsence_cases s path with heq | heq
    · rw [heq]
      exact Local.refl path s
    · rw [heq]
      exact local_applyCurrentAction s path "None"

theorem local_onReply (s : Session) (reply : Call × Bool) :
    Local reply.1.path s (onReply s reply) := by
  obtain ⟨call, returned⟩ := reply
  cases call with
  | setAction path type param =>
    cases param with
    | none => exact local_probe s path 0
    | some param =>
      cases returned with
      | true => exact local_send s path _
      | false => exact Local.refl path s
  | setParam path param => exact local_probe s path 0
  | getAll path index =>
    cases returned with
    | true =>
      simp only [onReply]
      split
      · exact local_applyCurrentAction s path _
      · exact Local.refl path s
    | false => exact local_probe s path (index + 1)

/-- The agreement of one button is the same in states with the same row and daemon. -/
theorem agrees_congr {s t : Session} {path : String} (hrows : t.rows path = s.rows path)
    (hdaemon : t.daemon path = s.daemon path) : t.Agrees path ↔ s.Agrees path := by
  unfold Session.Agrees
  rw [hrows, hdaemon]

/-! ### The steps -/

/-- A step that touches only rows of buttons that it makes busy. -/
structure Harmless (s t : Session) : Prop where
  replies : t.replies = s.replies
  daemon : t.daemon = s.daemon
  idle : ∀ path, ¬t.Busy path → ¬s.Busy path ∧ t.rows path = s.rows path

theorem Harmless.refl (s : Session) : Harmless s s := ⟨rfl, rfl, fun _ h => ⟨h, rfl⟩⟩

theorem harmless_edit (s : Session) (path type : String) (param : Option Param) :
    Harmless s (edit s path type param) := by
  unfold edit
  split
  · split
    · refine ⟨rfl, rfl, fun other hidle => ?_⟩
      rw [busy_applyCurrentAction, busy_send] at hidle
      obtain ⟨hidle, hne⟩ := not_or.mp hidle
      exact ⟨hidle, rows_applyCurrentAction_ne hne⟩
    · exact Harmless.refl s
  · exact Harmless.refl s

theorem Harmless.rowsAgree {s t : Session} (h : Harmless s t) (hagree : s.RowsAgree) :
    t.RowsAgree := by
  intro path hidle
  obtain ⟨hbefore, hrows⟩ := h.idle path hidle
  exact (agrees_congr hrows (congrFun h.daemon path)).mpr (hagree path hbefore)

theorem Harmless.truthful {s t : Session} (h : Harmless s t) (htrue : Truthful s.daemon s.replies) :
    Truthful t.daemon t.replies := by
  rw [h.daemon, h.replies]
  exact htrue

/-- What a step does: a reply is handled, a call is carried out, or a setter is called. -/
inductive StepKind (s : Session) : Label → Session → Prop
  | reply {t : Session} (reply : Call × Bool) (replies : List (Call × Bool))
      (hreplies : s.replies = reply :: replies)
      (ht : t = onReply { s with replies := replies } reply) : StepKind s .reply t
  | carryOut {t : Session} (fault : Fault) (call : Call) (calls : List Call)
      (hcalls : s.calls = call :: calls)
      (ht : t = { (carryOut { s with calls := calls } fault call).1 with
        replies := s.replies ++ [(call, (carryOut { s with calls := calls } fault call).2)] }) :
      StepKind s (.carryOut fault) t
  | setter {t : Session} {a : Label} (hright : LeavesRight s a) (h : Harmless s t) : StepKind s a t

theorem stepKind {s t : Session} {a : Label} (hstep : step s a = some t) : StepKind s a t := by
  cases a with
  | reply =>
    simp only [step] at hstep
    split at hstep
    · cases hstep
    next reply replies hreplies =>
      cases hstep
      exact .reply reply replies hreplies rfl
  | carryOut fault =>
    simp only [step] at hstep
    split at hstep
    · cases hstep
    next call calls hcalls =>
      cases hstep
      refine .carryOut fault call calls hcalls ?_
      cases call <;> rfl
  | setHostCount count =>
    cases hstep
    exact .setter trivial ⟨rfl, rfl, fun _ h => ⟨h, rfl⟩⟩
  | setAction | setChangeDpi | setCycleDpi | setToggleSmartShift | setToggleHiresScroll
  | restoreDefault | clearAction =>
    cases hstep
    exact .setter trivial (harmless_edit s _ _ _)
  | setKeypress path names =>
    simp only [step, setKeypress, Option.some_inj] at hstep
    subst hstep
    split
    · exact .setter trivial (Harmless.refl s)
    · exact .setter trivial (harmless_edit s _ _ _)
  | setMouseButton path name =>
    simp only [step, setMouseButton, Option.some_inj] at hstep
    subst hstep
    split
    · exact .setter trivial (Harmless.refl s)
    · exact .setter trivial (harmless_edit s _ _ _)
  | setChangeHost path host number =>
    simp only [step, setChangeHost, Option.some_inj] at hstep
    subst hstep
    split
    · exact .setter trivial (harmless_edit s _ _ _)
    · exact .setter trivial (Harmless.refl s)
  | setChangeProfile path name =>
    simp only [step, setChangeProfile, Option.some_inj] at hstep
    subst hstep
    split
    · exact .setter trivial (Harmless.refl s)
    · exact .setter trivial (harmless_edit s _ _ _)

theorem replies_onReply (s : Session) (reply : Call × Bool) :
    (onReply s reply).replies = s.replies := by
  have hprobe : ∀ path index, (probe s path index).replies = s.replies := by
    intro path index
    unfold probe
    split
    · rfl
    · rcases applyAbsence_cases s path with heq | heq
      · rw [heq]
      · rw [heq]
        rfl
  obtain ⟨call, returned⟩ := reply
  cases call with
  | setAction path type param =>
    cases param with
    | none => exact hprobe path 0
    | some param => cases returned <;> rfl
  | setParam path param => exact hprobe path 0
  | getAll path index =>
    cases returned with
    | true =>
      simp only [onReply]
      split <;> rfl
    | false => exact hprobe path (index + 1)

theorem truthful_step {s t : Session} {a : Label} (h : Truthful s.daemon s.replies)
    (hstep : step s a = some t) : Truthful t.daemon t.replies := by
  cases stepKind hstep with
  | reply reply replies hreplies ht =>
    subst ht
    rw [replies_onReply, (local_onReply _ reply).daemon]
    rw [hreplies] at h
    exact h.tail
  | carryOut fault call calls hcalls ht =>
    subst ht
    exact h.append (fun path hne => daemon_carryOut_ne _ fault call hne)
      (truthful_carryOut _ fault call)
  | setter hright hharmless => exact hharmless.truthful h

/-- The daemon's answer to a call keeps its button busy. -/
theorem rowsAgree_carryOut {s : Session} (fault : Fault) {call : Call} {calls : List Call}
    (hagree : s.RowsAgree) (hcalls : s.calls = call :: calls) :
    Session.RowsAgree { (carryOut { s with calls := calls } fault call).1 with
      replies := s.replies ++ [(call, (carryOut { s with calls := calls } fault call).2)] } := by
  have hkept : ∀ path, (carryOut { s with calls := calls } fault call).1.rows path = s.rows path ∧
      (carryOut { s with calls := calls } fault call).1.calls = calls := by
    intro path
    cases call <;> exact ⟨rfl, rfl⟩
  intro path hidle
  have hidle : path ∉ calls.map Call.path ∧
      path ∉ s.replies.map (fun reply => reply.1.path) ∧ path ≠ call.path := by
    simpa [Session.Busy, (hkept path).2] using hidle
  have hbefore : ¬s.Busy path := by
    simp only [Session.Busy, hcalls, List.map_cons, List.mem_cons]
    tauto
  have hdaemon := daemon_carryOut_ne { s with calls := calls } fault call hidle.2.2
  exact (agrees_congr (hkept path).1 hdaemon).mpr (hagree path hbefore)

/-- Only the row that the reply is about is at stake. -/
theorem rowsAgree_onReply_iff {s : Session} {reply : Call × Bool} {replies : List (Call × Bool)}
    (hagree : s.RowsAgree) (hreplies : s.replies = reply :: replies) :
    (onReply { s with replies := replies } reply).RowsAgree ↔
      ((onReply { s with replies := replies } reply).Busy reply.1.path ∨
        (onReply { s with replies := replies } reply).Agrees reply.1.path) := by
  have hlocal := local_onReply { s with replies := replies } reply
  constructor
  · intro h
    by_cases hbusy : (onReply { s with replies := replies } reply).Busy reply.1.path
    · exact .inl hbusy
    · exact .inr (h _ hbusy)
  · intro h path hidle
    by_cases hpath : path = reply.1.path
    · subst hpath
      exact h.resolve_left hidle
    · have hbefore : ¬s.Busy path := by
        intro hbusy
        refine hidle (hlocal.busy path ?_)
        simpa [Session.Busy, hreplies, hpath] using hbusy
      exact (agrees_congr (hlocal.rows path hpath) (congrFun hlocal.daemon path)).mpr
        (hagree path hbefore)

/-- A chain that goes on keeps its button busy. -/
theorem busy_probe {s : Session} {path : String} {index : Nat} (h : index < probedTypes.length) :
    (probe s path index).Busy path := by
  rw [probe, if_pos h, busy_send]
  exact .inr rfl

/-- A probe that has found nothing is right exactly if there is nothing to be found. -/
theorem agrees_applyAbsence_iff {s : Session} {path : String} :
    (applyAbsence s path).Agrees path ↔ s.rows path = none ∨ (s.daemon path).Inert := by
  unfold applyAbsence
  cases hrow : s.rows path with
  | none => exact iff_of_true (by simp [Session.Agrees, hrow]) (.inl rfl)
  | some row =>
    rw [or_iff_right nofun]
    by_cases hconcrete : row.currentActionType ≠ "None" ∧ row.currentActionType ≠ "Default"
    · simp only [if_pos hconcrete, Session.Agrees, applyCurrentAction, Function.update_self, hrow,
        Option.map_some, Option.mem_some_iff, forall_eq']
      exact shows_iff_inert (.inl rfl) _
    · simp only [if_neg hconcrete, Session.Agrees, hrow, Option.mem_some_iff, forall_eq']
      have hshown : row.currentActionType = "None" ∨ row.currentActionType = "Default" := by
        tauto
      exact shows_iff_inert hshown _

theorem busy_applyAbsence {s : Session} {path : String} :
    (applyAbsence s path).Busy path ↔ s.Busy path := by
  rcases applyAbsence_cases s path with heq | heq
  · rw [heq]
  · rw [heq, busy_applyCurrentAction]

/-- A reply that an interface is there leaves the row right, or its button busy. -/
theorem right_of_found {s : Session} {path : String} {index : Nat} {replies : List (Call × Bool)}
    (htrue : Truthful s.daemon ((.getAll path index, true) :: replies)) :
    (onReply { s with replies := replies } (.getAll path index, true)).Busy path ∨
      (onReply { s with replies := replies } (.getAll path index, true)).Agrees path := by
  obtain ⟨⟨type, htype, hfound⟩, -⟩ := htrue
  simp only [onReply, htype, busy_applyCurrentAction]
  rcases hfound with hinterface | hmem
  · right
    intro row hrow
    simp only [applyCurrentAction, Function.update_self, Option.mem_def,
      Option.map_eq_some_iff] at hrow
    obtain ⟨before, -, rfl⟩ := hrow
    exact shows_of_probed (List.mem_of_getElem? htype) hinterface
  · exact .inl (.inr hmem)

/-- The rows agree after a reply exactly if it leaves its row right. -/
theorem leavesRight_reply_iff {s : Session} {reply : Call × Bool} {replies : List (Call × Bool)}
    (htrue : Truthful s.daemon s.replies) (hagree : s.RowsAgree)
    (hreplies : s.replies = reply :: replies) :
    (onReply { s with replies := replies } reply).RowsAgree ↔ LeavesRight s .reply := by
  rw [rowsAgree_onReply_iff hagree hreplies]
  simp only [LeavesRight, hreplies]
  obtain ⟨call, returned⟩ := reply
  cases call with
  | setAction path type param =>
    cases param with
    | none => exact iff_of_true (.inl (busy_probe (by decide))) trivial
    | some param =>
      cases returned with
      | true => exact iff_of_true (.inl (busy_send.mpr (.inr rfl))) trivial
      | false => exact or_congr Iff.rfl (forall₂_congr fun row _ => shows_iff)
  | setParam path param => exact iff_of_true (.inl (busy_probe (by decide))) trivial
  | getAll path index =>
    cases returned with
    | true =>
      rw [hreplies] at htrue
      exact iff_of_true (right_of_found htrue) trivial
    | false =>
      by_cases hindex : index + 1 < probedTypes.length
      · exact iff_of_true (.inl (busy_probe hindex)) (.inl hindex)
      · simp only [onReply, probe, if_neg hindex, Call.path]
        rw [busy_applyAbsence, agrees_applyAbsence_iff]
        exact (or_iff_right hindex).symm

theorem rowsAgree_step_iff {s t : Session} {a : Label} (htrue : Truthful s.daemon s.replies)
    (hagree : s.RowsAgree) (hstep : step s a = some t) : t.RowsAgree ↔ LeavesRight s a := by
  cases stepKind hstep with
  | reply reply replies hreplies ht =>
    subst ht
    exact leavesRight_reply_iff htrue hagree hreplies
  | carryOut fault call calls hcalls ht =>
    subst ht
    exact iff_of_true (rowsAgree_carryOut fault hagree hcalls) trivial
  | setter hright hharmless => exact iff_of_true (hharmless.rowsAgree hagree) hright

theorem rowsAgree_enumerate (paths : List String) (daemon : String → DaemonButton) :
    (enumerate paths daemon).RowsAgree := by
  intro path _ row hrow
  simp only [enumerate, Option.mem_def, Option.ite_none_right_eq_some, Option.some_inj] at hrow
  obtain ⟨-, rfl⟩ := hrow
  exact shows_enumerated (daemon path)

/-- Each row shows the daemon's action once the calls of its button are answered, in every state of a
run, exactly if every reply that ends a chain leaves its row right. -/
theorem always_rowsAgree_iff (paths : List String) (daemon : String → DaemonButton)
    (as : List Label) :
    (machine paths daemon).Always Session.RowsAgree (enumerate paths daemon) as ↔
      (machine paths daemon).Meets LeavesRight (enumerate paths daemon) as := by
  have hJ : ∀ s a t, Truthful s.daemon s.replies → s.RowsAgree →
      (machine paths daemon).step s a = some t → t.RowsAgree → Truthful t.daemon t.replies :=
    fun s a t h _ hstep _ => truthful_step h hstep
  have hiff : ∀ s a t, Truthful s.daemon s.replies → s.RowsAgree →
      (machine paths daemon).step s a = some t → (t.RowsAgree ↔ LeavesRight s a) :=
    fun s a t h hagree hstep => rowsAgree_step_iff h hagree hstep
  exact Machine.always_iff_meets hJ hiff trivial (rowsAgree_enumerate paths daemon)

/-- A button without action. -/
def plainButton : DaemonButton where
  control := { controlID := 0x52, temporaryDivertable := true, rawXY := false }
  action := none

/-- The keys are set while the probe of `clearAction`, which has asked for "Keypress" already, goes
on; no call fails. -/
def keysWhileProbing : List Label :=
  [.clearAction "b", .carryOut .none, .reply, .carryOut .none, .setKeypress "b" ["KEY_A"], .reply,
    .carryOut .none, .carryOut .none, .reply, .reply, .carryOut .none, .carryOut .none, .reply,
    .reply, .carryOut .none, .carryOut .none, .reply, .reply] ++
    (List.replicate 4 [.carryOut .none, .reply]).flatten

theorem keysWhileProbing_hidden :
    ¬(machine ["b"] fun _ => plainButton).Always Session.RowsAgree
      (enumerate ["b"] fun _ => plainButton) keysWhileProbing := by
  have hlast : ((machine ["b"] fun _ => plainButton).run (enumerate ["b"] fun _ => plainButton)
      keysWhileProbing).map (fun s => (decide (s.Busy "b"), decide (s.Agrees "b"))) =
        some (false, false) := by decide
  obtain ⟨s, hrun, hs⟩ := Option.map_eq_some_iff.mp hlast
  simp only [Prod.mk.injEq, decide_eq_false_iff_not] at hs
  intro h
  rw [← List.append_nil keysWhileProbing] at h
  exact hs.2 (h.of_run hrun "b" hs.1)

end Logid.Gui.ButtonsModel
