import Logid.HotPlug
import Logid.Misc.Tokens

/-!
# Whether hot-plugging converges

In every run in which no handler comes too late, and none leaves half of its work, the maps follow
the latest event whose handler has finished; once all handlers have finished, that is the last
event of the path. The ledger of the events shows that every event is then accounted for.
-/

namespace Logid.DeviceManager

open Logid.Backend

/-- The path is in `_devices` or `_receivers`. -/
def Present (s : State) (path : Path) : Prop := s.devices.Has path ∨ s.receivers.Has path

instance (s : State) (path : Path) : Decidable (Present s path) :=
  inferInstanceAs (Decidable (_ ∨ _))

/-- The path is in both maps, so that one removal does not remove it. -/
def PresentTwice (s : State) (path : Path) : Prop := s.devices.Has path ∧ s.receivers.Has path

instance (s : State) (path : Path) : Decidable (PresentTwice s path) :=
  inferInstanceAs (Decidable (_ ∧ _))

theorem PresentTwice.present {s : State} {path : Path} (h : PresentTwice s path) :
    Present s path := .inl h.1

theorem present_setReceiver (s : State) (path : Path) (o : ReceiverObject) (q : Path) :
    Present { s with receivers := s.receivers.set path o } q ↔ Present s q := by
  simp only [Present, AssocMap.has_set]

theorem present_detach (s : State) (o : ReceiverObject) (q : Path) :
    Present (detach s o) q ↔ Present s q := by
  unfold detach
  split <;> exact Iff.rfl

theorem present_setObject (s : State) (place : Place) (o : ReceiverObject) (q : Path) :
    Present (setObject s place o) q ↔ Present s q := by
  cases place with
  | published path => exact present_setReceiver s path o q
  | detached n => exact Iff.rfl

theorem present_insertDevice (s : State) (path q : Path) :
    Present (insertDevice s path) q ↔ Present s q ∨ q = path := by
  simp only [Present, insertDevice, AssocMap.has_emplace]
  rw [or_right_comm]

theorem present_publish (s : State) (n : Nat) (o : ReceiverObject) (q : Path) :
    Present (publish s n o) q ↔ Present s q ∨ q = o.path := by
  simp only [publish]
  split
  next hhas =>
    rw [present_detach]
    refine ⟨.inl, ?_⟩
    intro hor
    rcases hor with h | rfl
    · exact h
    · exact .inr hhas
  next =>
    simp only [Present, AssocMap.has_emplace]
    rw [or_assoc]

theorem present_removeDevice (s : State) (path q : Path) :
    Present (removeDevice s path) q ↔
      if q = path then PresentTwice s path else Present s q := by
  unfold removeDevice
  split
  next o ho =>
    have hhas := AssocMap.has_of_find? ho
    rw [present_detach]
    simp only [Present, AssocMap.has_erase]
    by_cases hq : q = path
    · subst hq
      simp [PresentTwice, hhas]
    · simp [hq]
  next hr =>
    rw [AssocMap.find?_eq_none_iff] at hr
    split
    next d hd =>
      simp only [Present, AssocMap.has_erase]
      by_cases hq : q = path
      · subst hq
        simp [PresentTwice, hr]
      · simp [hq]
    next hd =>
      rw [AssocMap.find?_eq_none_iff] at hd
      by_cases hq : q = path
      · subst hq
        simp [PresentTwice, Present, hr, hd]
      · simp [hq]

end Logid.DeviceManager

namespace Logid.HotPlug

open Logid.Backend
open Logid.Backend.Raw
open Logid.DeviceManager (Path AddEnv Found insertDevice makeReceiver publish removeDevice Present
  PresentTwice)

/-- What the devices behind the receivers do changes no path. -/
theorem present_receiverStep {s t : DeviceManager.State} {a : DeviceManager.Label}
    (ha : isReceiverStep a = true) (h : DeviceManager.step s a = some t) (q : Path) :
    Present t q ↔ Present s q := by
  cases DeviceManager.step_transition h with
  | insertDevice _ => cases ha
  | makeReceiver _ => cases ha
  | addNothing _ => exact Iff.rfl
  | publish _ _ => cases ha
  | removeDevice => cases ha
  | lock _ => exact DeviceManager.present_setObject s _ _ q
  | receiverAdd _ _ => exact DeviceManager.present_setObject s _ _ q
  | receiverKeep _ _ => exact Iff.rfl
  | receiverRemove _ =>
    unfold DeviceManager.removeReceiverDevice
    split
    · exact DeviceManager.present_setObject s _ _ q
    · exact Iff.rfl
  | @unlock place o _ =>
    cases place with
    | published path => exact DeviceManager.present_setReceiver s path _ q
    | detached n => exact DeviceManager.present_detach _ _ q

variable {ω : Type}

def pathOf (s : State ω) (n : Nat) : Option Path := s.events[n]?.map Event.path

/-- The handler of a later event of the path has finished. -/
def Overtaken (s : State ω) (path : Path) (n : Nat) : Prop :=
  ∃ e ∈ s.finished, n < e.1 ∧ pathOf s e.1 = some path

instance (s : State ω) (path : Path) (n : Nat) : Decidable (Overtaken s path n) :=
  inferInstanceAs (Decidable (∃ e ∈ s.finished, _))

/-- The latest event of the path whose handler has finished is an add that succeeded. -/
def LatestAdded (s : State ω) (path : Path) : Prop :=
  ∃ n, (n, true) ∈ s.finished ∧ pathOf s n = some path ∧ ¬ Overtaken s path n

/-- The maps agree with the handlers that have finished. -/
def Tracks (s : State ω) : Prop := ∀ path, Present s.manager path ↔ LatestAdded s path

/-- All tasks have finished. -/
def Quiescent (s : State ω) : Prop := s.tasks = [] ∧ ∀ w, s.workers w = .idle

/-- The last udev event of the path is an add whose handler succeeded. -/
def LastEventAdded (s : State ω) (path : Path) : Prop :=
  ∃ n, s.events[n]? = some ⟨path, .add⟩ ∧ (n, true) ∈ s.finished ∧
    ∀ m, pathOf s m = some path → m ≤ n

def Converged (s : State ω) : Prop := ∀ path, Present s.manager path ↔ LastEventAdded s path

/-- An add that succeeds after the handler of a later event finds the path present. -/
def AddsInOrder (s : State ω) (path : Path) (n : Nat) : Prop :=
  Overtaken s path n → Present s.manager path

/-- An add that gives up leaves no device of an earlier event behind. -/
def GivesUpInOrder (s : State ω) (path : Path) (n : Nat) : Prop :=
  Overtaken s path n ∨ ¬ Present s.manager path

/-- A removal after the handler of a later event changes nothing, another finds the path in one map
at most. -/
def RemovesInOrder (s : State ω) (path : Path) (n : Nat) : Prop :=
  if Overtaken s path n then Present s.manager path → PresentTwice s.manager path
  else ¬ PresentTwice s.manager path

/-- What an attempt to add comes to is in order. -/
def AttemptInOrder (s : State ω) (path : Path) (n : Nat) :
    Option (Handled (Option Found)) → Prop
  | some (.returned (some .device)) => AddsInOrder s path n
  | some (.returned (some .receiver)) | some .rescheduled | none => True
  | some (.returned (some .nothing)) | some (.returned none) | some .failed =>
    GivesUpInOrder s path n

/-- The handlers of a path finish in the order of its events, as far as the maps can tell. -/
def InOrder (s : State ω) : Label ω → Prop
  | .add w supported env => ∀ n path tries, s.workers w = .running ⟨n, .add path tries⟩ →
    AttemptInOrder s path n
      (DeviceMonitor.addHandler supported (DeviceManager.addDevice env) tries)
  | .publish w _ => ∀ n path, s.workers w = .publishing n path → AddsInOrder s path n
  | .remove w => ∀ n path, s.workers w = .running ⟨n, .remove path⟩ → RemovesInOrder s path n
  | _ => True

variable [DecidableEq ω]

/-- The event that a handler is for. -/
def target : Handler → Event
  | .add path _ => ⟨path, .add⟩
  | .remove path => ⟨path, .remove⟩

/-- The event whose handler a worker runs, with its number. -/
def inHand : Worker → Option (Nat × Event)
  | .idle => none
  | .running task => some (task.event, target task.handler)
  | .publishing n path => some (n, ⟨path, .add⟩)

/-- Where the events so far are. -/
def ledger (s : State ω) : Ledger ω where
  queue := s.tasks.map Task.event
  hand w := (inHand (s.workers w)).map Prod.fst
  done := s.finished.map Prod.fst
  next := s.events.length

omit [DecidableEq ω] in
theorem hand_of_inHand {s : State ω} {w : ω} {n : Nat} {e : Event}
    (hw : inHand (s.workers w) = some (n, e)) : (ledger s).hand w = some n := by
  simp only [ledger, hw, Option.map_some]

structure Inv (s : State ω) : Prop where
  /-- Every event is queued, in hand, or finished. -/
  conserved : (ledger s).Conserved
  queued : ∀ task ∈ s.tasks, s.events[task.event]? = some (target task.handler)
  hands : ∀ w n e, inHand (s.workers w) = some (n, e) → s.events[n]? = some e
  finished : ∀ n, (n, true) ∈ s.finished → ∃ path, s.events[n]? = some ⟨path, .add⟩

omit [DecidableEq ω] in
theorem Inv.manager {s : State ω} (hs : Inv s) (m : DeviceManager.State) :
    Inv { s with manager := m } :=
  ⟨hs.conserved, hs.queued, hs.hands, hs.finished⟩

theorem target_handler (e : Event) : target e.handler = e := by
  rcases e with ⟨path, action⟩
  cases action <;> rfl

theorem hand_setWorker (s : State ω) (w : ω) (worker : Worker) :
    (ledger (setWorker s w worker)).hand =
      Function.update (ledger s).hand w ((inHand worker).map Prod.fst) :=
  Function.comp_update (fun worker => (inHand worker).map Prod.fst) s.workers w worker

theorem hands_setWorker {s : State ω} (hs : Inv s) {w : ω} {worker : Worker}
    (hw : ∀ n e, inHand worker = some (n, e) → s.events[n]? = some e) (v : ω) (n : Nat) (e : Event)
    (hv : inHand ((setWorker s w worker).workers v) = some (n, e)) : s.events[n]? = some e := by
  by_cases hvw : v = w
  · subst hvw
    rw [show (setWorker s v worker).workers v = worker from Function.update_self ..] at hv
    exact hw n e hv
  · rw [show (setWorker s w worker).workers v = s.workers v from Function.update_of_ne hvw ..] at hv
    exact hs.hands v n e hv

omit [DecidableEq ω] in
theorem inv_event {s : State ω} (hs : Inv s) (e : Event) :
    Inv { s with
      events := s.events ++ [e]
      tasks := s.tasks ++ [⟨s.events.length, e.handler⟩] } := by
  have hkeep : ∀ {n : Nat} {e' : Event}, s.events[n]? = some e' → (s.events ++ [e])[n]? = some e' := by
    intro n e' h
    obtain ⟨hlt, -⟩ := List.getElem?_eq_some_iff.mp h
    rw [List.getElem?_append_left hlt, h]
  refine ⟨?_, fun task htask => ?_, fun w n e' hw => hkeep (hs.hands w n e' hw), fun n hn => ?_⟩
  · have hissue := hs.conserved.issue
    simp only [ledger, List.map_append, List.map_cons, List.map_nil, List.length_append,
      List.length_cons, List.length_nil] at hissue ⊢
    exact hissue
  · rcases List.mem_append.mp htask with h | h
    · exact hkeep (hs.queued task h)
    · rw [List.mem_singleton] at h
      rw [h, target_handler, List.getElem?_concat_length]
  · obtain ⟨path, hpath⟩ := hs.finished n hn
    exact ⟨path, hkeep hpath⟩

theorem inv_start {s : State ω} (hs : Inv s) {w : ω} {k : Nat} {task : Task}
    (idle : s.workers w = .idle) (queued : s.tasks[k]? = some task) :
    Inv { setWorker s w (.running task) with tasks := s.tasks.eraseIdx k } := by
  obtain ⟨hk, htask⟩ := List.getElem?_eq_some_iff.mp queued
  have hmem : task ∈ s.tasks := List.mem_of_getElem? queued
  refine ⟨?_, fun u hu => hs.queued u (List.mem_of_mem_eraseIdx hu),
    hands_setWorker hs ?_, hs.finished⟩
  · have hhand : (ledger s).hand w = none := by simp only [ledger, idle, inHand, Option.map_none]
    have hperm : (ledger s).queue.Perm (task.event :: (s.tasks.eraseIdx k).map Task.event) := by
      have hcons := (List.getElem_cons_eraseIdx_perm hk).symm.map Task.event
      rw [htask] at hcons
      exact hcons
    have htake := hs.conserved.take hhand hperm
    rw [← show (inHand (.running task)).map Prod.fst = some task.event from rfl,
      ← hand_setWorker] at htake
    exact htake
  · intro n e heq
    cases heq
    exact hs.queued task hmem

theorem inv_finish {s : State ω} (hs : Inv s) {w : ω} {n : Nat} {e : Event} {ok : Bool}
    (hw : inHand (s.workers w) = some (n, e)) (hok : ok = true → e.action = .add) :
    Inv (finish s w n ok) := by
  refine ⟨?_, hs.queued, hands_setWorker hs ?_, fun m hm => ?_⟩
  · have hfinish := hs.conserved.finish (hand_of_inHand hw)
    rw [← show (inHand .idle).map Prod.fst = none from rfl, ← hand_setWorker] at hfinish
    simp only [ledger, finish, List.map_append, List.map_cons, List.map_nil]
    exact hfinish
  · intro m e' heq
    cases heq
  · rcases List.mem_append.mp hm with h | h
    · exact hs.finished m h
    · rw [List.mem_singleton] at h
      cases h
      refine ⟨e.path, ?_⟩
      rw [← hok rfl]
      exact hs.hands w _ e hw

theorem inv_reschedule {s : State ω} (hs : Inv s) {w : ω} {n : Nat} {e : Event}
    {handler : Handler} (hw : inHand (s.workers w) = some (n, e)) (hhandler : target handler = e) :
    Inv { setWorker s w .idle with tasks := s.tasks ++ [⟨n, handler⟩] } := by
  refine ⟨?_, fun task htask => ?_, hands_setWorker hs ?_, hs.finished⟩
  · have hrequeue := hs.conserved.requeue (hand_of_inHand hw)
    rw [← show (inHand .idle).map Prod.fst = none from rfl, ← hand_setWorker] at hrequeue
    simp only [ledger, List.map_append, List.map_cons, List.map_nil]
    exact hrequeue
  · rcases List.mem_append.mp htask with h | h
    · exact hs.queued task h
    · rw [List.mem_singleton] at h
      rw [h, hhandler]
      exact hs.hands w n e hw
  · intro m e' heq
    cases heq

/-- A worker that stays with its event. -/
theorem inv_stay {s : State ω} (hs : Inv s) {w : ω} {worker : Worker}
    (hw : inHand worker = inHand (s.workers w)) : Inv (setWorker s w worker) := by
  refine ⟨?_, hs.queued, hands_setWorker hs ?_, hs.finished⟩
  · have hhand : (inHand worker).map Prod.fst = (ledger s).hand w := by rw [hw]; rfl
    change Ledger.Conserved { ledger s with hand := (ledger (setWorker s w worker)).hand }
    rw [hand_setWorker, hhand, Function.update_eq_self]
    exact hs.conserved
  · intro n e he
    rw [hw] at he
    exact hs.hands w n e he

theorem inv_step {s t : State ω} {a : Label ω} (hs : Inv s) (h : step s a = some t) : Inv t := by
  cases step_transition h with
  | event e => exact inv_event hs e
  | start idle queued => exact inv_start hs idle queued
  | device running _ => exact inv_finish (hs.manager _) (by rw [running]; rfl) fun _ => rfl
  | receiver running _ => exact (inv_stay hs (by rw [running]; rfl)).manager _
  | giveUp running _ => exact inv_finish hs (by rw [running]; rfl) (by simp)
  | reschedule running _ => exact inv_reschedule hs (by rw [running]; rfl) rfl
  | publish publishing _ _ _ =>
    exact inv_finish (hs.manager _) (by rw [publishing]; rfl) fun _ => rfl
  | remove running => exact inv_finish (hs.manager _) (by rw [running]; rfl) (by simp)
  | behind _ _ => exact hs.manager _

omit [DecidableEq ω] in
theorem Inv.pathOf_hand {s : State ω} (hs : Inv s) {w : ω} {n : Nat} {e : Event}
    (hw : inHand (s.workers w) = some (n, e)) : pathOf s n = some e.path := by
  rw [pathOf, hs.hands w n e hw, Option.map_some]

omit [DecidableEq ω] in
/-- An event in hand has not finished. -/
theorem Inv.unfinished {s : State ω} (hs : Inv s) {w : ω} {n : Nat} {e : Event}
    (hw : inHand (s.workers w) = some (n, e)) (b : Bool) : (n, b) ∉ s.finished := by
  intro hmem
  exact hs.conserved.hand_not_done (hand_of_inHand hw) (List.mem_map_of_mem hmem)

omit [DecidableEq ω] in
theorem latestAdded_congr {s t : State ω} (hfinished : t.finished = s.finished)
    (hpath : ∀ e ∈ s.finished, pathOf t e.1 = pathOf s e.1) (q : Path) :
    LatestAdded t q ↔ LatestAdded s q := by
  have hover : ∀ n, Overtaken t q n ↔ Overtaken s q n := by
    intro n
    simp only [Overtaken, hfinished]
    constructor
    · intro hex
      obtain ⟨e, he, hlt, hq⟩ := hex
      exact ⟨e, he, hlt, by rw [← hpath e he]; exact hq⟩
    · intro hex
      obtain ⟨e, he, hlt, hq⟩ := hex
      exact ⟨e, he, hlt, by rw [hpath e he]; exact hq⟩
  simp only [LatestAdded, hfinished, hover]
  constructor
  · intro hex
    obtain ⟨n, hn, hq, hnot⟩ := hex
    exact ⟨n, hn, by rw [← hpath _ hn]; exact hq, hnot⟩
  · intro hex
    obtain ⟨n, hn, hq, hnot⟩ := hex
    exact ⟨n, hn, by rw [hpath _ hn]; exact hq, hnot⟩

omit [DecidableEq ω] in
theorem Tracks.congr {s t : State ω} (ht : Tracks s)
    (hpresent : ∀ q, Present t.manager q ↔ Present s.manager q)
    (hlatest : ∀ q, LatestAdded t q ↔ LatestAdded s q) : Tracks t := by
  intro q
  rw [hpresent, hlatest]
  exact ht q

theorem overtaken_finish {s : State ω} (m : DeviceManager.State) (w : ω) {n : Nat} (ok : Bool)
    (q : Path) (k : Nat) :
    Overtaken (finish { s with manager := m } w n ok) q k ↔
      Overtaken s q k ∨ (k < n ∧ pathOf s n = some q) := by
  simp only [Overtaken, finish, List.mem_append, List.mem_singleton]
  constructor
  · intro hex
    obtain ⟨e, he | rfl, hlt, hq⟩ := hex
    · exact .inl ⟨e, he, hlt, hq⟩
    · exact .inr ⟨hlt, hq⟩
  · intro hor
    rcases hor with ⟨e, he, hlt, hq⟩ | ⟨hlt, hq⟩
    · exact ⟨e, .inl he, hlt, hq⟩
    · exact ⟨(n, ok), .inr rfl, hlt, hq⟩

omit [DecidableEq ω] in
theorem Overtaken.trans {s : State ω} {q : Path} {k n : Nat} (h : Overtaken s q n) (hlt : k < n) :
    Overtaken s q k := by
  obtain ⟨e, he, hn, hq⟩ := h
  exact ⟨e, he, Nat.lt_trans hlt hn, hq⟩

section Finish

variable {s : State ω} (m : DeviceManager.State) {w : ω} {n : Nat} {path : Path} {ok : Bool}

theorem latestAdded_finish_other (hpath : pathOf s n = some path) {q : Path} (hq : q ≠ path) :
    LatestAdded (finish { s with manager := m } w n ok) q ↔ LatestAdded s q := by
  have hnot : pathOf s n ≠ some q := by
    rw [hpath]
    exact fun h => hq (Option.some.inj h).symm
  simp only [LatestAdded, overtaken_finish, hnot, and_false, or_false]
  simp only [finish, List.mem_append, List.mem_singleton]
  constructor
  · intro hex
    obtain ⟨k, hk | hk, hkq, hover⟩ := hex
    · exact ⟨k, hk, hkq, hover⟩
    · cases hk
      exact absurd hkq hnot
  · intro hex
    obtain ⟨k, hk, hkq, hover⟩ := hex
    exact ⟨k, .inl hk, hkq, hover⟩

/-- A handler that finishes after that of a later event is not the latest. -/
theorem latestAdded_finish_late (hover : Overtaken s path n) :
    LatestAdded (finish { s with manager := m } w n ok) path ↔ LatestAdded s path := by
  simp only [LatestAdded, overtaken_finish]
  simp only [finish, List.mem_append, List.mem_singleton, not_or]
  constructor
  · intro hex
    obtain ⟨k, hk | hk, hkq, hnot, -⟩ := hex
    · exact ⟨k, hk, hkq, hnot⟩
    · cases hk
      exact absurd hover hnot
  · intro hex
    obtain ⟨k, hk, hkq, hnot⟩ := hex
    exact ⟨k, .inl hk, hkq, hnot, fun h => hnot (hover.trans h.1)⟩

theorem latestAdded_finish (hpath : pathOf s n = some path) (hnew : ∀ b, (n, b) ∉ s.finished)
    (hover : ¬ Overtaken s path n) :
    LatestAdded (finish { s with manager := m } w n ok) path ↔ ok = true := by
  simp only [LatestAdded, overtaken_finish]
  simp only [finish, List.mem_append, List.mem_singleton, not_or]
  constructor
  · intro hex
    obtain ⟨k, hk | hk, hkq, -, hnot⟩ := hex
    · exfalso
      rcases Nat.lt_trichotomy k n with hlt | rfl | hlt
      · exact hnot ⟨hlt, hpath⟩
      · exact hnew true hk
      · exact hover ⟨(k, true), hk, hlt, hkq⟩
    · cases hk
      rfl
  · intro heq
    subst heq
    exact ⟨n, .inr rfl, hpath, hover, fun h => Nat.lt_irrefl n h.1⟩

/-- A handler that finishes keeps the maps in agreement exactly if it leaves its path as it was
when it comes late, and as its own outcome says when it does not. -/
theorem tracks_finish {e : Event} (hs : Inv s) (ht : Tracks s)
    (hw : inHand (s.workers w) = some (n, e))
    (hother : ∀ q, q ≠ e.path → (Present m q ↔ Present s.manager q)) :
    Tracks (finish { s with manager := m } w n ok) ↔
      (Overtaken s e.path n → (Present m e.path ↔ Present s.manager e.path)) ∧
      (¬ Overtaken s e.path n → (Present m e.path ↔ ok = true)) := by
  have hpath := hs.pathOf_hand hw
  constructor
  · intro h
    refine ⟨fun hover => ?_, fun hover => ?_⟩
    · rw [ht e.path, ← latestAdded_finish_late m hover]
      exact h e.path
    · rw [← latestAdded_finish m hpath (hs.unfinished hw) hover]
      exact h e.path
  · intro hex q
    obtain ⟨hlate, hfirst⟩ := hex
    change Present m q ↔ _
    by_cases hq : q = e.path
    · rw [hq]
      by_cases hover : Overtaken s e.path n
      · rw [hlate hover, latestAdded_finish_late m hover]
        exact ht e.path
      · rw [hfirst hover, latestAdded_finish m hpath (hs.unfinished hw) hover]
    · rw [hother q hq, latestAdded_finish_other m hpath hq]
      exact ht q

/-- The three ways to finish. An add that succeeds makes its path present. -/
theorem tracks_finish_added {action : Action} (hs : Inv s) (ht : Tracks s)
    (hw : inHand (s.workers w) = some (n, ⟨path, action⟩))
    (hm : ∀ q, Present m q ↔ Present s.manager q ∨ q = path) :
    Tracks (finish { s with manager := m } w n true) ↔ AddsInOrder s path n := by
  have hhere : Present m path := (hm path).mpr (.inr rfl)
  have hother : ∀ q, q ≠ path → (Present m q ↔ Present s.manager q) := fun q hq => by
    rw [hm, or_iff_left hq]
  rw [tracks_finish m hs ht hw hother]
  simp [hhere, AddsInOrder]

theorem tracks_finish_gaveUp {action : Action} (hs : Inv s) (ht : Tracks s)
    (hw : inHand (s.workers w) = some (n, ⟨path, action⟩)) :
    Tracks (finish s w n false) ↔ GivesUpInOrder s path n := by
  have hfinish : Tracks (finish { s with manager := s.manager } w n false) ↔ _ :=
    tracks_finish s.manager hs ht hw fun _ _ => Iff.rfl
  refine hfinish.trans ?_
  simp [GivesUpInOrder, or_iff_not_imp_left]

theorem tracks_finish_removed {action : Action} (hs : Inv s) (ht : Tracks s)
    (hw : inHand (s.workers w) = some (n, ⟨path, action⟩)) :
    Tracks (finish { s with manager := removeDevice s.manager path } w n false) ↔
      RemovesInOrder s path n := by
  have hpresent := DeviceManager.present_removeDevice s.manager path
  have hhere : Present (removeDevice s.manager path) path ↔ PresentTwice s.manager path := by
    rw [hpresent, if_pos rfl]
  have hother : ∀ q, q ≠ path →
      (Present (removeDevice s.manager path) q ↔ Present s.manager q) := fun q hq => by
    rw [hpresent, if_neg hq]
  rw [tracks_finish _ hs ht hw hother, hhere, RemovesInOrder]
  by_cases hover : Overtaken s path n
  · simp only [hover, if_true, true_implies, not_true, false_implies, and_true]
    exact ⟨fun h => h.mpr, fun h => ⟨DeviceManager.PresentTwice.present, h⟩⟩
  · simp [hover]

end Finish

theorem tracks_step {s t : State ω} {a : Label ω} (hs : Inv s) (ht : Tracks s)
    (h : step s a = some t) : Tracks t ↔ InOrder s a := by
  -- the steps that finish no handler
  have hquiet : Tracks t → InOrder s a → (Tracks t ↔ InOrder s a) :=
    fun ht ha => ⟨fun _ => ha, fun _ => ht⟩
  cases step_transition h with
  | event e =>
    refine hquiet (ht.congr (fun _ => Iff.rfl) (latestAdded_congr rfl ?_)) trivial
    intro f hf
    have hlt : f.1 < s.events.length := hs.conserved.lt_of_done (List.mem_map_of_mem hf)
    simp only [pathOf, List.getElem?_append_left hlt]
  | start _ _ => exact hquiet ht trivial
  | @device w supported env n path tries running result =>
    rw [tracks_finish_added _ hs ht (by rw [running]; rfl)
      (DeviceManager.present_insertDevice s.manager path)]
    simp [InOrder, running, result, AttemptInOrder]
  | @receiver w supported env n path tries running result =>
    refine hquiet ht ?_
    simp [InOrder, running, result, AttemptInOrder]
  | @giveUp w supported env n path tries running result =>
    rw [tracks_finish_gaveUp hs ht (by rw [running]; rfl)]
    simp only [List.mem_cons, List.not_mem_nil, or_false] at result
    rcases result with result | result | result <;>
      simp [InOrder, running, result, AttemptInOrder]
  | @reschedule w supported env n path tries running result =>
    refine hquiet ht ?_
    simp [InOrder, running, result, AttemptInOrder]
  | @publish w k n path o publishing _ _ at_ =>
    have hm := DeviceManager.present_publish s.manager k o
    rw [at_] at hm
    rw [tracks_finish_added _ hs ht (by rw [publishing]; rfl) hm]
    simp [InOrder, publishing]
  | @remove w n path running =>
    rw [tracks_finish_removed hs ht (by rw [running]; rfl)]
    simp [InOrder, running]
  | behind isReceiver moves =>
    exact hquiet (ht.congr (present_receiverStep isReceiver moves) fun _ => Iff.rfl) trivial

omit [DecidableEq ω] in
/-- Once every handler has finished, the latest event whose handler has finished is the last. -/
theorem latestAdded_iff_lastEventAdded {s : State ω} (hs : Inv s) (hquiet : Quiescent s)
    (path : Path) : LatestAdded s path ↔ LastEventAdded s path := by
  have hhands : ∀ w, (ledger s).hand w = none := fun w => by
    simp only [ledger, hquiet.2 w, inHand, Option.map_none]
  have hqueue : (ledger s).queue = [] := by simp only [ledger, hquiet.1, List.map_nil]
  have hdone : ∀ {m : Nat} {q}, pathOf s m = some q → ∃ b, (m, b) ∈ s.finished := by
    intro m q hm
    obtain ⟨e, he, -⟩ := Option.map_eq_some_iff.mp hm
    obtain ⟨hlt, -⟩ := List.getElem?_eq_some_iff.mp he
    obtain ⟨⟨m', b⟩, hmem, rfl⟩ := List.mem_map.mp (hs.conserved.done_of_idle hqueue hhands hlt)
    exact ⟨b, hmem⟩
  constructor
  · intro hex
    obtain ⟨n, hn, hpath, hover⟩ := hex
    obtain ⟨q, hq⟩ := hs.finished n hn
    have hqp : q = path := by simpa [pathOf, hq] using hpath
    rw [hqp] at hq
    refine ⟨n, hq, hn, fun m hm => ?_⟩
    by_contra hlt
    obtain ⟨b, hb⟩ := hdone hm
    exact hover ⟨(m, b), hb, Nat.lt_of_not_le hlt, hm⟩
  · intro hex
    obtain ⟨n, he, hn, hlast⟩ := hex
    refine ⟨n, hn, by rw [pathOf, he, Option.map_some], ?_⟩
    intro hex
    obtain ⟨e, -, hlt, hpath⟩ := hex
    exact absurd (hlast e.1 hpath) (Nat.not_le_of_lt hlt)

theorem inv_init : Inv (machine (ω := ω)).init := by
  refine ⟨.empty, ?_, ?_, ?_⟩
  · intro task h
    cases h
  · intro w n e h
    cases h
  · intro n h
    cases h

theorem tracks_init : Tracks (machine (ω := ω)).init := by
  intro path
  constructor
  · rintro (h | h) <;> cases h
  · intro hex
    obtain ⟨n, h, -⟩ := hex
    cases h

/-- The maps follow the handlers all along a run exactly if its handlers finish in order; then a
path is present, once all tasks have finished, exactly if its last event is an add whose handler
succeeded. -/
theorem hotplug_converges (as : List (Label ω)) :
    (machine.Always Tracks machine.init as ↔ machine.Meets InOrder machine.init as) ∧
    (machine.Meets InOrder machine.init as → ∀ s, machine.run machine.init as = some s →
      Quiescent s → Converged s) := by
  have hiff : machine.Always Tracks machine.init as ↔ machine.Meets InOrder machine.init as :=
    Machine.always_iff_meets (J := Inv) (fun _ _ _ hs _ h _ => inv_step hs h)
      (fun _ _ _ hs ht h => tracks_step hs ht h) inv_init tracks_init
  refine ⟨hiff, fun hmeets s hrun hquiet path => ?_⟩
  have hinv : Inv s :=
    Machine.run_invariant (I := Inv) (fun _ _ _ hs h => inv_step hs h) inv_init hrun
  have htracks : Tracks s := by
    have hall := hiff.mpr hmeets
    rw [← List.append_nil as] at hall
    exact hall.of_run hrun
  rw [htracks path, latestAdded_iff_lastEventAdded hinv hquiet]

/-- A node is added and removed while its handler is still talking to the device: the removal
finds nothing to remove, and the device stays. -/
theorem ghost_device_remains :
    ∃ s : State Bool, machine.Reachable s ∧ Quiescent s ∧ Present s.manager "/dev/hidraw0" ∧
      ¬ LastEventAdded s "/dev/hidraw0" ∧ ¬ Converged s := by
  have hrun : (machine (ω := Bool)).Reachable _ :=
    ⟨[.event ⟨"/dev/hidraw0", .add⟩, .start false 0, .event ⟨"/dev/hidraw0", .remove⟩,
      .start true 0, .remove true, .add false (.ok true) {}], rfl⟩
  have hlast : ∀ s : State Bool,
      s.events = [⟨"/dev/hidraw0", .add⟩, ⟨"/dev/hidraw0", .remove⟩] →
      ¬ LastEventAdded s "/dev/hidraw0" := by
    intro s hevents hex
    obtain ⟨n, he, -, hmax⟩ := hex
    have hlt : 1 ≤ n := hmax 1 (by rw [pathOf, hevents]; rfl)
    rw [hevents] at he
    obtain ⟨hn, he⟩ := List.getElem?_eq_some_iff.mp he
    have hn1 : n = 1 := by
      simp only [List.length_cons, List.length_nil] at hn
      omega
    subst hn1
    cases he
  refine ⟨_, hrun, ⟨rfl, fun w => by cases w <;> rfl⟩, .inl (by decide), hlast _ rfl, ?_⟩
  intro h
  exact hlast _ rfl ((h _).mp (.inl (by decide)))

end Logid.HotPlug
