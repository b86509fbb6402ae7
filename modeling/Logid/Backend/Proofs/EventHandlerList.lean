import Logid.Backend.EventHandlerList

/-!
# What a run delivers

While a run is active the list only grows at its front, and the handlers that the run has not come to yet
are those from its iterator on. Of these the nodes that are marked are the ones that have been removed.
-/

namespace Logid.Backend.EventHandlerList

open ListCursor

/-! ## The list and its history -/

/-- The list holds the handlers that are registered, and marked nodes between them. -/
structure Listed (list : List Node) (h : History) (fresh : Nat) : Prop where
  distinct : (list.map Node.iterator).Nodup
  added : ∀ node ∈ list, node.iterator ∈ h.added
  active : ∀ node ∈ list, node.active = true ↔ node.iterator ∉ h.removed
  registered : (list.map Node.iterator).filter (fun it => it ∉ h.removed) = h.registered
  added_nodup : h.added.Nodup
  fresh : ∀ it ∈ h.added, it < fresh
  removed : ∀ it ∈ h.removed, it ∈ h.added

namespace Listed

variable {list : List Node} {h : History} {fresh : Nat}

theorem not_mem_fresh (hl : Listed list h fresh) : fresh ∉ h.added :=
  fun hmem => Nat.lt_irrefl fresh (hl.fresh fresh hmem)

theorem add (hl : Listed list h fresh) :
    Listed ({ iterator := fresh } :: list) { h with added := fresh :: h.added } (fresh + 1) where
  distinct := by
    rw [List.map_cons, List.nodup_cons]
    refine ⟨?_, hl.distinct⟩
    intro hmem
    obtain ⟨node, hnode, heq⟩ := List.mem_map.mp hmem
    have hadded := hl.added node hnode
    rw [show node.iterator = fresh from heq] at hadded
    exact hl.not_mem_fresh hadded
  added := by
    intro node hnode
    rcases List.mem_cons.mp hnode with rfl | hnode
    · exact List.mem_cons_self
    · exact List.mem_cons_of_mem _ (hl.added node hnode)
  active := by
    intro node hnode
    rcases List.mem_cons.mp hnode with rfl | hnode
    · exact iff_of_true rfl fun hmem => hl.not_mem_fresh (hl.removed _ hmem)
    · exact hl.active node hnode
  registered := by
    have hregistered := hl.registered
    rw [History.registered] at hregistered ⊢
    rw [List.map_cons, List.filter_cons, List.filter_cons, hregistered]
  added_nodup := List.nodup_cons.mpr ⟨hl.not_mem_fresh, hl.added_nodup⟩
  fresh := by
    intro it hit
    rcases List.mem_cons.mp hit with rfl | hit
    · exact Nat.lt_succ_self _
    · exact Nat.lt_succ_of_lt (hl.fresh it hit)
  removed := fun it hit => List.mem_cons_of_mem _ (hl.removed it hit)

/-- A list in which only marked nodes are missing. -/
theorem filter_active (hl : Listed list h fresh) : Listed (list.filter Node.active) h fresh where
  distinct := hl.distinct.sublist (List.filter_sublist.map Node.iterator)
  added := fun node hnode => hl.added node (List.mem_of_mem_filter hnode)
  active := fun node hnode => hl.active node (List.mem_of_mem_filter hnode)
  registered := by
    have hactive : list.filter Node.active =
        list.filter ((fun it => decide (it ∉ h.removed)) ∘ Node.iterator) :=
      List.filter_congr fun node hnode => by
        rw [Function.comp_apply, Bool.eq_iff_iff, decide_eq_true_eq]
        exact hl.active node hnode
    rw [hactive, ← List.filter_map, List.filter_filter]
    simp only [Bool.and_self]
    exact hl.registered
  added_nodup := hl.added_nodup
  fresh := hl.fresh
  removed := hl.removed

/-- What is not removed after a removal. -/
theorem filter_remove (l removed : List Nat) (it : Nat) :
    (l.filter fun other => other ∉ it :: removed) =
      (l.filter fun other => other ∉ removed).filter fun other => other ≠ it := by
  rw [List.filter_filter]
  refine List.filter_congr fun other _ => ?_
  simp [not_or]

theorem erase (hl : Listed list h fresh) {it : Nat} (hit : it ∈ h.added) :
    Listed (list.filter fun node => node.iterator ≠ it) { h with removed := it :: h.removed }
      fresh where
  distinct := hl.distinct.sublist (List.filter_sublist.map Node.iterator)
  added := fun node hnode => hl.added node (List.mem_of_mem_filter hnode)
  active := by
    intro node hnode
    rw [List.mem_filter, decide_eq_true_eq] at hnode
    rw [hl.active node hnode.1, List.mem_cons, not_or, and_iff_right hnode.2]
  registered := by
    have hmap : (list.filter fun node => node.iterator ≠ it).map Node.iterator =
        (list.map Node.iterator).filter fun other => other ≠ it := by
      rw [List.filter_map]
      rfl
    rw [History.registered, filter_remove, filter_remove, hmap, ← History.registered,
      ← hl.registered]
    simp only [List.filter_filter]
    refine List.filter_congr fun other _ => ?_
    rw [Bool.and_comm, Bool.and_assoc, Bool.and_self]
    exact Bool.and_comm _ _
  added_nodup := hl.added_nodup
  fresh := hl.fresh
  removed := List.forall_mem_cons.mpr ⟨hit, hl.removed⟩

/-- The mark of a node. -/
def mark (it : Nat) (node : Node) : Node :=
  if node.iterator = it then { node with active := false } else node

theorem iterator_mark (it : Nat) (node : Node) : (mark it node).iterator = node.iterator := by
  rw [mark]
  split
  · rfl
  · rfl

theorem map_iterator_mark (it : Nat) (list : List Node) :
    (list.map (mark it)).map Node.iterator = list.map Node.iterator := by
  rw [List.map_map]
  exact List.map_congr_left fun node _ => iterator_mark it node

theorem mark_all (hl : Listed list h fresh) {it : Nat} (hit : it ∈ h.added) :
    Listed (list.map (mark it)) { h with removed := it :: h.removed } fresh where
  distinct := (map_iterator_mark it list).symm ▸ hl.distinct
  added := by
    intro _ hmarked
    obtain ⟨node, hnode, rfl⟩ := List.mem_map.mp hmarked
    rw [iterator_mark]
    exact hl.added node hnode
  active := by
    intro _ hmarked
    obtain ⟨node, hnode, rfl⟩ := List.mem_map.mp hmarked
    rw [iterator_mark, List.mem_cons, not_or, mark]
    split
    next heq => exact iff_of_false nofun fun hne => hne.1 heq
    next hne => rw [hl.active node hnode, and_iff_right hne]
  registered := by
    rw [map_iterator_mark, History.registered, filter_remove, filter_remove, hl.registered,
      ← History.registered]
  added_nodup := hl.added_nodup
  fresh := hl.fresh
  removed := List.forall_mem_cons.mpr ⟨hit, hl.removed⟩

end Listed

/-! ## A run and the list -/

/-- The nodes that a run has not come to yet. -/
def Run.ahead (run : Run) (iterators : List Nat) : List Nat :=
  if run.inCallback then (rest iterators run.position).tail else rest iterators run.position

/-- A run that has done its work up to its iterator. -/
structure Run.Follows (run : Run) (iterators : List Nat) (h : History) : Prop where
  position : ∀ it, run.position = some it → it ∈ iterators
  callback : run.inCallback = true → run.position ≠ none
  visited : run.visits.map Visit.handler ++
    (run.ahead iterators).filter (fun it => it ∈ run.start.registered) = run.start.registered
  stale : ∀ it ∈ run.ahead iterators, it ∉ run.start.registered → it ∈ h.removed
  called : run.called = (run.visits.filter Visit.due).map Visit.handler
  nodup : run.start.registered.Nodup

namespace Run.Follows

variable {run : Run} {iterators : List Nat} {h : History}

theorem remove (hf : run.Follows iterators h) (it : Nat) :
    run.Follows iterators { h with removed := it :: h.removed } where
  position := hf.position
  callback := hf.callback
  visited := hf.visited
  stale := fun other hother hne => List.mem_cons_of_mem it (hf.stale other hother hne)
  called := hf.called
  nodup := hf.nodup

theorem ahead_cons (hf : run.Follows iterators h) {it : Nat} (hit : it ∉ iterators) :
    run.ahead (it :: iterators) = run.ahead iterators := by
  have hrest : rest (it :: iterators) run.position = rest iterators run.position :=
    rest_cons_of_ne fun other hother heq => hit (heq ▸ hf.position other hother)
  rw [Run.ahead, Run.ahead, hrest]

theorem add (hf : run.Follows iterators h) {it : Nat} (hit : it ∉ iterators) :
    run.Follows (it :: iterators) { h with added := it :: h.added } where
  position := fun other hother => List.mem_cons_of_mem it (hf.position other hother)
  callback := hf.callback
  visited := by
    rw [hf.ahead_cons hit]
    exact hf.visited
  stale := by
    rw [hf.ahead_cons hit]
    exact hf.stale
  called := hf.called
  nodup := hf.nodup

/-- A run at the start. -/
theorem start {list : List Node} {fresh : Nat} (hl : Listed list h fresh) :
    Run.Follows { position := (list.map Node.iterator).head?, start := h }
      (list.map Node.iterator) h := by
  have hahead : Run.ahead { position := (list.map Node.iterator).head?, start := h }
      (list.map Node.iterator) = list.map Node.iterator := rest_head? _
  have hmem : ∀ it ∈ list.map Node.iterator, it ∈ h.registered ↔ it ∉ h.removed := by
    intro it hit
    rw [← hl.registered, List.mem_filter, decide_eq_true_eq, and_iff_right hit]
  exact {
    position := fun it hit => List.mem_of_mem_head? hit
    callback := nofun
    visited := by
      rw [hahead, List.map_nil, List.nil_append]
      calc
        (list.map Node.iterator).filter (fun it => it ∈ h.registered) =
            (list.map Node.iterator).filter fun it => it ∉ h.removed :=
          List.filter_congr fun it hit => decide_eq_decide.mpr (hmem it hit)
        _ = h.registered := hl.registered
    stale := by
      rw [hahead]
      intro it hit hne
      exact not_not.mp fun hremoved => hne ((hmem it hit).mpr hremoved)
    called := rfl
    nodup := hl.added_nodup.filter _ }

end Run.Follows

/-! ### A round of the loop -/

section Note

variable (run : Run) (h : History) (it : Nat) (held : Bool)

@[simp] theorem Run.note_start : (run.note h it held).start = run.start := by
  unfold Run.note
  split <;> rfl

@[simp] theorem Run.note_position : (run.note h it held).position = run.position := by
  unfold Run.note
  split <;> rfl

@[simp] theorem Run.note_inCallback : (run.note h it held).inCallback = run.inCallback := by
  unfold Run.note
  split <;> rfl

@[simp] theorem Run.note_called : (run.note h it held).called = run.called := by
  unfold Run.note
  split <;> rfl

end Note

namespace Run.Follows

variable {run : Run} {iterators : List Nat} {h : History} {it : Nat}

theorem ahead_eq (hf : run.Follows iterators h) (hout : run.inCallback = false)
    (hposition : run.position = some it) :
    run.ahead iterators = it :: (rest iterators (some it)).tail := by
  rw [Run.ahead, hout, hposition]
  exact rest_of_mem (hf.position it hposition)

theorem note_visited (hf : run.Follows iterators h) (hout : run.inCallback = false)
    (hposition : run.position = some it) (held : Bool) :
    (run.note h it held).visits.map Visit.handler ++
        (rest iterators (some it)).tail.filter (fun it => it ∈ run.start.registered) =
      run.start.registered := by
  have hvisited := hf.visited
  rw [hf.ahead_eq hout hposition, List.filter_cons] at hvisited
  by_cases hmem : it ∈ run.start.registered
  · rw [if_pos (decide_eq_true hmem)] at hvisited
    rw [Run.note, if_pos hmem, List.map_append, List.append_assoc]
    exact hvisited
  · rw [if_neg (by simpa using hmem)] at hvisited
    rw [Run.note, if_neg hmem]
    exact hvisited

/-- What a visit adds to the calls that are due. -/
theorem note_due (hf : run.Follows iterators h) (hout : run.inCallback = false)
    (hposition : run.position = some it) (held : Bool) :
    ((run.note h it held).visits.filter Visit.due).map Visit.handler =
      run.called ++ if it ∉ h.removed ∧ held = true then [it] else [] := by
  by_cases hmem : it ∈ run.start.registered
  · rw [Run.note, if_pos hmem, List.filter_append, List.map_append, hf.called]
    by_cases hdue : it ∉ h.removed ∧ held = true
    · simp [Visit.due, hdue]
    · simp [Visit.due, hdue]
  · have hremoved : it ∈ h.removed := by
      apply hf.stale it _ hmem
      rw [hf.ahead_eq hout hposition]
      exact List.mem_cons_self
    rw [Run.note, if_neg hmem, if_neg fun hdue => hdue.1 hremoved, List.append_nil, hf.called]

theorem note_stale (hf : run.Follows iterators h) (hout : run.inCallback = false)
    (hposition : run.position = some it) :
    ∀ other ∈ (rest iterators (some it)).tail, other ∉ run.start.registered → other ∈ h.removed := by
  intro other hother
  apply hf.stale other
  rw [hf.ahead_eq hout hposition]
  exact List.mem_cons_of_mem it hother

/-- A round that calls the handler, up to the callback. -/
theorem enter (hf : run.Follows iterators h) (hout : run.inCallback = false)
    (hposition : run.position = some it) {held : Bool} (hdue : it ∉ h.removed ∧ held = true) :
    Run.Follows { run.note h it held with inCallback := true, called := run.called ++ [it] }
      iterators h where
  position := by simpa using hf.position
  callback := by simp [hposition]
  visited := by simpa [Run.ahead, hposition] using hf.note_visited hout hposition held
  stale := by simpa [Run.ahead, hposition] using hf.note_stale hout hposition
  called := by
    have hcalled := hf.note_due hout hposition held
    rw [if_pos hdue] at hcalled
    exact hcalled.symm
  nodup := by simpa using hf.nodup

/-- A round that calls nothing. -/
theorem pass (hf : run.Follows iterators h) (hdistinct : iterators.Nodup)
    (hout : run.inCallback = false) (hposition : run.position = some it) {held : Bool}
    (hdue : ¬(it ∉ h.removed ∧ held = true)) :
    Run.Follows { run.note h it held with position := next iterators it } iterators h where
  position := fun other hother => next_mem hother
  callback := by simp [hout]
  visited := by
    simpa [Run.ahead, hout, rest_next hdistinct] using hf.note_visited hout hposition held
  stale := by simpa [Run.ahead, hout, rest_next hdistinct] using hf.note_stale hout hposition
  called := by
    have hcalled := hf.note_due hout hposition held
    rw [if_neg hdue, List.append_nil] at hcalled
    simpa using hcalled.symm
  nodup := by simpa using hf.nodup

theorem leave (hf : run.Follows iterators h) (hdistinct : iterators.Nodup)
    (hin : run.inCallback = true) (hposition : run.position = some it) :
    Run.Follows { run with inCallback := false, position := next iterators it } iterators h where
  position := fun other hother => next_mem hother
  callback := nofun
  visited := by simpa [Run.ahead, hin, hposition, rest_next hdistinct] using hf.visited
  stale := by simpa [Run.ahead, hin, hposition, rest_next hdistinct] using hf.stale
  called := hf.called
  nodup := hf.nodup

theorem delivered (hf : run.Follows iterators h) (hout : run.inCallback = false)
    (hposition : run.position = none) : run.Delivered := by
  have hvisited : run.visits.map Visit.handler = run.start.registered := by
    have hvisited := hf.visited
    rw [Run.ahead, hout, hposition] at hvisited
    simpa [rest] using hvisited
  refine ⟨hvisited, hf.called, ?_⟩
  rw [hf.called]
  exact (hvisited ▸ hf.nodup).sublist (List.filter_sublist.map Visit.handler)

/-- A run calls only handlers that were registered when it started. -/
theorem called_registered (hf : run.Follows iterators h) :
    ∀ it ∈ run.called, it ∈ run.start.registered := by
  intro it hit
  rw [hf.called] at hit
  rw [← hf.visited]
  exact List.mem_append_left _ ((List.filter_sublist.map Visit.handler).subset hit)

end Run.Follows

/-! ## The steps -/

theorem add_cases {s t : State} (h : step s .add = some t) : t = s.add := by
  obtain ⟨-, h⟩ := Option.ite_none_right_eq_some.mp h
  exact (Option.some_inj.mp h).symm

theorem remove_cases {s t : State} {it : Nat} (h : step s (.remove it) = some t) :
    it ∈ s.iterators ∧ t = s.remove it := by
  obtain ⟨hcall, h⟩ := Option.ite_none_right_eq_some.mp h
  exact ⟨hcall.2, (Option.some_inj.mp h).symm⟩

theorem runAll_cases {s t : State} (h : step s .runAll = some t) : t = s.runAll := by
  obtain ⟨-, h⟩ := Option.ite_none_right_eq_some.mp h
  exact (Option.some_inj.mp h).symm

/-- The node of the innermost run. -/
theorem node_cases {s : State} {node : Node} (h : s.node = some node) :
    ∃ run runs, s.runs = run :: runs ∧ run.inCallback = false ∧
      run.position = some node.iterator ∧ node ∈ s.list := by
  unfold State.node at h
  split at h
  next => cases h
  next run runs hruns =>
    split at h
    next => cases h
    next hin =>
      obtain ⟨it, hposition, hfind⟩ := Option.bind_eq_some_iff.mp h
      have hit : node.iterator = it := by simpa using List.find?_some hfind
      exact ⟨run, runs, hruns, Bool.eq_false_iff.mpr hin, hit ▸ hposition,
        List.mem_of_find?_eq_some hfind⟩

theorem calls_eq_some_iff {s : State} {held : Bool} {it : Nat} :
    s.calls held = some it ↔
      ∃ node, s.node = some node ∧ node.active = true ∧ held = true ∧ node.iterator = it := by
  rw [State.calls, Option.bind_eq_some_iff]
  simp [and_assoc]

theorem visit_cases {s t : State} {held : Bool} (h : visit s held = some t) :
    ∃ run runs node, s.runs = run :: runs ∧ s.node = some node ∧
      ((node.active = true ∧ held = true ∧
          t = { s with runs :=
            { run.note s.history node.iterator held with
              inCallback := true, called := run.called ++ [node.iterator] } :: runs }) ∨
        (¬(node.active = true ∧ held = true) ∧
          t = { s with runs :=
            { run.note s.history node.iterator held with
              position := next s.iterators node.iterator } :: runs })) := by
  unfold visit at h
  split at h
  next run runs node hruns hnode =>
    refine ⟨run, runs, node, hruns, hnode, ?_⟩
    split at h
    next it hcalls =>
      obtain ⟨node', hnode', hactive, hheld, rfl⟩ := calls_eq_some_iff.mp hcalls
      obtain rfl : node = node' := Option.some_inj.mp (hnode.symm.trans hnode')
      left
      refine ⟨hactive, hheld, ?_⟩
      rw [← Option.some_inj.mp h, Run.note_called]
    next hcalls =>
      right
      refine ⟨?_, (Option.some_inj.mp h).symm⟩
      rintro ⟨hactive, hheld⟩
      rw [calls_eq_some_iff.mpr ⟨node, hnode, hactive, hheld, rfl⟩] at hcalls
      cases hcalls
  next => cases h

theorem callbackReturns_cases {s t : State} (h : callbackReturns s = some t) :
    ∃ run runs it, s.runs = run :: runs ∧ run.inCallback = true ∧ run.position = some it ∧
      t = { s with runs :=
        { run with inCallback := false, position := next s.iterators it } :: runs } := by
  unfold callbackReturns at h
  split at h
  next run runs hruns =>
    split at h
    next it hin hposition =>
      exact ⟨run, runs, it, hruns, hin, hposition, (Option.some_inj.mp h).symm⟩
    next => cases h
  next => cases h

theorem callbackThrows_cases {s t : State} (h : callbackThrows s = some t) :
    ∃ run runs, s.runs = run :: runs ∧ t = { s with runs } := by
  unfold callbackThrows at h
  split at h
  next run runs hruns =>
    split at h
    next => exact ⟨run, runs, hruns, (Option.some_inj.mp h).symm⟩
    next => cases h
  next => cases h

theorem finish_cases {s t : State} (h : finish s = some t) :
    ∃ run runs, s.runs = run :: runs ∧ run.inCallback = false ∧ run.position = none ∧
      t = { s with runs, finished := run :: s.finished } := by
  unfold finish at h
  split at h
  next run runs hruns =>
    split at h
    next hend => exact ⟨run, runs, hruns, hend.1, hend.2, (Option.some_inj.mp h).symm⟩
    next => cases h
  next => cases h

/-- While a run is active a removal only marks. -/
theorem remove_list {s : State} (hlock : ¬s.ownsLock = true) (it : Nat) :
    (s.remove it).list = s.list.map (Listed.mark it) :=
  if_neg hlock

theorem remove_iterators {s : State} (hlock : ¬s.ownsLock = true) (it : Nat) :
    (s.remove it).iterators = s.iterators := by
  rw [State.iterators, remove_list hlock it, Listed.map_iterator_mark]
  rfl

/-! ## The invariant -/

structure Inv (s : State) : Prop where
  listed : Listed s.list s.history s.fresh
  runs : ∀ run ∈ s.runs, run.Follows s.iterators s.history
  finished : ∀ run ∈ s.finished, run.Delivered
  started : ∀ run ∈ s.runs ++ s.finished, run.start.added <:+ s.history.added

namespace Inv

variable {s t : State}

theorem init : Inv {} where
  listed := {
    distinct := List.nodup_nil
    added := nofun
    active := nofun
    registered := rfl
    added_nodup := List.nodup_nil
    fresh := nofun
    removed := nofun }
  runs := nofun
  finished := nofun
  started := nofun

theorem mem_added (hi : Inv s) {it : Nat} (hit : it ∈ s.iterators) : it ∈ s.history.added := by
  obtain ⟨node, hnode, rfl⟩ := List.mem_map.mp hit
  exact hi.listed.added node hnode

theorem add (hi : Inv s) : Inv s.add where
  listed := hi.listed.add
  runs := fun run hrun =>
    (hi.runs run hrun).add fun hmem => hi.listed.not_mem_fresh (hi.mem_added hmem)
  finished := hi.finished
  started := fun run hrun => (hi.started run hrun).trans (List.suffix_cons _ _)

theorem runs_of_ownsLock (h : s.ownsLock = true) : s.runs = [] := List.isEmpty_iff.mp h

theorem remove (hi : Inv s) {it : Nat} (hit : it ∈ s.iterators) : Inv (s.remove it) := by
  have hadded := hi.mem_added hit
  by_cases hlock : s.ownsLock = true
  · -- the node is erased, and no run is there to refer to it
    have hruns := runs_of_ownsLock hlock
    refine ⟨?_, ?_, hi.finished, hi.started⟩
    · rw [State.remove, if_pos hlock]
      exact hi.listed.erase hadded
    · intro run hrun
      rw [State.remove, hruns] at hrun
      cases hrun
  · refine ⟨?_, ?_, hi.finished, hi.started⟩
    · rw [remove_list hlock it]
      exact hi.listed.mark_all hadded
    · intro run hrun
      rw [remove_iterators hlock it]
      exact (hi.runs run hrun).remove it

theorem cleanup (hi : Inv s) : Inv s.cleanup := by
  rw [State.cleanup]
  split
  next hlock =>
    refine ⟨hi.listed.filter_active, ?_, hi.finished, hi.started⟩
    intro run hrun
    rw [runs_of_ownsLock hlock] at hrun
    cases hrun
  next => exact hi

theorem runAll (hi : Inv s) : Inv s.runAll where
  listed := hi.cleanup.listed
  runs := List.forall_mem_cons.mpr ⟨.start hi.cleanup.listed, hi.cleanup.runs⟩
  finished := hi.cleanup.finished
  started := List.forall_mem_cons.mpr ⟨List.suffix_rfl, hi.cleanup.started⟩

/-- A step that changes the innermost run. -/
theorem set_run (hi : Inv s) {run run' : Run} {runs : List Run} (hruns : s.runs = run :: runs)
    (hstart : run'.start = run.start) (hfollows : run'.Follows s.iterators s.history) :
    Inv { s with runs := run' :: runs } := by
  have hall := hi.runs
  have hstarted := hi.started
  rw [hruns] at hall hstarted
  obtain ⟨-, hall⟩ := List.forall_mem_cons.mp hall
  obtain ⟨hhead, hstarted⟩ := List.forall_mem_cons.mp hstarted
  exact {
    listed := hi.listed
    runs := List.forall_mem_cons.mpr ⟨hfollows, hall⟩
    finished := hi.finished
    started := List.forall_mem_cons.mpr ⟨hstart ▸ hhead, hstarted⟩ }

theorem visit (hi : Inv s) {held : Bool} (h : visit s held = some t) : Inv t := by
  obtain ⟨run, runs, node, hruns, hnode, hcases⟩ := visit_cases h
  obtain ⟨run', runs', hruns', hout, hposition, hmem⟩ := node_cases hnode
  obtain ⟨rfl, rfl⟩ : run = run' ∧ runs = runs' := by simpa [hruns] using hruns'
  have hfollows := hi.runs run (hruns ▸ List.mem_cons_self)
  have hactive := hi.listed.active node hmem
  rcases hcases with ⟨hon, hheld, rfl⟩ | ⟨hoff, rfl⟩
  · exact hi.set_run hruns (Run.note_start ..)
      (hfollows.enter hout hposition ⟨hactive.mp hon, hheld⟩)
  · refine hi.set_run hruns (Run.note_start ..)
      (hfollows.pass hi.listed.distinct hout hposition ?_)
    rwa [← hactive]

theorem callbackReturns (hi : Inv s) (h : callbackReturns s = some t) : Inv t := by
  obtain ⟨run, runs, it, hruns, hin, hposition, rfl⟩ := callbackReturns_cases h
  have hfollows := hi.runs run (hruns ▸ List.mem_cons_self)
  exact hi.set_run hruns rfl (hfollows.leave hi.listed.distinct hin hposition)

theorem callbackThrows (hi : Inv s) (h : callbackThrows s = some t) : Inv t := by
  obtain ⟨run, runs, hruns, rfl⟩ := callbackThrows_cases h
  refine ⟨hi.listed, ?_, hi.finished, ?_⟩
  · exact fun other hother => hi.runs other (hruns ▸ List.mem_cons_of_mem run hother)
  · exact fun other hother => hi.started other (hruns ▸ List.mem_cons_of_mem run hother)

theorem finish (hi : Inv s) (h : finish s = some t) : Inv t := by
  obtain ⟨run, runs, hruns, hout, hposition, rfl⟩ := finish_cases h
  have hfollows := hi.runs run (hruns ▸ List.mem_cons_self)
  refine ⟨hi.listed, ?_, ?_, ?_⟩
  · exact fun other hother => hi.runs other (hruns ▸ List.mem_cons_of_mem run hother)
  · exact List.forall_mem_cons.mpr ⟨hfollows.delivered hout hposition, hi.finished⟩
  · intro other hother
    refine hi.started other ?_
    rw [hruns]
    have hperm : List.Perm (runs ++ run :: s.finished) (run :: (runs ++ s.finished)) :=
      List.perm_middle
    exact hperm.mem_iff.mp hother

theorem step (hi : Inv s) {op : Op} (h : machine.step s op = some t) : Inv t := by
  cases op with
  | add =>
    obtain rfl := add_cases h
    exact hi.add
  | remove it =>
    obtain ⟨hit, rfl⟩ := remove_cases h
    exact hi.remove hit
  | runAll =>
    obtain rfl := runAll_cases h
    exact hi.runAll
  | visit held => exact hi.visit h
  | callbackReturns => exact hi.callbackReturns h
  | callbackThrows => exact hi.callbackThrows h
  | finish => exact hi.finish h

theorem of_run {ops : List Op} (h : machine.run machine.init ops = some s) : Inv s :=
  Machine.run_invariant (fun _ _ _ hi hstep => hi.step hstep) init h

end Inv

/-! ## What holds along a run -/

/-- The steps of a run other than its start leave the list and its history. -/
theorem run_step_frame {s t : State} {op : Op} (h : machine.step s op = some t)
    (hadd : op ≠ .add) (hremove : ∀ it, op ≠ .remove it) (hrun : op ≠ .runAll) :
    t.list = s.list ∧ t.history = s.history := by
  cases op with
  | add => exact absurd rfl hadd
  | remove it => exact absurd rfl (hremove it)
  | runAll => exact absurd rfl hrun
  | visit held =>
    obtain ⟨run, runs, node, -, -, ⟨-, -, rfl⟩ | ⟨-, rfl⟩⟩ := visit_cases h
    · exact ⟨rfl, rfl⟩
    · exact ⟨rfl, rfl⟩
  | callbackReturns =>
    obtain ⟨run, runs, it, -, -, -, rfl⟩ := callbackReturns_cases h
    exact ⟨rfl, rfl⟩
  | callbackThrows =>
    obtain ⟨run, runs, -, rfl⟩ := callbackThrows_cases h
    exact ⟨rfl, rfl⟩
  | finish =>
    obtain ⟨run, runs, -, -, -, rfl⟩ := finish_cases h
    exact ⟨rfl, rfl⟩

@[simp] theorem cleanup_history (s : State) : s.cleanup.history = s.history := by
  unfold State.cleanup
  split <;> rfl

/-- No step forgets a removal. -/
theorem step_removed {s t : State} {op : Op} (h : machine.step s op = some t) {it : Nat}
    (hit : it ∈ s.history.removed ∨ op = .remove it) : it ∈ t.history.removed := by
  cases op with
  | add =>
    obtain rfl := add_cases h
    exact hit.resolve_right nofun
  | remove other =>
    obtain ⟨-, rfl⟩ := remove_cases h
    rcases hit with hit | heq
    · exact List.mem_cons_of_mem other hit
    · cases heq
      exact List.mem_cons_self
  | runAll =>
    obtain rfl := runAll_cases h
    have hremoved := hit.resolve_right nofun
    rw [← cleanup_history s] at hremoved
    exact hremoved
  | visit held
  | callbackReturns
  | callbackThrows
  | finish =>
    rw [(run_step_frame h nofun nofun nofun).2]
    exact hit.resolve_right nofun

theorem run_removed {ops : List Op} {s t : State} (h : machine.run s ops = some t) {it : Nat}
    (hit : it ∈ s.history.removed ∨ .remove it ∈ ops) : it ∈ t.history.removed := by
  induction ops generalizing s with
  | nil =>
    cases h
    exact hit.resolve_right nofun
  | cons op ops ih =>
    obtain ⟨u, hu, h⟩ := Machine.run_cons_some h
    apply ih h
    rcases hit with hit | hit
    · exact .inl (step_removed hu (.inl hit))
    · rcases List.mem_cons.mp hit with heq | hit
      · exact .inl (step_removed hu (.inr heq.symm))
      · exact .inr hit

/-- While a run is active, a step only puts nodes before the others. -/
theorem step_iterators {s t : State} {op : Op} (h : machine.step s op = some t) (hruns : s.runs ≠ []) :
    s.iterators <:+ t.iterators := by
  have hlock : ¬s.ownsLock = true := fun hlock => hruns (Inv.runs_of_ownsLock hlock)
  cases op with
  | add =>
    obtain rfl := add_cases h
    exact List.suffix_cons s.fresh s.iterators
  | remove it =>
    obtain ⟨-, rfl⟩ := remove_cases h
    exact (remove_iterators hlock it).symm ▸ List.suffix_rfl
  | runAll =>
    obtain rfl := runAll_cases h
    have hcleanup : s.cleanup = s := if_neg hlock
    have heq : s.runAll.iterators = s.iterators := by
      change s.cleanup.iterators = s.iterators
      rw [hcleanup]
    exact heq.symm ▸ List.suffix_rfl
  | visit held
  | callbackReturns
  | callbackThrows
  | finish =>
    have heq : t.iterators = s.iterators :=
      congrArg (List.map Node.iterator) (run_step_frame h nofun nofun nofun).1
    exact heq.symm ▸ List.suffix_rfl

namespace Inv

variable {s : State}

/-- A handler that has been removed is not called. -/
theorem not_removed_of_calls (hi : Inv s) {held : Bool} {it : Nat} (h : s.calls held = some it) :
    it ∉ s.history.removed := by
  obtain ⟨node, hnode, hactive, -, rfl⟩ := calls_eq_some_iff.mp h
  obtain ⟨run, runs, -, -, -, hmem⟩ := node_cases hnode
  exact (hi.listed.active node hmem).mp hactive

theorem called_registered (hi : Inv s) {run : Run} (hrun : run ∈ s.runs ++ s.finished) :
    ∀ it ∈ run.called, it ∈ run.start.registered := by
  rcases List.mem_append.mp hrun with hrun | hrun
  · exact (hi.runs run hrun).called_registered
  · have hdelivered := hi.finished run hrun
    intro it hit
    rw [hdelivered.called] at hit
    rw [← hdelivered.visited]
    exact (List.filter_sublist.map Visit.handler).subset hit

theorem sparesAdded (hi : Inv s) {run : Run} (hrun : run ∈ s.runs ++ s.finished) :
    run.SparesAdded s.history := by
  obtain ⟨later, hlater⟩ := hi.started run hrun
  refine ⟨later, hlater.symm, ?_⟩
  intro it hit hcalled
  have hadded : it ∈ run.start.added :=
    List.mem_of_mem_filter (hi.called_registered hrun it hcalled)
  have hnodup := hi.listed.added_nodup
  rw [← hlater] at hnodup
  exact (List.nodup_append.mp hnodup).2.2 it hit it hadded rfl

/-- An active run can go on: its iterator refers to a node of the list. -/
theorem goes_on (hi : Inv s) (hruns : s.runs ≠ []) :
    if s.canCall then (machine.step s .callbackReturns).isSome
    else (∀ held, (machine.step s (.visit held)).isSome) ∨ (machine.step s .finish).isSome := by
  obtain ⟨run, runs, hruns⟩ := List.exists_cons_of_ne_nil hruns
  have hfollows := hi.runs run (hruns ▸ List.mem_cons_self)
  have hcan : s.canCall = run.inCallback := by rw [State.canCall, hruns]
  rw [hcan]
  split
  next hin =>
    obtain ⟨it, hposition⟩ := Option.ne_none_iff_exists'.mp (hfollows.callback hin)
    simp [machine, EventHandlerList.step, EventHandlerList.callbackReturns, hruns, hin, hposition]
  next hout =>
    rw [Bool.not_eq_true] at hout
    cases hposition : run.position with
    | none =>
      right
      simp [machine, EventHandlerList.step, EventHandlerList.finish, hruns, hout, hposition]
    | some it =>
      left
      intro held
      obtain ⟨node, hnode, rfl⟩ := List.mem_map.mp (hfollows.position it hposition)
      have hfind : (s.list.find? fun other => other.iterator = node.iterator).isSome :=
        List.find?_isSome.mpr ⟨node, hnode, decide_eq_true rfl⟩
      obtain ⟨found, hfound⟩ := Option.isSome_iff_exists.mp hfind
      have hat : s.node = some found := by
        simp [State.node, hruns, hout, hposition, hfound]
      simp only [machine, EventHandlerList.step, EventHandlerList.visit, hruns, hat]
      split <;> rfl

end Inv

/-- Whatever callbacks do, a run of `run_all` that comes to its end has called exactly the handlers that it
had to, none that was added after its start; a handler that has been removed is not called any more; and
while a run is active no node is erased, so its iterator stays valid. -/
theorem delivery {ops : List Op} {s : State} (h : machine.run machine.init ops = some s) :
    (∀ run ∈ s.finished, run.Delivered) ∧
      (∀ run ∈ s.runs ++ s.finished, run.SparesAdded s.history) ∧
      (∀ it, .remove it ∈ ops → ∀ held, s.calls held ≠ some it) ∧
      (∀ run ∈ s.runs, ∀ it, run.position = some it → it ∈ s.iterators) ∧
      ∀ op t, machine.step s op = some t → s.runs ≠ [] → s.iterators <:+ t.iterators := by
  have hi := Inv.of_run h
  refine ⟨hi.finished, fun run hrun => hi.sparesAdded hrun, ?_, ?_, ?_⟩
  · intro it hremove held hcalls
    exact hi.not_removed_of_calls hcalls (run_removed h (.inr hremove))
  · exact fun run hrun => (hi.runs run hrun).position
  · exact fun op t hstep hruns => step_iterators hstep hruns

/-- Two handlers; the callback of the second one removes the first, adds a third and runs the list
again. -/
def nestedRun : List Op :=
  [.add, .add, .runAll, .visit true, .remove 0, .add, .runAll, .visit true, .callbackReturns,
    .visit true, .callbackReturns, .visit true, .finish, .callbackReturns, .visit true, .finish]

theorem nested_delivery :
    ∃ s, machine.run machine.init nestedRun = some s ∧
      s.finished.map Run.called = [[1], [2, 1]] ∧ (∀ run ∈ s.finished, run.Delivered) ∧
        s.calls true ≠ some 0 := by
  obtain ⟨s, hs⟩ : ∃ s, machine.run machine.init nestedRun = some s := ⟨_, rfl⟩
  refine ⟨s, hs, ?_, (delivery hs).1, (delivery hs).2.2.1 0 (by decide) true⟩
  have hcalled : (machine.run machine.init nestedRun).map (fun s => s.finished.map Run.called) =
      some [[1], [2, 1]] := rfl
  rw [hs] at hcalled
  exact Option.some_inj.mp hcalled

end Logid.Backend.EventHandlerList
