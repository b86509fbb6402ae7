import Logid.Backend.EventHandlerLock
import Logid.Backend.Proofs.EventHandlerList

/-!
# Each handler has one owner

So the iterators that locks remove are valid, and a list that only locks use makes a run of its own.
-/

namespace Logid.Backend.EventHandlerLock

open EventHandlerList (History)

/-! ## Registered handlers -/

theorem mem_registered {h : History} {it : Nat} :
    it ∈ h.registered ↔ it ∈ h.added ∧ it ∉ h.removed := by
  rw [History.registered, List.mem_filter, decide_eq_true_eq]

theorem mem_iterators {list : EventHandlerList.State} (hi : EventHandlerList.Inv list) {it : Nat}
    (h : it ∈ list.history.registered) : it ∈ list.iterators := by
  rw [← hi.listed.registered] at h
  exact List.mem_of_mem_filter h

/-- The steps of the runs leave the handlers that are registered. -/
theorem history_of_run {list list' : EventHandlerList.State} {op : EventHandlerList.Op}
    (h : EventHandlerList.step list op = some list') (hadd : op ≠ .add)
    (hremove : ∀ it, op ≠ .remove it) : list'.history = list.history := by
  by_cases hrun : op = .runAll
  · subst hrun
    obtain rfl := EventHandlerList.runAll_cases h
    exact EventHandlerList.cleanup_history list
  · exact (EventHandlerList.run_step_frame h hadd hremove hrun).2

/-! ## The invariant -/

structure Inv (s : State) : Prop where
  list : EventHandlerList.Inv s.list
  reachable : EventHandlerList.machine.Reachable s.list
  registered : ∀ it, it ∈ s.list.history.registered ↔ ∃ lock, s.locks lock = some it
  owner : ∀ lock other it, s.locks lock = some it → s.locks other = some it → lock = other

namespace Inv

variable {s t : State}

theorem init : Inv {} where
  list := .init
  reachable := Machine.reachable_init
  registered := fun _ => iff_of_false nofun nofun
  owner := nofun

/-- A list that has made a step of its own. -/
theorem list_step (hi : Inv s) {op : EventHandlerList.Op} {list : EventHandlerList.State}
    (h : EventHandlerList.step s.list op = some list) :
    EventHandlerList.Inv list ∧ EventHandlerList.machine.Reachable list := by
  have hstep : EventHandlerList.machine.step s.list op = some list := h
  exact ⟨hi.list.step hstep, hi.reachable.step hstep⟩

/-- What a lock holds can be removed. -/
theorem release_isSome (hi : Inv s) (hcall : s.list.canCall = true) (lock : Nat) :
    (s.release lock).isSome := by
  unfold State.release
  split
  next it hlock =>
    have hmem := mem_iterators hi.list ((hi.registered it).mpr ⟨lock, hlock⟩)
    rw [EventHandlerList.step, if_pos ⟨hcall, hmem⟩]
    rfl
  next => rw [if_pos hcall]; rfl

/-- A lock that has been released holds nothing that is still registered. -/
structure Released (s : State) (lock : Nat) (list : EventHandlerList.State) : Prop where
  inv : EventHandlerList.Inv list
  reachable : EventHandlerList.machine.Reachable list
  registered : ∀ it, it ∈ list.history.registered ↔
    it ∈ s.list.history.registered ∧ s.locks lock ≠ some it

theorem released (hi : Inv s) {lock : Nat} {list : EventHandlerList.State}
    (h : s.release lock = some list) : Released s lock list := by
  unfold State.release at h
  split at h
  next it hlock =>
    obtain ⟨hlist, hreachable⟩ := hi.list_step h
    obtain ⟨-, rfl⟩ := EventHandlerList.remove_cases h
    refine ⟨hlist, hreachable, fun other => ?_⟩
    rw [mem_registered, mem_registered, hlock, Ne, Option.some_inj, and_assoc]
    refine and_congr_right fun _ => ?_
    rw [← not_or]
    refine not_congr ?_
    rw [or_comm, @eq_comm _ it]
    exact List.mem_cons
  next hlock =>
    obtain ⟨-, h⟩ := Option.ite_none_right_eq_some.mp h
    obtain rfl := Option.some_inj.mp h
    refine ⟨hi.list, hi.reachable, fun other => ?_⟩
    rw [hlock]
    exact (and_iff_left nofun).symm

theorem released_of_none (hi : Inv s) {lock : Nat} (hlock : s.locks lock = none) :
    Released s lock s.list where
  inv := hi.list
  reachable := hi.reachable
  registered := fun it => by
    rw [hlock]
    exact (and_iff_left nofun).symm

/-- What is registered after a release is held by the other locks. -/
theorem held_by_other (hi : Inv s) {lock : Nat} {list : EventHandlerList.State}
    (hr : Released s lock list) (it : Nat) :
    it ∈ list.history.registered ↔ ∃ other, other ≠ lock ∧ s.locks other = some it := by
  rw [hr.registered, hi.registered]
  constructor
  · rintro ⟨⟨other, hother⟩, hlock⟩
    refine ⟨other, ?_, hother⟩
    rintro rfl
    exact hlock hother
  · rintro ⟨other, hne, hother⟩
    exact ⟨⟨other, hother⟩, fun hlock => hne (hi.owner other lock it hother hlock)⟩

theorem destroy (hi : Inv s) {lock : Nat} {list : EventHandlerList.State}
    (hr : Released s lock list) : Inv { list, locks := Function.update s.locks lock none } := by
  have hlocks : ∀ other it, Function.update s.locks lock none other = some it ↔
      other ≠ lock ∧ s.locks other = some it := by
    intro other it
    rw [Function.update_apply]
    split
    next heq => exact iff_of_false nofun fun h => h.1 heq
    next hne => exact (and_iff_right hne).symm
  refine ⟨hr.inv, hr.reachable, ?_, ?_⟩
  · intro it
    simp only [hlocks]
    exact hi.held_by_other hr it
  · intro other third it hother hthird
    exact hi.owner other third it ((hlocks _ _).mp hother).2 ((hlocks _ _).mp hthird).2

theorem moved (hi : Inv s) {lock other : Nat} (hne : lock ≠ other)
    {list : EventHandlerList.State} (hr : Released s lock list) :
    Inv { list, locks := s.moved lock other } := by
  -- the lock stands for the other one now
  have hlocks : ∀ x it, s.moved lock other x = some it ↔
      x ≠ other ∧ s.locks (if x = lock then other else x) = some it := by
    intro x it
    rw [State.moved, Function.update_apply, Function.update_apply]
    by_cases hx : x = other
    · rw [if_pos hx]
      exact iff_of_false nofun fun h => h.1 hx
    · rw [if_neg hx, and_iff_right hx]
      by_cases hl : x = lock
      · rw [if_pos hl, if_pos hl]
      · rw [if_neg hl, if_neg hl]
  refine ⟨hr.inv, hr.reachable, ?_, ?_⟩
  · intro it
    simp only [hlocks]
    rw [hi.held_by_other hr it]
    constructor
    · rintro ⟨x, hx, hheld⟩
      by_cases hxo : x = other
      · refine ⟨lock, hne, ?_⟩
        rwa [if_pos rfl, ← hxo]
      · refine ⟨x, hxo, ?_⟩
        rwa [if_neg hx]
    · rintro ⟨x, hx, hheld⟩
      refine ⟨_, ?_, hheld⟩
      split
      next => exact hne.symm
      next hxl => exact hxl
  · intro x y it hx hy
    obtain ⟨hxo, hx⟩ := (hlocks _ _).mp hx
    obtain ⟨hyo, hy⟩ := (hlocks _ _).mp hy
    have heq := hi.owner _ _ it hx hy
    split at heq
    next hxl =>
      split at heq
      next hyl => rw [hxl, hyl]
      next => exact absurd heq.symm hyo
    next =>
      split at heq
      next => exact absurd heq hxo
      next => exact heq

theorem addEventHandler (hi : Inv s) {lock : Nat} (hlock : s.locks lock = none)
    {list : EventHandlerList.State}
    (h : EventHandlerList.step s.list .add = some list) :
    Inv { list, locks := Function.update s.locks lock (some s.list.fresh) } := by
  obtain ⟨hlist, hreachable⟩ := hi.list_step h
  obtain rfl := EventHandlerList.add_cases h
  have hfresh := hi.list.listed.not_mem_fresh
  have hnew : s.list.fresh ∉ s.list.history.registered := fun hmem => hfresh (mem_registered.mp hmem).1
  have hregistered : ∀ it, it ∈ s.list.add.history.registered ↔
      it = s.list.fresh ∨ it ∈ s.list.history.registered := by
    intro it
    have hremoved : it = s.list.fresh → it ∉ s.list.history.removed := by
      rintro rfl hmem
      exact hfresh (hi.list.listed.removed _ hmem)
    rw [mem_registered, mem_registered]
    simp only [EventHandlerList.State.add, List.mem_cons]
    constructor
    · rintro ⟨heq | hadded, hne⟩
      · exact .inl heq
      · exact .inr ⟨hadded, hne⟩
    · rintro (heq | ⟨hadded, hne⟩)
      · exact ⟨.inl heq, hremoved heq⟩
      · exact ⟨.inr hadded, hne⟩
  have hlocks : ∀ x it, Function.update s.locks lock (some s.list.fresh) x = some it ↔
      x = lock ∧ it = s.list.fresh ∨ s.locks x = some it := by
    intro x it
    rw [Function.update_apply]
    split
    next heq =>
      subst heq
      simp [hlock, eq_comm]
    next hne => simp [hne]
  refine ⟨hlist, hreachable, ?_, ?_⟩
  · intro it
    simp only [hlocks]
    rw [hregistered, hi.registered]
    constructor
    · rintro (heq | ⟨x, hx⟩)
      · exact ⟨lock, .inl ⟨rfl, heq⟩⟩
      · exact ⟨x, .inr hx⟩
    · rintro ⟨x, ⟨-, heq⟩ | hx⟩
      · exact .inl heq
      · exact .inr ⟨x, hx⟩
  · intro x y it hx hy
    have hheld : ∀ z, s.locks z = some it → it ≠ s.list.fresh := by
      rintro z hz rfl
      exact hnew ((hi.registered _).mpr ⟨z, hz⟩)
    rcases (hlocks x it).mp hx with ⟨rfl, heq⟩ | hx
    · rcases (hlocks y it).mp hy with ⟨rfl, -⟩ | hy
      · rfl
      · exact absurd heq (hheld y hy)
    · rcases (hlocks y it).mp hy with ⟨-, heq⟩ | hy
      · exact absurd heq (hheld x hx)
      · exact hi.owner x y it hx hy

theorem step (hi : Inv s) {op : Op} (h : machine.step s op = some t) : Inv t := by
  cases op with
  | addEventHandler lock =>
    obtain ⟨hlock, h⟩ := Option.ite_none_right_eq_some.mp h
    obtain ⟨list, hlist, rfl⟩ := Option.map_eq_some_iff.mp h
    exact hi.addEventHandler hlock hlist
  | moveConstruct lock other =>
    obtain ⟨⟨-, hlock, hne⟩, h⟩ := Option.ite_none_right_eq_some.mp h
    obtain rfl := Option.some_inj.mp h
    exact hi.moved hne (hi.released_of_none hlock)
  | moveAssign lock other =>
    by_cases heq : lock = other
    · have hself : machine.step s (.moveAssign lock other) =
          if s.list.canCall then some s else none := if_pos heq
      rw [hself] at h
      obtain ⟨-, h⟩ := Option.ite_none_right_eq_some.mp h
      exact Option.some_inj.mp h ▸ hi
    · have hother : machine.step s (.moveAssign lock other) =
          (s.release lock).map fun list => { list, locks := s.moved lock other } := if_neg heq
      rw [hother] at h
      obtain ⟨list, hlist, rfl⟩ := Option.map_eq_some_iff.mp h
      exact hi.moved heq (hi.released hlist)
  | destroy lock =>
    obtain ⟨list, hlist, rfl⟩ := Option.map_eq_some_iff.mp h
    exact hi.destroy (hi.released hlist)
  | run op =>
    cases op with
    | add => cases h
    | remove it => cases h
    | runAll
    | visit held
    | callbackReturns
    | callbackThrows
    | finish =>
      obtain ⟨list, hlist, rfl⟩ := Option.map_eq_some_iff.mp h
      obtain ⟨hinv, hreachable⟩ := hi.list_step hlist
      have hhistory := history_of_run hlist nofun nofun
      refine ⟨hinv, hreachable, ?_, hi.owner⟩
      intro it
      rw [hhistory]
      exact hi.registered it

theorem of_reachable (h : machine.Reachable s) : Inv s :=
  Machine.invariant init (fun _ _ _ hi hstep => hi.step hstep) h

end Inv

/-- In a program that uses a list through its locks alone, each registered handler has exactly one owner,
what an owner removes is in the list, and the list makes a run of its own. -/
theorem owners_remove_valid {s : State} (h : machine.Reachable s) :
    (∀ it, it ∈ s.list.history.registered ↔ ∃! lock, s.locks lock = some it) ∧
      EventHandlerList.machine.Reachable s.list ∧
      (s.list.canCall = true → ∀ lock, (machine.step s (.destroy lock)).isSome ∧
        ∀ other, (machine.step s (.moveAssign lock other)).isSome) := by
  have hi := Inv.of_reachable h
  refine ⟨?_, hi.reachable, ?_⟩
  · intro it
    rw [hi.registered]
    constructor
    · rintro ⟨lock, hlock⟩
      exact ⟨lock, hlock, fun other hother => hi.owner other lock it hother hlock⟩
    · rintro ⟨lock, hlock, -⟩
      exact ⟨lock, hlock⟩
  · intro hcall lock
    have hsome := hi.release_isSome hcall lock
    refine ⟨by simpa [machine, step] using hsome, fun other => ?_⟩
    by_cases heq : lock = other
    · simp [machine, step, heq, hcall]
    · simpa [machine, step, heq] using hsome

/-- A lock that takes over the handler of another is its only owner. -/
theorem owners_remove_valid_moved : ∃ s,
    machine.run machine.init [.addEventHandler 0, .addEventHandler 1, .moveAssign 1 0] = some s ∧
      (0 ∈ s.list.history.registered ↔ ∃! lock, s.locks lock = some 0) :=
  ⟨_, rfl, (owners_remove_valid
    ⟨[.addEventHandler 0, .addEventHandler 1, .moveAssign 1 0], rfl⟩).1 0⟩

end Logid.Backend.EventHandlerLock
