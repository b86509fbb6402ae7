import Mathlib.Data.List.Basic

/-!
# Machines and their runs

A machine is a state type, an initial state and a partial step function. A label carries every
choice of the step that takes it (which thread moves, what the environment answers), so a run is
the list of its labels and can be executed. The rules below are the ones every proof about runs
uses: an inductive invariant holds in every reachable state (`Machine.invariant`), an invariant
that is only preserved by the steps meeting a guard holds all along a run whose steps meet the
guard (`Machine.always_of_meets`), and a guard that is exact step by step is exact for whole runs
(`Machine.always_iff_meets`).
-/

structure Machine (σ α : Type*) where
  init : σ
  /-- `none` when the label is not enabled in the state. -/
  step : σ → α → Option σ

namespace Machine

variable {σ α : Type*} (M : Machine σ α)

/-- The state after the labels of a list, in order. -/
def run : σ → List α → Option σ
  | s, [] => some s
  | s, a :: as => (M.step s a).bind fun t => run t as

/-- The states that a run from the initial state reaches. -/
def Reachable (s : σ) : Prop := ∃ as, M.run M.init as = some s

/-- Every step of the run from `s` meets the guard `C` in the state it is taken in. -/
def Meets (C : σ → α → Prop) : σ → List α → Prop
  | _, [] => True
  | s, a :: as => ∀ t, M.step s a = some t → C s a ∧ Meets C t as

/-- Every state of the run from `s`, the first and the last included, satisfies `P`. -/
def Always (P : σ → Prop) : σ → List α → Prop
  | s, [] => P s
  | s, a :: as => P s ∧ ∀ t, M.step s a = some t → Always P t as

/-- Every step of the run from `s` is enabled, and meets the guard in the state it is taken in. -/
def Follows (C : σ → α → Prop) : σ → List α → Prop
  | _, [] => True
  | s, a :: as => C s a ∧ ∃ t, M.step s a = some t ∧ Follows C t as

/-- The run from `s` comes to its end, and every state on the way satisfies `P`. -/
def Completes (P : σ → Prop) : σ → List α → Prop
  | s, [] => P s
  | s, a :: as => P s ∧ ∃ t, M.step s a = some t ∧ Completes P t as

variable {M}

@[simp] theorem run_nil (s : σ) : M.run s [] = some s := rfl

@[simp] theorem run_cons (s : σ) (a : α) (as : List α) :
    M.run s (a :: as) = (M.step s a).bind fun t => M.run t as := rfl

theorem run_cons_some {s u : σ} {a : α} {as : List α} (h : M.run s (a :: as) = some u) :
    ∃ t, M.step s a = some t ∧ M.run t as = some u := by
  simpa [Option.bind_eq_some_iff] using h

theorem run_append (s : σ) (as bs : List α) :
    M.run s (as ++ bs) = (M.run s as).bind fun t => M.run t bs := by
  induction as generalizing s with
  | nil => simp
  | cons a as ih =>
    simp only [List.cons_append, run_cons]
    cases M.step s a with
    | none => rfl
    | some t => exact ih t

theorem reachable_init : M.Reachable M.init := ⟨[], rfl⟩

theorem Reachable.run {s t : σ} (hs : M.Reachable s) {as : List α} (h : M.run s as = some t) :
    M.Reachable t := by
  obtain ⟨bs, hbs⟩ := hs
  exact ⟨bs ++ as, by rw [run_append, hbs]; exact h⟩

theorem Reachable.step {s t : σ} (hs : M.Reachable s) {a : α} (h : M.step s a = some t) :
    M.Reachable t :=
  hs.run (show M.run s [a] = some t by simp [h])

/-- A property kept by the steps with certain labels is kept by the runs made of them. -/
theorem run_invariant_of {F : α → Prop} {I : σ → Prop}
    (hstep : ∀ s a t, F a → I s → M.step s a = some t → I t) :
    ∀ {as : List α} {s t : σ}, (∀ a ∈ as, F a) → I s → M.run s as = some t → I t := by
  intro as
  induction as with
  | nil =>
    intro s t _ hs h
    cases h
    exact hs
  | cons a as ih =>
    intro s t hF hs h
    obtain ⟨u, hu, h⟩ := run_cons_some h
    have hFa : F a := hF a List.mem_cons_self
    exact ih (fun b hb => hF b (List.mem_cons_of_mem a hb)) (hstep s a u hFa hs hu) h

/-- A property kept by every step is kept by every run. -/
theorem run_invariant {I : σ → Prop} (hstep : ∀ s a t, I s → M.step s a = some t → I t)
    {as : List α} {s t : σ} (hs : I s) (h : M.run s as = some t) : I t :=
  run_invariant_of (F := fun _ => True) (fun s a t _ => hstep s a t) (fun _ _ => trivial) hs h

/-- An inductive invariant holds in every reachable state. -/
theorem invariant {I : σ → Prop} (hinit : I M.init)
    (hstep : ∀ s a t, I s → M.step s a = some t → I t) {s : σ} (hs : M.Reachable s) : I s := by
  obtain ⟨as, h⟩ := hs
  exact run_invariant hstep hinit h

/-- Under a measure that the steps with certain labels bring down, a run of such steps is no longer
than the measure of its first state. -/
theorem length_le_of_measure {F : α → Prop} {I : σ → Prop} {μ : σ → Nat}
    (hstep : ∀ s a t, F a → I s → M.step s a = some t → I t ∧ μ t < μ s) :
    ∀ {as : List α} {s t : σ}, (∀ a ∈ as, F a) → I s → M.run s as = some t → as.length ≤ μ s := by
  intro as
  induction as with
  | nil => exact fun _ _ _ => Nat.zero_le _
  | cons a as ih =>
    intro s t hF hs h
    obtain ⟨u, hu, h⟩ := run_cons_some h
    obtain ⟨hI, hlt⟩ := hstep s a u (hF a List.mem_cons_self) hs hu
    have hle := ih (fun b hb => hF b (List.mem_cons_of_mem a hb)) hI h
    rw [List.length_cons]
    omega

/-- If a step with certain labels brings a measure down wherever the end is not reached yet, a run of
such steps reaches it. -/
theorem exists_run_of_measure {F : α → Prop} {E : σ → Prop} {μ : σ → Nat}
    (hstep : ∀ s, ¬E s → ∃ a t, F a ∧ M.step s a = some t ∧ μ t < μ s) (s : σ) :
    ∃ as t, (∀ a ∈ as, F a) ∧ M.run s as = some t ∧ E t := by
  induction hn : μ s using Nat.strongRecOn generalizing s with
  | ind n ih =>
    by_cases hs : E s
    · exact ⟨[], s, List.forall_mem_nil _, rfl, hs⟩
    · obtain ⟨a, t, ha, ht, hlt⟩ := hstep s hs
      obtain ⟨as, u, has, hrun, hu⟩ := ih (μ t) (hn ▸ hlt) t rfl
      refine ⟨a :: as, u, List.forall_mem_cons.mpr ⟨ha, has⟩, ?_, hu⟩
      rw [run_cons, ht, Option.bind_some, hrun]

theorem Meets.cons {C : σ → α → Prop} {s t : σ} {a : α} {as : List α} (h : M.step s a = some t)
    (hc : C s a) (hm : M.Meets C t as) : M.Meets C s (a :: as) := by
  intro u hu
  rw [h, Option.some_inj] at hu
  subst hu
  exact ⟨hc, hm⟩

theorem meets_cons_iff {C : σ → α → Prop} {s t : σ} {a : α} {as : List α} (h : M.step s a = some t) :
    M.Meets C s (a :: as) ↔ C s a ∧ M.Meets C t as :=
  ⟨fun hm => hm t h, fun hm => Meets.cons h hm.1 hm.2⟩

/-- Labels that meet the guard in every state. -/
theorem meets_of_forall {C : σ → α → Prop} {as : List α} (h : ∀ a ∈ as, ∀ s, C s a) (s : σ) :
    M.Meets C s as := by
  induction as generalizing s with
  | nil => trivial
  | cons a as ih =>
    obtain ⟨ha, has⟩ := List.forall_mem_cons.mp h
    exact fun t _ => ⟨ha s, ih has t⟩

/-- Whether a run meets a guard is found by running it. -/
instance decidableMeets {C : σ → α → Prop} [∀ s a, Decidable (C s a)] :
    ∀ (s : σ) (as : List α), Decidable (M.Meets C s as)
  | _, [] => .isTrue trivial
  | s, a :: as =>
    match h : M.step s a with
    | none => .isTrue fun _ ht => absurd (h.symm.trans ht) nofun
    | some t =>
      have := decidableMeets (C := C) t as
      decidable_of_iff (C s a ∧ M.Meets C t as) (meets_cons_iff h).symm

theorem Always.head {P : σ → Prop} {s : σ} {as : List α} (h : M.Always P s as) : P s := by
  cases as with
  | nil => exact h
  | cons a as => exact h.1

theorem Always.imp {P Q : σ → Prop} (hPQ : ∀ s, P s → Q s) {s : σ} {as : List α}
    (h : M.Always P s as) : M.Always Q s as := by
  induction as generalizing s with
  | nil => exact hPQ s h
  | cons a as ih => exact ⟨hPQ s h.1, fun t ht => ih (h.2 t ht)⟩

/-- What holds all along a run holds at the end of each of its executable prefixes. -/
theorem Always.of_run {P : σ → Prop} {as bs : List α} {s t : σ} (h : M.Always P s (as ++ bs))
    (hrun : M.run s as = some t) : P t := by
  induction as generalizing s with
  | nil =>
    cases hrun
    exact h.head
  | cons a as ih =>
    obtain ⟨u, hu, hrun⟩ := run_cons_some hrun
    exact ih (h.2 u hu) hrun

/-- An invariant that the steps meeting `C` keep holds all along a run whose steps meet `C`. -/
theorem always_of_meets {C : σ → α → Prop} {I P : σ → Prop} (hP : ∀ s, I s → P s)
    (hstep : ∀ s a t, I s → C s a → M.step s a = some t → I t) :
    ∀ {as : List α} {s : σ}, I s → M.Meets C s as → M.Always P s as := by
  intro as
  induction as with
  | nil =>
    intro s hs _
    exact hP s hs
  | cons a as ih =>
    intro s hs h
    refine ⟨hP s hs, fun t ht => ?_⟩
    obtain ⟨hc, h⟩ := h t ht
    exact ih (hstep s a t hs hc ht) h

/-- An invariant under which every step meets `C` makes every run meet it. -/
theorem meets_of_invariant {C : σ → α → Prop} {I : σ → Prop}
    (hstep : ∀ s a t, I s → M.step s a = some t → C s a ∧ I t) :
    ∀ {as : List α} {s : σ}, I s → M.Meets C s as := by
  intro as
  induction as with
  | nil =>
    intro s _
    trivial
  | cons a as ih =>
    intro s hs t ht
    obtain ⟨hc, hi⟩ := hstep s a t hs ht
    exact ⟨hc, ih hi⟩

/-- An invariant that every step keeps holds all along a run. -/
theorem always_of_invariant {I P : σ → Prop} (hP : ∀ s, I s → P s)
    (hstep : ∀ s a t, I s → M.step s a = some t → I t) :
    ∀ {as : List α} {s : σ}, I s → M.Always P s as := by
  intro as s hs
  apply always_of_meets (C := fun _ _ => True) hP (fun s a t hs _ h => hstep s a t hs h) hs
  exact meets_of_invariant (fun s a t hs h => ⟨trivial, hstep s a t hs h⟩) hs

/-- When, in the states that satisfy the invariant `J` and `P`, a step leads to a `P`-state
exactly if it meets `C`, then `P` holds all along a run exactly if all its steps meet `C`. -/
theorem always_iff_meets {C : σ → α → Prop} {J P : σ → Prop}
    (hJ : ∀ s a t, J s → P s → M.step s a = some t → P t → J t)
    (hiff : ∀ s a t, J s → P s → M.step s a = some t → (P t ↔ C s a)) :
    ∀ {as : List α} {s : σ}, J s → P s → (M.Always P s as ↔ M.Meets C s as) := by
  intro as
  induction as with
  | nil =>
    intro s _ hp
    exact ⟨fun _ => trivial, fun _ => hp⟩
  | cons a as ih =>
    intro s hj hp
    constructor
    · intro h t ht
      have hpt : P t := (h.2 t ht).head
      exact ⟨(hiff s a t hj hp ht).mp hpt,
        (ih (hJ s a t hj hp ht hpt) hpt).mp (h.2 t ht)⟩
    · intro h
      refine ⟨hp, fun t ht => ?_⟩
      obtain ⟨hc, h⟩ := h t ht
      have hpt : P t := (hiff s a t hj hp ht).mpr hc
      exact (ih (hJ s a t hj hp ht hpt) hpt).mpr h

theorem follows_cons_iff {C : σ → α → Prop} {s t : σ} {a : α} {as : List α}
    (h : M.step s a = some t) : M.Follows C s (a :: as) ↔ C s a ∧ M.Follows C t as := by
  constructor
  · rintro ⟨hc, u, hu, hf⟩
    obtain rfl : t = u := Option.some_inj.mp (h.symm.trans hu)
    exact ⟨hc, hf⟩
  · rintro ⟨hc, hf⟩
    exact ⟨hc, t, h, hf⟩

/-- When the guard says which steps are enabled, the runs that come to their end are those whose steps
all meet it. -/
theorem exists_run_iff_follows {C : σ → α → Prop} (hC : ∀ s a, (M.step s a).isSome ↔ C s a)
    {as : List α} {s : σ} : (∃ t, M.run s as = some t) ↔ M.Follows C s as := by
  induction as generalizing s with
  | nil => exact ⟨fun _ => trivial, fun _ => ⟨s, rfl⟩⟩
  | cons a as ih =>
    constructor
    · rintro ⟨u, hu⟩
      obtain ⟨t, ht, hrun⟩ := run_cons_some hu
      exact ⟨(hC s a).mp (by rw [ht]; rfl), t, ht, ih.mp ⟨u, hrun⟩⟩
    · rintro ⟨-, t, ht, hf⟩
      obtain ⟨u, hu⟩ := ih.mpr hf
      exact ⟨u, by rw [run_cons, ht, Option.bind_some, hu]⟩

instance decidableFollows {C : σ → α → Prop} [∀ s a, Decidable (C s a)] :
    ∀ (s : σ) (as : List α), Decidable (M.Follows C s as)
  | _, [] => .isTrue trivial
  | s, a :: as =>
    match h : M.step s a with
    | none => .isFalse fun ⟨_, _, ht, _⟩ => absurd (h.symm.trans ht) nofun
    | some t =>
      have := decidableFollows (C := C) t as
      decidable_of_iff (C s a ∧ M.Follows C t as) (follows_cons_iff h).symm

theorem Completes.head {P : σ → Prop} {s : σ} {as : List α} (h : M.Completes P s as) : P s := by
  cases as with
  | nil => exact h
  | cons a as => exact h.1

/-- A run that comes to its end ends in a state that satisfies `P`. -/
theorem Completes.last {P : σ → Prop} {s : σ} {as : List α} (h : M.Completes P s as) :
    ∃ t, M.run s as = some t ∧ P t := by
  induction as generalizing s with
  | nil => exact ⟨s, rfl, h⟩
  | cons a as ih =>
    obtain ⟨-, t, ht, h⟩ := h
    obtain ⟨u, hu, hp⟩ := ih h
    exact ⟨u, by rw [run_cons, ht, Option.bind_some, hu], hp⟩

/-- When, in the states that satisfy the invariant `J` and `P`, a step is enabled and leads to a
`P`-state exactly if it meets `C`, then a run comes to its end through `P`-states exactly if all its
steps meet `C`. -/
theorem completes_iff_follows {C : σ → α → Prop} {J P : σ → Prop}
    (hJ : ∀ s a t, J s → M.step s a = some t → J t)
    (hiff : ∀ s a, J s → P s → ((∃ t, M.step s a = some t ∧ P t) ↔ C s a)) :
    ∀ {as : List α} {s : σ}, J s → P s → (M.Completes P s as ↔ M.Follows C s as) := by
  intro as
  induction as with
  | nil =>
    intro s _ hp
    exact ⟨fun _ => trivial, fun _ => hp⟩
  | cons a as ih =>
    intro s hj hp
    constructor
    · rintro ⟨-, t, ht, h⟩
      exact ⟨(hiff s a hj hp).mp ⟨t, ht, h.head⟩, t, ht, (ih (hJ s a t hj ht) h.head).mp h⟩
    · rintro ⟨hc, t, ht, h⟩
      obtain ⟨u, hu, hpu⟩ := (hiff s a hj hp).mpr hc
      obtain rfl : t = u := Option.some_inj.mp (ht.symm.trans hu)
      exact ⟨hp, t, ht, (ih (hJ s a t hj ht) hpu).mpr h⟩

/-- An invariant that the steps meeting `C` keep holds all along a run whose steps are enabled and
meet `C`. -/
theorem completes_of_follows {C : σ → α → Prop} {I P : σ → Prop} (hP : ∀ s, I s → P s)
    (hstep : ∀ s a t, I s → C s a → M.step s a = some t → I t) :
    ∀ {as : List α} {s : σ}, I s → M.Follows C s as → M.Completes P s as := by
  intro as
  induction as with
  | nil =>
    intro s hs _
    exact hP s hs
  | cons a as ih =>
    rintro s hs ⟨hc, t, ht, h⟩
    exact ⟨hP s hs, t, ht, ih (hstep s a t hs hc ht) h⟩

end Machine
