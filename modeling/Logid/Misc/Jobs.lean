import Mathlib.Data.List.Perm.Basic
import Mathlib.Data.Option.Basic
import Mathlib.Logic.Function.Iterate
import Logid.Misc.Machine

/-!
# Jobs of a pool of workers

Jobs wait in a queue, a bounded number of workers runs them, and the running jobs take atomic steps
on a shared state in any order. A worker may take any of the waiting jobs: what order a queue
promises says nothing about the order in which the jobs that were taken do their steps.

Proofs about such a system follow the jobs: a step replaces at most one of them
(`JobSystem.step_transition`). Where each job carries out one operation on a value and takes effect
with its last step, the value is that of the finished operations done one after another
(`JobSystem.Serial`) as long as every last step has the effect of the whole operation. Where the
jobs carry updates that replace the value, it is that of the latest update (`JobSystem.Latest`) as
long as no step puts an older one in its place.
-/

universe u

/-- A step of the environment queues jobs; an atomic step of a job may queue jobs too, and gives what
is left of the job. -/
structure JobSystem (σ κ : Type u) (α ε : Type*) where
  outside : σ → α → Option (σ × List κ)
  act : σ → κ → ε → Option (σ × List κ × Option κ)

namespace JobSystem

variable {σ κ : Type u} {α ε : Type*}

structure State (σ κ : Type u) where
  shared : σ
  queue : List κ
  running : List κ

inductive Label (α ε : Type*) where
  | outside (a : α)
  /-- A free worker takes the `n`-th job of the queue. -/
  | start (n : Nat)
  /-- The `i`-th running job takes a step. -/
  | act (i : Nat) (e : ε)

/-- What becomes of the running jobs when the `i`-th has taken a step. -/
def replace (running : List κ) (i : Nat) : Option κ → List κ
  | some job => running.set i job
  | none => running.eraseIdx i

def step (J : JobSystem σ κ α ε) (workers : Nat) (s : State σ κ) :
    Label α ε → Option (State σ κ)
  | .outside a => do
    let (x, new) ← J.outside s.shared a
    return { s with shared := x, queue := s.queue ++ new }
  | .start n =>
    if s.running.length < workers then do
      let job ← s.queue[n]?
      return { s with queue := s.queue.eraseIdx n, running := s.running ++ [job] }
    else none
  | .act i e => do
    let job ← s.running[i]?
    let (x, new, rest) ← J.act s.shared job e
    return { shared := x, queue := s.queue ++ new, running := replace s.running i rest }

def machine (J : JobSystem σ κ α ε) (workers : Nat) (init : σ) :
    Machine (State σ κ) (Label α ε) where
  init := { shared := init, queue := [], running := [] }
  step := J.step workers

/-- The jobs that are not finished. -/
def State.jobs (s : State σ κ) : List κ := s.queue ++ s.running

/-- All jobs have finished. -/
def State.Quiet (s : State σ κ) : Prop := s.queue = [] ∧ s.running = []

theorem State.mem_jobs_of_running {s : State σ κ} {i : Nat} {job : κ}
    (h : s.running[i]? = some job) : job ∈ s.jobs :=
  List.mem_append_right _ (List.mem_of_getElem? h)

theorem State.Quiet.jobs {s : State σ κ} (h : s.Quiet) : s.jobs = [] := by
  rw [State.jobs, h.1, h.2, List.append_nil]

/-- What a step does to the jobs. -/
inductive Transition (J : JobSystem σ κ α ε) (s : State σ κ) : Label α ε → State σ κ → Prop where
  | outside {a x new t} (result : J.outside s.shared a = some (x, new)) (shared : t.shared = x)
      (jobs : t.jobs.Perm (new ++ s.jobs)) : Transition J s (.outside a) t
  | start {n t} (shared : t.shared = s.shared) (jobs : t.jobs.Perm s.jobs) :
      Transition J s (.start n) t
  | act {i e job x new rest others t} (runs : s.running[i]? = some job)
      (result : J.act s.shared job e = some (x, new, rest)) (shared : t.shared = x)
      (before : s.jobs.Perm (job :: others))
      (after : t.jobs.Perm (new ++ rest.toList ++ others)) : Transition J s (.act i e) t

theorem perm_replace {running : List κ} {i : Nat} {job : κ} (h : running[i]? = some job)
    (rest : Option κ) : (replace running i rest).Perm (rest.toList ++ running.eraseIdx i) := by
  have hi : i < running.length := (List.getElem?_eq_some_iff.mp h).1
  cases rest with
  | none => exact List.Perm.refl _
  | some job' => exact List.set_perm_cons_eraseIdx hi job'

theorem perm_of_getElem? {l : List κ} {i : Nat} {job : κ} (h : l[i]? = some job) :
    l.Perm (job :: l.eraseIdx i) := by
  obtain ⟨hi, heq⟩ := List.getElem?_eq_some_iff.mp h
  subst heq
  exact (List.getElem_cons_eraseIdx_perm hi).symm

theorem step_transition {J : JobSystem σ κ α ε} {workers : Nat} {s t : State σ κ} {a : Label α ε}
    (h : J.step workers s a = some t) : Transition J s a t := by
  cases a with
  | outside a =>
    simp only [step, Option.bind_eq_bind, Option.bind_eq_some_iff, Option.pure_def,
      Option.some_inj] at h
    obtain ⟨⟨x, new⟩, hresult, rfl⟩ := h
    refine .outside hresult rfl ?_
    rw [State.jobs, State.jobs, List.append_assoc]
    exact (List.perm_append_comm_assoc s.queue new s.running)
  | start n =>
    simp only [step] at h
    split at h
    next =>
      simp only [Option.bind_eq_bind, Option.bind_eq_some_iff, Option.pure_def,
        Option.some_inj] at h
      obtain ⟨job, hjob, rfl⟩ := h
      refine .start rfl ?_
      have hqueue : (job :: s.queue.eraseIdx n).Perm s.queue := (perm_of_getElem? hjob).symm
      have hmove : (s.queue.eraseIdx n ++ (s.running ++ [job])).Perm
          ((job :: s.queue.eraseIdx n) ++ s.running) := by
        rw [← List.append_assoc]
        exact List.perm_append_singleton job _
      exact hmove.trans (hqueue.append_right s.running)
    next => cases h
  | act i e =>
    simp only [step, Option.bind_eq_bind, Option.bind_eq_some_iff, Option.pure_def,
      Option.some_inj] at h
    obtain ⟨job, hjob, ⟨x, new, rest⟩, hresult, rfl⟩ := h
    have hbefore : s.jobs.Perm (job :: (s.queue ++ s.running.eraseIdx i)) :=
      ((perm_of_getElem? hjob).append_left s.queue).trans List.perm_middle
    refine .act hjob hresult rfl hbefore ?_
    · have hreplace := (perm_replace hjob rest).append_left (s.queue ++ new)
      refine hreplace.trans ?_
      rw [List.append_assoc, List.append_assoc]
      refine (List.perm_append_comm_assoc s.queue new _).trans ?_
      exact (List.perm_append_comm_assoc s.queue rest.toList _).append_left new

/-! ## Operations -/

section Operations

variable {ι τ : Type*}

/-- Each job carries out the operation `name job` on the `value` of the shared state, which keeps the
list `ops` of the operations asked for. Only the last step of a job changes the value. -/
structure Operates (J : JobSystem σ κ α ε) (name : κ → ι) (ops : σ → List ι) (value : σ → τ) :
    Prop where
  outside : ∀ {s a x new}, J.outside s a = some (x, new) →
    value x = value s ∧ (ops x).Perm (new.map name ++ ops s)
  act : ∀ {s job e x new rest}, J.act s job e = some (x, new, rest) →
    new = [] ∧ ops x = ops s ∧
      ((∃ job', rest = some job' ∧ name job' = name job ∧ value x = value s) ∨ rest = none)

/-- One operation after another. -/
def perform (effect : ι → τ → Option τ) (order : List ι) (v : τ) : Option τ :=
  order.foldlM (fun v i => effect i v) v

/-- The operations asked for are the unfinished jobs and those done one after another on the initial
value. -/
def Serial (name : κ → ι) (ops : σ → List ι) (value : σ → τ) (effect : ι → τ → Option τ) (v₀ : τ)
    (s : State σ κ) : Prop :=
  ∃ order, (order ++ s.jobs.map name).Perm (ops s.shared) ∧
    perform effect order v₀ = some (value s.shared)

variable {J : JobSystem σ κ α ε} {name : κ → ι} {ops : σ → List ι} {value : σ → τ}
  {effect : ι → τ → Option τ} {v₀ : τ}

theorem Serial.step (hop : J.Operates name ops value) {workers : Nat} {s t : State σ κ}
    {a : Label α ε} (hs : Serial name ops value effect v₀ s) (h : J.step workers s a = some t)
    (hlast : ∀ i e job x, a = .act i e → s.running[i]? = some job →
      J.act s.shared job e = some (x, [], none) →
        effect (name job) (value s.shared) = some (value x)) :
    Serial name ops value effect v₀ t := by
  obtain ⟨order, hperm, hvalue⟩ := hs
  cases step_transition h with
  | outside hresult hshared hjobs =>
    subst hshared
    obtain ⟨hsame, hops⟩ := hop.outside hresult
    refine ⟨order, ?_, by rw [hsame, hvalue]⟩
    refine (((hjobs.map name).append_left order).trans ?_).trans hops.symm
    rw [List.map_append]
    exact (List.perm_append_comm_assoc order _ _).trans (hperm.append_left _)
  | start hshared hjobs =>
    rw [Serial, hshared]
    exact ⟨order, ((hjobs.map name).append_left order).trans hperm, hvalue⟩
  | @act i e job _ _ _ others _ hruns hresult hshared hbefore hafter =>
    subst hshared
    obtain ⟨rfl, hops, hrest⟩ := hop.act hresult
    have hold := ((hbefore.map name).append_left order).symm.trans hperm
    have hnew := (hafter.map name)
    rcases hrest with ⟨job', rfl, hname, hsame⟩ | rfl
    · refine ⟨order, ?_, by rw [hsame, hvalue]⟩
      rw [hops]
      refine (hnew.append_left order).trans ?_
      simpa [hname] using hold
    · refine ⟨order ++ [name job], ?_, ?_⟩
      · rw [hops]
        refine (hnew.append_left _).trans ?_
        simpa using hold
      · rw [perform, List.foldlM_append, ← perform, hvalue]
        simp [hlast i e job _ rfl hruns hresult]

theorem serial_init (workers : Nat) {init : σ} (hops : ops init = []) :
    Serial name ops value effect (value init) (J.machine workers init).init :=
  ⟨[], by simp [machine, State.jobs, hops], rfl⟩

/-- An operation that maps what `f` sees by `g` does so once for each time it is performed. -/
theorem perform_iterate {β : Type*} {f : τ → β} {g : β → β} {order : List ι} {v w : τ}
    (hstep : ∀ i ∈ order, ∀ v w, effect i v = some w → f w = g (f v))
    (h : perform effect order v = some w) : f w = g^[order.length] (f v) := by
  induction order generalizing v with
  | nil =>
    cases h
    rfl
  | cons i order ih =>
    obtain ⟨u, hu, h⟩ := Option.bind_eq_some_iff.mp h
    rw [ih (fun j hj => hstep j (List.mem_cons_of_mem i hj)) h, hstep i List.mem_cons_self v u hu]
    rfl

/-- When all jobs have finished, the operations were done one after another in some order. -/
theorem Serial.quiet {s : State σ κ} (h : Serial name ops value effect v₀ s) (hquiet : s.Quiet) :
    ∃ order, order.Perm (ops s.shared) ∧ perform effect order v₀ = some (value s.shared) := by
  obtain ⟨order, hperm, hvalue⟩ := h
  rw [hquiet.jobs, List.map_nil, List.append_nil] at hperm
  exact ⟨order, hperm, hvalue⟩

end Operations

/-! ## The latest update -/

section Latest

variable {τ : Type*}

/-- Some jobs carry a numbered update of the `value`, as `update job` says. The shared state keeps
how many updates there were (`count`) and the latest of them. -/
structure Updates (J : JobSystem σ κ α ε) (update : κ → Option (Nat × τ)) (count : σ → Nat)
    (latest : σ → Option (Nat × τ)) (value : σ → τ) : Prop where
  outside : ∀ {s a x new}, J.outside s a = some (x, new) → value x = value s ∧
    ((count s ≤ count x ∧ latest x = latest s ∧ ∀ job ∈ new, update job = none) ∨
      ∃ v, count s < count x ∧ latest x = some (count s, v) ∧
        (∃ job ∈ new, update job = some (count s, v)) ∧
          ∀ job ∈ new, update job = none ∨ update job = some (count s, v))
  act : ∀ {s job e x new rest}, J.act s job e = some (x, new, rest) → count x = count s ∧
    (latest x = latest s ∨ latest x = none) ∧
      ∀ job' ∈ new ++ rest.toList, update job' = none ∨ update job' = update job

/-- The value is that of the latest update, unless its job is not finished. -/
structure Latest (update : κ → Option (Nat × τ)) (count : σ → Nat) (latest : σ → Option (Nat × τ))
    (value : σ → τ) (s : State σ κ) : Prop where
  numbered : ∀ job ∈ s.jobs, ∀ n v, update job = some (n, v) →
    n < count s.shared ∧ ∀ w, latest s.shared = some (n, w) → w = v
  counted : ∀ n v, latest s.shared = some (n, v) → n < count s.shared
  current : ∀ n v, latest s.shared = some (n, v) →
    (∃ job ∈ s.jobs, update job = some (n, v)) ∨ value s.shared = v

/-- A step of `job` leaves the latest update `(n, v)` to the job that carries it, or the value is that
of the update. -/
def Keeps (update : κ → Option (Nat × τ)) (value : σ → τ) (s : State σ κ) (job : κ) (x : σ)
    (left : List κ) (n : Nat) (v : τ) : Prop :=
  value x = v ∨ (∃ job' ∈ left, update job' = some (n, v)) ∨
    update job ≠ some (n, v) ∧
      ((∃ job' ∈ s.jobs, update job' = some (n, v)) ∨ value x = value s.shared)

variable {J : JobSystem σ κ α ε} {update : κ → Option (Nat × τ)} {count : σ → Nat}
  {latest : σ → Option (Nat × τ)} {value : σ → τ}

theorem Latest.step_outside (hJ : J.Updates update count latest value) {s t : State σ κ} {a : α}
    {x : σ} {new : List κ} (hs : Latest update count latest value s)
    (hresult : J.outside s.shared a = some (x, new)) (hshared : t.shared = x)
    (hjobs : t.jobs.Perm (new ++ s.jobs)) : Latest update count latest value t := by
  subst hshared
  obtain ⟨hvalue, hupdate⟩ := hJ.outside hresult
  have hmem : ∀ job, job ∈ t.jobs ↔ job ∈ new ∨ job ∈ s.jobs := by
    intro job
    rw [hjobs.mem_iff, List.mem_append]
  rcases hupdate with ⟨hcount, hlatest, hnone⟩ | ⟨v, hcount, hlatest, hcarrier, hnew⟩
  · refine ⟨?_, ?_, ?_⟩
    · intro job hjob n v hv
      rcases (hmem job).mp hjob with hjob | hjob
      · rw [hnone job hjob] at hv
        cases hv
      · obtain ⟨hn, hw⟩ := hs.numbered job hjob n v hv
        rw [hlatest]
        exact ⟨by omega, hw⟩
    · intro n v hv
      rw [hlatest] at hv
      have hn := hs.counted n v hv
      omega
    · intro n v hv
      rw [hlatest] at hv
      rw [hvalue]
      rcases hs.current n v hv with ⟨job, hjob, hupdate⟩ | hcurrent
      · exact .inl ⟨job, (hmem job).mpr (.inr hjob), hupdate⟩
      · exact .inr hcurrent
  · refine ⟨?_, ?_, ?_⟩
    · intro job hjob n w hw
      rw [hlatest]
      rcases (hmem job).mp hjob with hjob | hjob
      · rcases hnew job hjob with hnone | hlast
        · rw [hnone] at hw
          cases hw
        · rw [hlast] at hw
          cases hw
          refine ⟨hcount, fun w hw => ?_⟩
          cases hw
          rfl
      · -- an earlier update has an earlier number
        have hn := (hs.numbered job hjob n w hw).1
        refine ⟨by omega, fun u hu => ?_⟩
        simp only [Option.some_inj, Prod.mk.injEq] at hu
        omega
    · intro n w hw
      rw [hlatest] at hw
      cases hw
      exact hcount
    · intro n w hw
      rw [hlatest] at hw
      cases hw
      obtain ⟨job, hjob, hupdate⟩ := hcarrier
      exact .inl ⟨job, (hmem job).mpr (.inl hjob), hupdate⟩

theorem Latest.step_act (hJ : J.Updates update count latest value) {s t : State σ κ} {job : κ}
    {e : ε} {x : σ} {new others : List κ} {rest : Option κ}
    (hs : Latest update count latest value s)
    (hresult : J.act s.shared job e = some (x, new, rest)) (hshared : t.shared = x)
    (hbefore : s.jobs.Perm (job :: others)) (hafter : t.jobs.Perm (new ++ rest.toList ++ others))
    (hkeeps : ∀ n v, latest x = some (n, v) →
      Keeps update value s job x (new ++ rest.toList) n v) :
    Latest update count latest value t := by
  subst hshared
  obtain ⟨hcount, hlatest, hleft⟩ := hJ.act hresult
  have hlatest : ∀ n v, latest t.shared = some (n, v) → latest s.shared = some (n, v) := by
    intro n v hv
    rcases hlatest with hlatest | hlatest
    · rw [← hlatest]
      exact hv
    · rw [hlatest] at hv
      cases hv
  have hmem : ∀ job', job' ∈ t.jobs ↔ job' ∈ new ++ rest.toList ∨ job' ∈ others := by
    intro job'
    rw [hafter.mem_iff, List.mem_append]
  have hold : ∀ job', job' ∈ s.jobs ↔ job' = job ∨ job' ∈ others := by
    intro job'
    rw [hbefore.mem_iff, List.mem_cons]
  refine ⟨?_, ?_, ?_⟩
  · intro job' hjob' n v hv
    rw [hcount]
    -- what is left of the job carries the update of the job
    have hsource : ∃ job'' ∈ s.jobs, update job'' = some (n, v) := by
      rcases (hmem job').mp hjob' with hjob' | hjob'
      · rcases hleft job' hjob' with hnone | hsame
        · rw [hnone] at hv
          cases hv
        · exact ⟨job, (hold job).mpr (.inl rfl), by rw [← hsame, hv]⟩
      · exact ⟨job', (hold job').mpr (.inr hjob'), hv⟩
    obtain ⟨job'', hjob'', hv⟩ := hsource
    obtain ⟨hn, hw⟩ := hs.numbered job'' hjob'' n v hv
    exact ⟨hn, fun w hlast => hw w (hlatest n w hlast)⟩
  · intro n v hv
    rw [hcount]
    exact hs.counted n v (hlatest n v hv)
  · intro n v hv
    have hwaiting : (∃ job' ∈ s.jobs, update job' = some (n, v)) → update job ≠ some (n, v) →
        ∃ job' ∈ t.jobs, update job' = some (n, v) := by
      intro hwaiting hother
      obtain ⟨job', hjob', hupdate⟩ := hwaiting
      rcases (hold job').mp hjob' with rfl | hjob'
      · exact absurd hupdate hother
      · exact ⟨job', (hmem job').mpr (.inr hjob'), hupdate⟩
    rcases hkeeps n v hv with hvalue | ⟨job', hjob', hupdate⟩ | ⟨hother, hwait | hsame⟩
    · exact .inr hvalue
    · exact .inl ⟨job', (hmem job').mpr (.inl hjob'), hupdate⟩
    · exact .inl (hwaiting hwait hother)
    · rw [hsame]
      rcases hs.current n v (hlatest n v hv) with hwait | hcurrent
      · exact .inl (hwaiting hwait hother)
      · exact .inr hcurrent

theorem Latest.step (hJ : J.Updates update count latest value) {workers : Nat} {s t : State σ κ}
    {a : Label α ε} (hs : Latest update count latest value s) (h : J.step workers s a = some t)
    (hkeeps : ∀ i e job x new rest, a = .act i e → s.running[i]? = some job →
      J.act s.shared job e = some (x, new, rest) → ∀ n v, latest x = some (n, v) →
        Keeps update value s job x (new ++ rest.toList) n v) :
    Latest update count latest value t := by
  cases step_transition h with
  | outside hresult hshared hjobs => exact hs.step_outside hJ hresult hshared hjobs
  | start hshared hjobs =>
    refine ⟨?_, ?_, ?_⟩
    · intro job hjob
      rw [hshared]
      exact hs.numbered job (hjobs.mem_iff.mp hjob)
    · rw [hshared]
      exact hs.counted
    · intro n v hv
      rw [hshared] at hv ⊢
      rcases hs.current n v hv with ⟨job, hjob, hupdate⟩ | hcurrent
      · exact .inl ⟨job, hjobs.mem_iff.mpr hjob, hupdate⟩
      · exact .inr hcurrent
  | act hruns hresult hshared hbefore hafter =>
    exact hs.step_act hJ hresult hshared hbefore hafter
      (hkeeps _ _ _ _ _ _ rfl hruns hresult)

theorem latest_init (workers : Nat) {init : σ} (h : latest init = none) :
    Latest update count latest value (J.machine workers init).init where
  numbered := by simp [machine, State.jobs]
  counted := by simp [machine, h]
  current := by simp [machine, h]

/-- When all jobs have finished, the value is that of the latest update. -/
theorem Latest.quiet {s : State σ κ} (h : Latest update count latest value s) (hquiet : s.Quiet)
    {n : Nat} {v : τ} (hv : latest s.shared = some (n, v)) : value s.shared = v := by
  rcases h.current n v hv with ⟨job, hjob, -⟩ | hcurrent
  · rw [hquiet.jobs] at hjob
    cases hjob
  · exact hcurrent

end Latest

end JobSystem
