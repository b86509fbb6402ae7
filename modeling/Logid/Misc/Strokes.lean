import Mathlib.Logic.Function.Basic

/-!
# Strokes

A thing that can be moved in several directions has a side for each, which adds up what it is moved by.
When the direction changes the side that is left starts again, and after a pause all do. If starting
again undoes whatever a side has been moved by, a run is nothing but its strokes, the stretches between
two changes or pauses, each handled by a side that has just started (`Strokes.outputs_handleAll`).
-/

namespace Strokes

variable {δ γ μ ε : Type*} [DecidableEq δ]

/-- What a side does; a move that goes wrong gives `none`. -/
structure Side (γ μ ε : Type*) where
  move : γ → μ → Option (γ × List ε)
  reset : γ → γ

structure Event (δ μ : Type*) where
  pause : Bool
  move : Option (δ × μ)

structure State (δ γ : Type*) where
  sides : δ → γ
  last : Option δ

/-! ## Runs -/

/-- A side moved several times. -/
def Side.moves (side : Side γ μ ε) : γ → List μ → Option (γ × List ε)
  | g, [] => some (g, [])
  | g, m :: ms =>
    (side.move g m).bind fun r => (side.moves r.1 ms).map fun t => (t.1, r.2 ++ t.2)

/-- Starting again undoes the moves from `fresh`. -/
def Side.Returns (side : Side γ μ ε) (fresh : γ) : Prop :=
  ∀ ms r, side.moves fresh ms = some r → side.reset r.1 = fresh

/-- The side of the last move starts again if the next one is in another direction. -/
def leave (side : δ → Side γ μ ε) (s : State δ γ) (d : δ) : δ → γ :=
  match s.last with
  | some l => if l = d then s.sides else Function.update s.sides l ((side l).reset (s.sides l))
  | none => s.sides

def pause (side : δ → Side γ μ ε) (s : State δ γ) : State δ γ :=
  { sides := fun d => (side d).reset (s.sides d), last := none }

def advance (side : δ → Side γ μ ε) (s : State δ γ) (d : δ) (m : μ) :
    Option (State δ γ × List ε) :=
  let sides := leave side s d
  ((side d).move (sides d) m).map fun r =>
    ({ sides := Function.update sides d r.1, last := some d }, r.2)

def handle (side : δ → Side γ μ ε) (s : State δ γ) (e : Event δ μ) : Option (State δ γ × List ε) :=
  let s := if e.pause then pause side s else s
  match e.move with
  | none => some (s, [])
  | some (d, m) => advance side s d m

def handleAll (side : δ → Side γ μ ε) : State δ γ → List (Event δ μ) → Option (State δ γ × List ε)
  | s, [] => some (s, [])
  | s, e :: es =>
    (handle side s e).bind fun r => (handleAll side r.1 es).map fun t => (t.1, r.2 ++ t.2)

/-! ## Strokes -/

/-- Moves in one direction. -/
abbrev Stroke (δ μ : Type*) := δ × List μ

/-- The stroke that a move closes, if it does, and the one that is open after it. -/
def extend (current : Option (Stroke δ μ)) (d : δ) (m : μ) : List (Stroke δ μ) × Stroke δ μ :=
  match current with
  | some (l, ms) => if l = d then ([], (d, ms ++ [m])) else ([(l, ms)], (d, [m]))
  | none => ([], (d, [m]))

/-- The strokes that an event closes, and the one that is open after it. -/
def cut (current : Option (Stroke δ μ)) (e : Event δ μ) :
    List (Stroke δ μ) × Option (Stroke δ μ) :=
  let closed := if e.pause then current.toList else []
  let current := if e.pause then none else current
  match e.move with
  | none => (closed, current)
  | some (d, m) => (closed ++ (extend current d m).1, some (extend current d m).2)

/-- The strokes of a run that `current` is open at the start of. -/
def strokes : Option (Stroke δ μ) → List (Event δ μ) → List (Stroke δ μ)
  | current, [] => current.toList
  | current, e :: es => (cut current e).1 ++ strokes (cut current e).2 es

/-- What strokes give one after another, each from a side that has just started. -/
def outputs (side : δ → Side γ μ ε) (fresh : δ → γ) : List (Stroke δ μ) → Option (List ε)
  | [] => some []
  | (d, ms) :: rest =>
    ((side d).moves (fresh d) ms).bind fun r => (outputs side fresh rest).map fun more => r.2 ++ more

variable {side : δ → Side γ μ ε} {fresh : δ → γ}

omit [DecidableEq δ] in
theorem outputs_append (before after : List (Stroke δ μ)) :
    outputs side fresh (before ++ after) = (outputs side fresh before).bind fun out =>
      (outputs side fresh after).map fun more => out ++ more := by
  induction before with
  | nil => simp [outputs]
  | cons stroke before ih =>
    obtain ⟨d, ms⟩ := stroke
    rw [List.cons_append, outputs, outputs, ih]
    cases (side d).moves (fresh d) ms with
    | none => rfl
    | some r =>
      cases outputs side fresh before with
      | none => rfl
      | some out => cases outputs side fresh after <;> simp

theorem Side.moves_append (s : Side γ μ ε) (g : γ) (ms more : List μ) :
    s.moves g (ms ++ more) = (s.moves g ms).bind fun r =>
      (s.moves r.1 more).map fun t => (t.1, r.2 ++ t.2) := by
  induction ms generalizing g with
  | nil => simp [moves]
  | cons m ms ih =>
    rw [List.cons_append, moves, moves]
    cases s.move g m with
    | none => rfl
    | some r =>
      simp only [Option.bind_some, ih]
      cases s.moves r.1 ms with
      | none => rfl
      | some t =>
        simp only [Option.bind_some, Option.map_some, Option.map_map]
        congr 1
        funext u
        simp

theorem Side.moves_snoc {s : Side γ μ ε} {g : γ} {ms : List μ} {r : γ × List ε}
    (h : s.moves g ms = some r) (m : μ) :
    s.moves g (ms ++ [m]) = (s.move r.1 m).map fun t => (t.1, r.2 ++ t.2) := by
  rw [Side.moves_append, h, Option.bind_some, moves]
  cases s.move r.1 m with
  | none => rfl
  | some t => simp [moves]

/-- The open stroke goes on in what follows. -/
theorem strokes_some (l : δ) (ms : List μ) (es : List (Event δ μ)) :
    ∃ more rest, strokes (some (l, ms)) es = (l, ms ++ more) :: rest := by
  induction es generalizing ms with
  | nil => exact ⟨[], [], by rw [List.append_nil]; rfl⟩
  | cons e es ih =>
    obtain ⟨pause, move⟩ := e
    rw [strokes]
    cases pause with
    | true =>
      cases move with
      | none => exact ⟨[], _, by rw [List.append_nil]; rfl⟩
      | some move => exact ⟨[], _, by rw [List.append_nil]; rfl⟩
    | false =>
      cases move with
      | none => exact ih ms
      | some move =>
        obtain ⟨d, m⟩ := move
        by_cases hd : l = d
        · subst hd
          obtain ⟨more, rest, hrest⟩ := ih (ms ++ [m])
          refine ⟨m :: more, rest, ?_⟩
          simpa [cut, extend] using hrest
        · exact ⟨[], _, by simp [cut, extend, hd]; rfl⟩

/-- The stroke that an event closes was open before it. -/
theorem mem_cut {current : Option (Stroke δ μ)} {e : Event δ μ} {stroke : Stroke δ μ}
    (h : stroke ∈ (cut current e).1) : current = some stroke := by
  obtain ⟨pause, move⟩ := e
  cases pause with
  | true =>
    have hclosed : (cut current ⟨true, move⟩).1 = current.toList := by
      cases move with
      | none => rfl
      | some move => exact List.append_nil _
    rw [hclosed, Option.mem_toList] at h
    exact h
  | false =>
    cases move with
    | none => cases h
    | some move =>
      have h : stroke ∈ (extend current move.1 move.2).1 := h
      cases current with
      | none => cases h
      | some current =>
        rw [extend] at h
        split at h
        · cases h
        · rw [List.mem_singleton] at h
          rw [h]

theorem mem_extend {current : Option (Stroke δ μ)} {d : δ} {m m' : μ}
    (h : m' ∈ (extend current d m).2.2) :
    (extend current d m).2.1 = d ∧ (m' = m ∨ ∃ ms, current = some (d, ms) ∧ m' ∈ ms) := by
  cases current with
  | none => exact ⟨rfl, .inl (List.mem_singleton.mp h)⟩
  | some stroke =>
    obtain ⟨l, ms⟩ := stroke
    by_cases hd : l = d
    · subst hd
      have hsame : extend (some (l, ms)) l m = ([], (l, ms ++ [m])) := if_pos rfl
      rw [hsame, List.mem_append, List.mem_singleton] at h
      rw [hsame]
      exact ⟨rfl, h.symm.imp_right fun hms => ⟨ms, rfl, hms⟩⟩
    · have hother : extend (some (l, ms)) d m = ([(l, ms)], (d, [m])) := if_neg hd
      rw [hother, List.mem_singleton] at h
      rw [hother]
      exact ⟨rfl, .inl h⟩

/-- The open stroke is made of the move of the event and of what was open before. -/
theorem mem_open {current : Option (Stroke δ μ)} {e : Event δ μ} {d : δ} {ms : List μ}
    (h : (cut current e).2 = some (d, ms)) {m : μ} (hm : m ∈ ms) :
    e.move = some (d, m) ∨ ∃ ms', current = some (d, ms') ∧ m ∈ ms' := by
  obtain ⟨pause, move⟩ := e
  have hbefore : ∀ ms', (if pause then none else current) = some (d, ms') →
      current = some (d, ms') := fun _ h => (Option.ite_none_left_eq_some.mp h).2
  cases move with
  | none => exact .inr ⟨ms, hbefore ms h, hm⟩
  | some move =>
    have hlast : (extend (if pause then none else current) move.1 move.2).2 = (d, ms) :=
      Option.some_inj.mp h
    have hmem : m ∈ (extend (if pause then none else current) move.1 move.2).2.2 := by
      rw [hlast]
      exact hm
    obtain ⟨hd, hmoves⟩ := mem_extend hmem
    rw [hlast] at hd
    obtain rfl : d = move.1 := hd
    rcases hmoves with rfl | ⟨ms', hms', hm'⟩
    · exact .inl rfl
    · exact .inr ⟨ms', hbefore ms' hms', hm'⟩

/-- What a stroke is made of are the moves of the events, besides what was there at the start. -/
theorem mem_strokes {current : Option (Stroke δ μ)} {es : List (Event δ μ)} {stroke : Stroke δ μ}
    (h : stroke ∈ strokes current es) {m : μ} (hm : m ∈ stroke.2) :
    (∃ e ∈ es, e.move = some (stroke.1, m)) ∨ ∃ ms, current = some (stroke.1, ms) ∧ m ∈ ms := by
  induction es generalizing current with
  | nil =>
    rw [strokes, Option.mem_toList] at h
    exact .inr ⟨stroke.2, h, hm⟩
  | cons e es ih =>
    rw [strokes, List.mem_append] at h
    rcases h with hclosed | hlater
    · exact .inr ⟨stroke.2, mem_cut hclosed, hm⟩
    · rcases ih hlater with ⟨e', he', hmove⟩ | ⟨ms, hopen, hms⟩
      · exact .inl ⟨e', List.mem_cons_of_mem e he', hmove⟩
      · rcases mem_open hopen hms with hmove | hbefore
        · exact .inl ⟨e, List.mem_cons_self, hmove⟩
        · exact .inr hbefore

/-- The sides stand as the open stroke has left them, which has given `out`. -/
inductive Open (side : δ → Side γ μ ε) (fresh : δ → γ) :
    State δ γ → Option (Stroke δ μ) → List ε → Prop where
  | start {last : Option δ} : Open side fresh { sides := fresh, last := last } none []
  | going {d : δ} {ms : List μ} {r : γ × List ε} (moved : (side d).moves (fresh d) ms = some r) :
      Open side fresh { sides := Function.update fresh d r.1, last := some d } (some (d, ms)) r.2

variable {s : State δ γ} {current : Option (Stroke δ μ)} {out : List ε}

theorem Open.outputs_toList (h : Open side fresh s current out) :
    outputs side fresh current.toList = some out := by
  cases h with
  | start => rfl
  | going moved => simp [outputs, moved]

theorem Open.pause (hreturns : ∀ d, (side d).Returns (fresh d)) (h : Open side fresh s current out) :
    pause side s = { sides := fresh, last := none } := by
  have hfresh : ∀ d, (side d).reset (fresh d) = fresh d := fun d => hreturns d [] _ rfl
  rw [Strokes.pause]
  congr 1
  funext d
  cases h with
  | start => exact hfresh d
  | @going l ms r moved =>
    by_cases hd : d = l
    · subst hd
      simpa using hreturns d ms r moved
    · simpa [hd] using hfresh d

/-- The side that moves next: its stroke goes on, or it starts. -/
theorem Open.leave (hreturns : ∀ d, (side d).Returns (fresh d)) (h : Open side fresh s current out)
    (d : δ) (m : μ) :
    ∃ ms r closed, leave side s d = Function.update fresh d r.1 ∧
      (side d).moves (fresh d) ms = some r ∧
      extend current d m = (closed, (d, ms ++ [m])) ∧
      ∃ before, outputs side fresh closed = some before ∧ out = before ++ r.2 := by
  have hfresh : ∀ d, (side d).reset (fresh d) = fresh d := fun d => hreturns d [] _ rfl
  cases h with
  | @start last =>
    refine ⟨[], (fresh d, []), [], ?_, rfl, rfl, [], rfl, rfl⟩
    rw [Function.update_eq_self, Strokes.leave]
    cases last with
    | none => rfl
    | some l => simp [hfresh]
  | @going l ms r moved =>
    by_cases hd : l = d
    · subst hd
      exact ⟨ms, r, [], by simp [Strokes.leave], moved, by simp [extend], [], rfl, rfl⟩
    · refine ⟨[], (fresh d, []), [(l, ms)], ?_, rfl, by simp [extend, hd], r.2, ?_, by simp⟩
      · have hback : (side l).reset r.1 = fresh l := hreturns l ms r moved
        simp [Strokes.leave, hd, hback]
      · simp [outputs, moved]

/-- A move either goes wrong, and so does the stroke that it belongs to, or it adds to its stroke. -/
theorem Open.advance (hreturns : ∀ d, (side d).Returns (fresh d))
    (h : Open side fresh s current out) (d : δ) (m : μ) :
    (advance side s d m = none ∧ (side (extend current d m).2.1).moves
        (fresh (extend current d m).2.1) (extend current d m).2.2 = none) ∨
      ∃ r closed out', advance side s d m = some r ∧
        outputs side fresh (extend current d m).1 = some closed ∧
        Open side fresh r.1 (some (extend current d m).2) out' ∧ out ++ r.2 = closed ++ out' := by
  obtain ⟨ms, r, closed, hleave, hmoved, hextend, before, hbefore, rfl⟩ := h.leave hreturns d m
  have hsnoc := Side.moves_snoc hmoved m
  rw [Strokes.advance, hleave, hextend]
  simp only [Function.update_self, Function.update_idem]
  cases hmove : (side d).move r.1 m with
  | none =>
    rw [hmove, Option.map_none] at hsnoc
    exact .inl ⟨rfl, hsnoc⟩
  | some t =>
    rw [hmove, Option.map_some] at hsnoc
    exact .inr ⟨_, before, r.2 ++ t.2, rfl, hbefore, .going hsnoc, List.append_assoc ..⟩

/-- An event does what `Open.advance` says of its move, after a pause or not. -/
theorem Open.handle (hreturns : ∀ d, (side d).Returns (fresh d))
    (h : Open side fresh s current out) (e : Event δ μ) :
    (handle side s e = none ∧ ∃ d ms, (cut current e).2 = some (d, ms) ∧
        (side d).moves (fresh d) ms = none) ∨
      ∃ r closed out', handle side s e = some r ∧
        outputs side fresh (cut current e).1 = some closed ∧
        Open side fresh r.1 (cut current e).2 out' ∧ out ++ r.2 = closed ++ out' := by
  obtain ⟨pause, move⟩ := e
  cases pause with
  | false =>
    cases move with
    | none => exact .inr ⟨_, [], out, rfl, rfl, h, by simp⟩
    | some move =>
      obtain ⟨hnone, hstroke⟩ | hsome := h.advance hreturns move.1 move.2
      · exact .inl ⟨hnone, _, _, rfl, hstroke⟩
      · exact .inr hsome
  | true =>
    have hpause := h.pause hreturns
    have hstart : Open side fresh (Strokes.pause side s) (none : Option (Stroke δ μ)) [] := by
      rw [hpause]
      exact .start
    cases move with
    | none =>
      refine .inr ⟨_, out, [], rfl, ?_, hstart, rfl⟩
      exact h.outputs_toList
    | some move =>
      obtain ⟨hnone, hstroke⟩ | ⟨r, closed, out', hr, hclosed, hopen, hout⟩ :=
        hstart.advance hreturns move.1 move.2
      · exact .inl ⟨hnone, _, _, rfl, hstroke⟩
      · refine .inr ⟨r, out ++ closed, out', hr, ?_, hopen, ?_⟩
        · simp only [cut, if_true, outputs_append, h.outputs_toList, Option.bind_some, hclosed,
            Option.map_some]
        · rw [List.append_assoc, ← hout, List.nil_append]

/-- What a run gives from where a stroke is open is what its strokes give. -/
theorem Open.outputs_handleAll (hreturns : ∀ d, (side d).Returns (fresh d)) (es : List (Event δ μ)) :
    ∀ {s current out}, Open side fresh s current out →
      (handleAll side s es).map (fun r => out ++ r.2) = outputs side fresh (strokes current es) := by
  induction es with
  | nil =>
    intro s current out h
    rw [strokes, h.outputs_toList, handleAll, Option.map_some, List.append_nil]
  | cons e es ih =>
    intro s current out h
    rw [handleAll, strokes, outputs_append]
    obtain ⟨hnone, d, ms, hopen, hstroke⟩ | ⟨r, closed, out', hr, hclosed, hopen, hout⟩ :=
      h.handle hreturns e
    · obtain ⟨more, rest, hrest⟩ := strokes_some d ms es
      have hwrong : outputs side fresh (strokes (some (d, ms)) es) = none := by
        rw [hrest, outputs, Side.moves_append, hstroke]
        rfl
      rw [hnone, hopen, hwrong]
      cases outputs side fresh (cut current e).1 <;> rfl
    · rw [hr, hclosed, Option.bind_some, Option.bind_some, ← ih hopen]
      cases handleAll side r.1 es with
      | none => rfl
      | some t => simp [← List.append_assoc, hout]

/-- From sides that have just started, a run gives what its strokes give one after another, whatever
the last move was. -/
theorem outputs_handleAll (hreturns : ∀ d, (side d).Returns (fresh d)) (last : Option δ)
    (es : List (Event δ μ)) :
    (handleAll side { sides := fresh, last := last } es).map Prod.snd =
      outputs side fresh (strokes none es) :=
  Open.outputs_handleAll hreturns es .start

end Strokes
