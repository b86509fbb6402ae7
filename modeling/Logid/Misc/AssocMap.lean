import Mathlib.Data.List.Nodup
import Mathlib.Data.List.Perm.Basic

/-!
# Finite maps with unique keys

A map as the list of its entries. The operations are those of an associative container whose
`emplace` keeps the entry that is there: `find?`, `emplace`, `set` for a key that is present, and
`erase`. Proofs that count what a map holds split the entries around a key (`AssocMap.split`);
proofs about keys use the `has_` lemmas.
-/

structure AssocMap (κ β : Type*) where
  entries : List (κ × β)
  nodup : (entries.map Prod.fst).Nodup

namespace AssocMap

variable {κ β : Type*}

def empty : AssocMap κ β := ⟨[], List.nodup_nil⟩

/-- The key is in the map. -/
def Has (m : AssocMap κ β) (k : κ) : Prop := k ∈ m.entries.map Prod.fst

def values (m : AssocMap κ β) : List β := m.entries.map Prod.snd

variable [DecidableEq κ]

instance (m : AssocMap κ β) (k : κ) : Decidable (m.Has k) :=
  inferInstanceAs (Decidable (k ∈ m.entries.map Prod.fst))

def find? (m : AssocMap κ β) (k : κ) : Option β :=
  (m.entries.find? fun e => e.1 = k).map Prod.snd

/-- Insert at a new key; at a key that is present the map stays as it is. -/
def emplace (m : AssocMap κ β) (k : κ) (v : β) : AssocMap κ β :=
  if h : m.Has k then m
  else {
    entries := m.entries ++ [(k, v)]
    nodup := by
      rw [List.map_append, List.nodup_append]
      refine ⟨m.nodup, List.nodup_singleton _, ?_⟩
      intro a ha b hb hab
      rw [List.map_cons, List.map_nil, List.mem_singleton] at hb
      rw [hab, hb] at ha
      exact h ha }

def erase (m : AssocMap κ β) (k : κ) : AssocMap κ β where
  entries := m.entries.eraseP fun e => e.1 = k
  nodup := m.nodup.sublist (List.eraseP_sublist.map _)

/-- Replace the value of a key that is present. -/
def set (m : AssocMap κ β) (k : κ) (v : β) : AssocMap κ β where
  entries := m.entries.map fun e => if e.1 = k then (k, v) else e
  nodup := by
    have hkeys : (m.entries.map fun e => if e.1 = k then (k, v) else e).map Prod.fst =
        m.entries.map Prod.fst := by
      rw [List.map_map]
      apply List.map_congr_left
      intro e _
      by_cases he : e.1 = k <;> simp [he]
    rw [hkeys]
    exact m.nodup

theorem find?_eq_some_iff {m : AssocMap κ β} {k : κ} {v : β} :
    m.find? k = some v ↔ (k, v) ∈ m.entries := by
  unfold find?
  rw [Option.map_eq_some_iff]
  constructor
  · intro hex
    obtain ⟨⟨k', v'⟩, hfind, rfl⟩ := hex
    have hkey : k' = k := by simpa using List.find?_some hfind
    rw [← hkey]
    exact List.mem_of_find?_eq_some hfind
  · intro hmem
    cases hfind : m.entries.find? fun e => e.1 = k with
    | none =>
      have hne := List.find?_eq_none.mp hfind (k, v) hmem
      simp at hne
    | some e =>
      have hkey : e.1 = k := by simpa using List.find?_some hfind
      have heq := List.inj_on_of_nodup_map m.nodup (List.mem_of_find?_eq_some hfind) hmem hkey
      exact ⟨e, rfl, by rw [heq]⟩

theorem has_iff {m : AssocMap κ β} {k : κ} : m.Has k ↔ ∃ v, m.find? k = some v := by
  simp [Has, find?_eq_some_iff]

theorem find?_eq_none_iff {m : AssocMap κ β} {k : κ} : m.find? k = none ↔ ¬ m.Has k := by
  rw [has_iff, Option.eq_none_iff_forall_ne_some, not_exists]

theorem has_of_find? {m : AssocMap κ β} {k : κ} {v : β} (h : m.find? k = some v) : m.Has k :=
  has_iff.mpr ⟨v, h⟩

theorem emplace_of_has {m : AssocMap κ β} {k : κ} (h : m.Has k) (v : β) : m.emplace k v = m :=
  dif_pos h

theorem emplace_entries {m : AssocMap κ β} {k : κ} (h : ¬ m.Has k) (v : β) :
    (m.emplace k v).entries = m.entries ++ [(k, v)] := by
  rw [emplace, dif_neg h]

theorem has_emplace {m : AssocMap κ β} {k l : κ} {v : β} :
    (m.emplace k v).Has l ↔ m.Has l ∨ l = k := by
  by_cases h : m.Has k
  · rw [emplace_of_has h]
    refine ⟨.inl, ?_⟩
    intro hor
    rcases hor with hl | rfl
    · exact hl
    · exact h
  · rw [Has, emplace_entries h, List.map_append, List.mem_append]
    simp [Has]

/-- Around a key that is present, the three operations leave the other entries where they are. -/
theorem split {m : AssocMap κ β} {k : κ} {v : β} (h : m.find? k = some v) :
    ∃ l₁ l₂, m.entries = l₁ ++ (k, v) :: l₂ ∧ (m.erase k).entries = l₁ ++ l₂ ∧
      ∀ w, (m.set k w).entries = l₁ ++ (k, w) :: l₂ := by
  have hmem := find?_eq_some_iff.mp h
  obtain ⟨e, l₁, l₂, hl₁, he, hentries, herase⟩ :=
    List.exists_of_eraseP (p := fun e : κ × β => decide (e.1 = k)) hmem (by simp)
  have hek : e.1 = k := by simpa using he
  have heq : e = (k, v) := by
    refine List.inj_on_of_nodup_map m.nodup ?_ hmem hek
    rw [hentries]
    simp
  subst heq
  refine ⟨l₁, l₂, hentries, herase, fun w => ?_⟩
  have hnodup := m.nodup
  rw [hentries, List.map_append, List.map_cons, List.nodup_append, List.nodup_cons] at hnodup
  obtain ⟨-, ⟨hl₂, -⟩, -⟩ := hnodup
  have hsame : ∀ l : List (κ × β), (∀ b ∈ l, b.1 ≠ k) →
      l.map (fun e => if e.1 = k then (k, w) else e) = l := by
    intro l hl
    rw [List.map_congr_left (g := id) fun b hb => by simp [hl b hb], List.map_id]
  have h₁ := hsame l₁ fun b hb => by simpa using hl₁ b hb
  have h₂ := hsame l₂ fun b hb e => hl₂ (List.mem_map.mpr ⟨b, hb, e⟩)
  show m.entries.map _ = _
  rw [hentries, List.map_append, List.map_cons, h₁, h₂, if_pos rfl]

theorem perm_erase {m : AssocMap κ β} {k : κ} {v : β} (h : m.find? k = some v) :
    m.values.Perm (v :: (m.erase k).values) := by
  obtain ⟨l₁, l₂, hentries, herase, -⟩ := split h
  rw [values, hentries, values, herase, List.map_append, List.map_append]
  exact List.perm_middle

theorem perm_set {m : AssocMap κ β} {k : κ} {v : β} (h : m.find? k = some v) (w : β) :
    (m.set k w).values.Perm (w :: (m.erase k).values) := by
  obtain ⟨l₁, l₂, -, herase, hset⟩ := split h
  rw [values, hset w, values, herase, List.map_append, List.map_append]
  exact List.perm_middle

theorem perm_emplace {m : AssocMap κ β} {k : κ} (h : ¬ m.Has k) (v : β) :
    (m.emplace k v).values.Perm (v :: m.values) := by
  rw [values, emplace_entries h, List.map_append]
  exact List.perm_append_singleton v m.values

theorem has_erase {m : AssocMap κ β} {k l : κ} : (m.erase k).Has l ↔ m.Has l ∧ l ≠ k := by
  cases hk : m.find? k with
  | none =>
    have hnot := find?_eq_none_iff.mp hk
    have herase : (m.erase k).entries = m.entries := by
      apply List.eraseP_of_forall_not
      intro b hb
      rw [decide_eq_true_eq]
      intro heq
      subst heq
      exact hnot (List.mem_map_of_mem hb)
    rw [Has, herase]
    refine ⟨fun h => ⟨h, ?_⟩, And.left⟩
    intro heq
    subst heq
    exact hnot h
  | some v =>
    obtain ⟨l₁, l₂, hentries, herase, -⟩ := split hk
    have hnodup := m.nodup
    rw [hentries] at hnodup
    simp only [List.map_append, List.map_cons, List.nodup_append, List.nodup_cons] at hnodup
    obtain ⟨-, ⟨hl₂, -⟩, hdisj⟩ := hnodup
    rw [Has, herase, Has, hentries]
    simp only [List.map_append, List.map_cons, List.mem_append, List.mem_cons]
    constructor
    · intro hor
      rcases hor with h | h
      · exact ⟨.inl h, hdisj l h k List.mem_cons_self⟩
      · refine ⟨.inr (.inr h), ?_⟩
        intro heq
        subst heq
        exact hl₂ h
    · intro hex
      obtain ⟨h | rfl | h, hne⟩ := hex
      · exact .inl h
      · exact absurd rfl hne
      · exact .inr h

theorem has_set {m : AssocMap κ β} {k l : κ} {v : β} : (m.set k v).Has l ↔ m.Has l := by
  have hkeys : (m.set k v).entries.map Prod.fst = m.entries.map Prod.fst := by
    rw [set, List.map_map]
    apply List.map_congr_left
    intro e _
    by_cases he : e.1 = k <;> simp [he]
  rw [Has, hkeys, Has]

theorem find?_of_emplace {m : AssocMap κ β} {k l : κ} {v w : β}
    (h : (m.emplace k v).find? l = some w) : m.find? l = some w ∨ (l = k ∧ w = v) := by
  by_cases hk : m.Has k
  · rw [emplace_of_has hk] at h
    exact .inl h
  · rw [find?_eq_some_iff, emplace_entries hk, List.mem_append, List.mem_singleton] at h
    rw [find?_eq_some_iff]
    exact h.imp_right fun heq => ⟨congrArg Prod.fst heq, congrArg Prod.snd heq⟩

theorem find?_of_set {m : AssocMap κ β} {k l : κ} {v w : β} (h : (m.set k v).find? l = some w) :
    (l ≠ k ∧ m.find? l = some w) ∨ (l = k ∧ w = v) := by
  rw [find?_eq_some_iff, set, List.mem_map] at h
  obtain ⟨e, hmem, heq⟩ := h
  by_cases hk : e.1 = k
  · rw [if_pos hk] at heq
    cases heq
    exact .inr ⟨rfl, rfl⟩
  · rw [if_neg hk] at heq
    subst heq
    exact .inl ⟨hk, find?_eq_some_iff.mpr hmem⟩

theorem find?_of_erase {m : AssocMap κ β} {k l : κ} {w : β} (h : (m.erase k).find? l = some w) :
    m.find? l = some w := by
  rw [find?_eq_some_iff] at h ⊢
  exact List.mem_of_mem_eraseP h

theorem find?_set_self {m : AssocMap κ β} {k : κ} {v w : β} (h : m.find? k = some w) :
    (m.set k v).find? k = some v := by
  rw [find?_eq_some_iff] at h ⊢
  exact List.mem_map.mpr ⟨(k, w), h, if_pos rfl⟩

end AssocMap
