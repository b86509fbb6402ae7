import Mathlib.Data.List.Pairwise
import Mathlib.Order.Lattice

/-!
# Maps sorted by a comparator

The associative containers of the C++ library: entries in the order of a comparator, at most one of
two equivalent keys, and an `emplace` that keeps the entry that is there. Two keys are equivalent
when neither is less than the other, so a map compares keys by its comparator alone.
-/

/-- A comparator: an irreflexive and transitive test. -/
structure KeyLess (κ : Type*) where
  lt : κ → κ → Bool
  irrefl : ∀ a, lt a a = false
  trans : ∀ {a b c}, lt a b = true → lt b c = true → lt a c = true

/-- The comparator that compares the images of the keys. -/
def KeyLess.on {κ ι : Type*} [LinearOrder ι] (f : κ → ι) : KeyLess κ where
  lt a b := decide (f a < f b)
  irrefl a := decide_eq_false (lt_irrefl (f a))
  trans := by
    intro a b c hab hbc
    simp only [decide_eq_true_eq] at hab hbc ⊢
    exact lt_trans hab hbc

/-- Equivalent keys are equal. -/
def KeyLess.Linear {κ : Type*} (less : KeyLess κ) : Prop :=
  ∀ a b, less.lt a b = false → less.lt b a = false → a = b

theorem KeyLess.on_linear {κ ι : Type*} [LinearOrder ι] {f : κ → ι} (hf : Function.Injective f) :
    (KeyLess.on f).Linear := by
  intro a b hab hba
  apply hf
  simp only [KeyLess.on, decide_eq_false_iff_not, not_lt] at hab hba
  exact le_antisymm hba hab

/-- Equivalent keys compare the same way with any key. -/
def KeyLess.Weak {κ : Type*} (less : KeyLess κ) : Prop :=
  ∀ a b, less.lt a b = false → less.lt b a = false →
    ∀ c, less.lt a c = less.lt b c ∧ less.lt c a = less.lt c b

theorem KeyLess.Linear.weak {κ : Type*} {less : KeyLess κ} (hless : less.Linear) : less.Weak := by
  intro a b hab hba c
  rw [hless a b hab hba]
  exact ⟨rfl, rfl⟩

structure SortedMap (κ β : Type*) (less : KeyLess κ) where
  entries : List (κ × β)
  sorted : entries.Pairwise fun a b => less.lt a.1 b.1 = true

namespace SortedMap

variable {κ β : Type*} {less : KeyLess κ}

def empty : SortedMap κ β less := ⟨[], List.Pairwise.nil⟩

instance : Inhabited (SortedMap κ β less) := ⟨empty⟩

theorem ext {m n : SortedMap κ β less} (h : m.entries = n.entries) : m = n := by
  cases m
  cases n
  cases h
  rfl

instance [DecidableEq κ] [DecidableEq β] : DecidableEq (SortedMap κ β less) := fun m n =>
  decidable_of_iff (m.entries = n.entries) ⟨ext, fun h => by rw [h]⟩

/-- The keys are equivalent. -/
def equiv (less : KeyLess κ) (k l : κ) : Bool := !less.lt k l && !less.lt l k

def find? (m : SortedMap κ β less) (k : κ) : Option β :=
  (m.entries.find? fun e => equiv less k e.1).map Prod.snd

/-- Insert where the order puts it; an equivalent entry stays as it is. -/
def emplaceEntry (less : KeyLess κ) (k : κ) (v : β) : List (κ × β) → List (κ × β)
  | [] => [(k, v)]
  | e :: es =>
    if less.lt k e.1 then (k, v) :: e :: es
    else if less.lt e.1 k then e :: emplaceEntry less k v es
    else e :: es

theorem mem_emplaceEntry {k : κ} {v : β} {e : κ × β} {l : List (κ × β)}
    (h : e ∈ emplaceEntry less k v l) : e = (k, v) ∨ e ∈ l := by
  induction l with
  | nil => exact .inl (List.mem_singleton.mp h)
  | cons d l ih =>
    rw [emplaceEntry] at h
    split at h
    · exact List.mem_cons.mp h
    · split at h
      · rcases List.mem_cons.mp h with heq | hmem
        · exact .inr (List.mem_cons.mpr (.inl heq))
        · rcases ih hmem with heq | hmem
          · exact .inl heq
          · exact .inr (List.mem_cons_of_mem d hmem)
      · exact .inr h

theorem sorted_emplaceEntry {l : List (κ × β)}
    (h : l.Pairwise fun a b => less.lt a.1 b.1 = true) (k : κ) (v : β) :
    (emplaceEntry less k v l).Pairwise fun a b => less.lt a.1 b.1 = true := by
  induction l with
  | nil => exact List.pairwise_singleton _ _
  | cons d l ih =>
    rw [List.pairwise_cons] at h
    rw [emplaceEntry]
    split
    next hlt =>
      refine List.Pairwise.cons ?_ (List.pairwise_cons.mpr h)
      intro e he
      rcases List.mem_cons.mp he with rfl | he
      · exact hlt
      · exact less.trans hlt (h.1 e he)
    next =>
      split
      next hgt =>
        refine List.Pairwise.cons ?_ (ih h.2)
        intro e he
        rcases mem_emplaceEntry he with rfl | he
        · exact hgt
        · exact h.1 e he
      next => exact List.pairwise_cons.mpr h

def emplace (m : SortedMap κ β less) (k : κ) (v : β) : SortedMap κ β less :=
  ⟨emplaceEntry less k v m.entries, sorted_emplaceEntry m.sorted k v⟩

/-- A key above all entries goes to the end. -/
theorem emplaceEntry_of_above {k : κ} {v : β} {l : List (κ × β)}
    (h : ∀ e ∈ l, less.lt e.1 k = true) : emplaceEntry less k v l = l ++ [(k, v)] := by
  induction l with
  | nil => rfl
  | cons d l ih =>
    have hgt : less.lt d.1 k = true := h d List.mem_cons_self
    have hnot : less.lt k d.1 = false := by
      rw [Bool.eq_false_iff]
      intro hlt
      have hself := less.trans hlt hgt
      rw [less.irrefl] at hself
      cases hself
    rw [emplaceEntry, hnot, hgt, if_neg (by simp), if_pos rfl,
      ih fun e he => h e (List.mem_cons_of_mem d he)]
    rfl

/-- A key with an equivalent entry changes nothing. -/
theorem emplaceEntry_of_equiv {k : κ} {v : β} {l : List (κ × β)} {e : κ × β}
    (h : l.Pairwise fun a b => less.lt a.1 b.1 = true) (he : e ∈ l)
    (hequiv : equiv less k e.1 = true) : emplaceEntry less k v l = l := by
  rw [equiv, Bool.and_eq_true, Bool.not_eq_true', Bool.not_eq_true'] at hequiv
  induction l with
  | nil => cases he
  | cons d l ih =>
    rw [List.pairwise_cons] at h
    rw [emplaceEntry]
    split
    next hlt =>
      -- the equivalent entry is not below the key, and the first one is not above it
      have hbelow : less.lt k e.1 = true := by
        rcases List.mem_cons.mp he with rfl | he
        · exact hlt
        · exact less.trans hlt (h.1 e he)
      rw [hequiv.1] at hbelow
      cases hbelow
    next =>
      split
      next hgt =>
        rcases List.mem_cons.mp he with rfl | he
        · rw [hequiv.2] at hgt
          cases hgt
        · rw [ih h.2 he]
      next => rfl

theorem emplace_of_equiv {m : SortedMap κ β less} {k : κ} {v : β} {e : κ × β} (he : e ∈ m.entries)
    (hequiv : equiv less k e.1 = true) : m.emplace k v = m :=
  ext (emplaceEntry_of_equiv m.sorted he hequiv)

/-- Emplacing the entries of a map one after another, in its order, builds the map. -/
theorem foldl_emplace (m : SortedMap κ β less) :
    m.entries.foldl (fun acc e => acc.emplace e.1 e.2) empty = m := by
  have hgen : ∀ (l : List (κ × β)) (acc : SortedMap κ β less),
      (acc.entries ++ l).Pairwise (fun a b => less.lt a.1 b.1 = true) →
      (l.foldl (fun acc e => acc.emplace e.1 e.2) acc).entries = acc.entries ++ l := by
    intro l
    induction l with
    | nil =>
      intro acc _
      rw [List.foldl_nil, List.append_nil]
    | cons e l ih =>
      intro acc h
      have hentries : (acc.emplace e.1 e.2).entries = acc.entries ++ [e] := by
        apply emplaceEntry_of_above
        intro d hd
        rw [List.pairwise_append] at h
        exact h.2.2 d hd e List.mem_cons_self
      rw [List.foldl_cons, ih (acc.emplace e.1 e.2) (by rw [hentries]; simpa using h), hentries,
        List.append_assoc]
      rfl
  apply ext
  rw [hgen m.entries empty m.sorted]
  rfl

/-- Remove the entry of a key. -/
def erase (m : SortedMap κ β less) (k : κ) : SortedMap κ β less :=
  ⟨m.entries.filter fun e => !equiv less k e.1, m.sorted.filter _⟩

def mapValues {γ : Type*} (f : κ → β → γ) (m : SortedMap κ β less) : SortedMap κ γ less where
  entries := m.entries.map fun e => (e.1, f e.1 e.2)
  sorted := m.sorted.map _ fun _ _ h => h

theorem find?_mapValues {γ : Type*} {f : β → γ} {m : SortedMap κ β less} {k : κ} :
    (m.mapValues fun _ => f).find? k = (m.find? k).map f := by
  rw [find?, find?, mapValues, List.find?_map, Option.map_map, Option.map_map]
  rfl

/-- Change the entry of a key that is present. -/
def modify (m : SortedMap κ β less) (k : κ) (f : β → β) : SortedMap κ β less :=
  m.mapValues fun l w => if equiv less k l then f w else w

/-- `m[k] = v` -/
def assign (m : SortedMap κ β less) (k : κ) (v : β) : SortedMap κ β less :=
  (m.emplace k v).modify k fun _ => v

/-- The keys in the order of the map. -/
def keys (m : SortedMap κ β less) : List κ := m.entries.map Prod.fst

theorem nodup_keys (m : SortedMap κ β less) : m.keys.Nodup := by
  rw [keys, List.Nodup, List.pairwise_map]
  refine m.sorted.imp ?_
  intro a b hlt heq
  rw [heq, less.irrefl] at hlt
  cases hlt

/-! ## Lookups up to equivalence

The comparator is a weak order, so equivalent keys find the same entry. -/

section Weak

variable (hless : less.Weak)
include hless

omit hless in
theorem equiv_comm (k l : κ) : equiv less k l = equiv less l k := by
  rw [equiv, equiv, Bool.and_comm]

theorem equiv_congr {k l : κ} (h : equiv less k l = true) (c : κ) :
    equiv less k c = equiv less l c := by
  rw [equiv, Bool.and_eq_true, Bool.not_eq_true', Bool.not_eq_true'] at h
  obtain ⟨hleft, hright⟩ := hless k l h.1 h.2 c
  rw [equiv, equiv, hleft, hright]

theorem find?_modify {m : SortedMap κ β less} {k l : κ} {f : β → β} :
    (m.modify k f).find? l = if equiv less k l then (m.find? l).map f else m.find? l := by
  have hgen : ∀ es : List (κ × β),
      ((es.map fun e => (e.1, if equiv less k e.1 then f e.2 else e.2)).find?
        fun e => equiv less l e.1).map Prod.snd =
      if equiv less k l then ((es.find? fun e => equiv less l e.1).map Prod.snd).map f
      else (es.find? fun e => equiv less l e.1).map Prod.snd := by
    intro es
    induction es with
    | nil => simp
    | cons e es ih =>
      rw [List.map_cons, List.find?_cons, List.find?_cons]
      cases hl : equiv less l e.1 with
      | true =>
        have hk : equiv less k e.1 = equiv less k l := by
          rw [equiv_comm k, equiv_comm k, equiv_congr hless hl]
        simp only [hk, Option.map_some]
        split <;> rfl
      | false => exact ih
  exact hgen m.entries

theorem find?_emplace {m : SortedMap κ β less} {k l : κ} {v : β} :
    (m.emplace k v).find? l =
      if equiv less k l ∧ m.find? l = none then some v else m.find? l := by
  have hgen : ∀ es : List (κ × β), es.Pairwise (fun a b => less.lt a.1 b.1 = true) →
      ((emplaceEntry less k v es).find? fun e => equiv less l e.1).map Prod.snd =
      if equiv less k l ∧ (es.find? fun e => equiv less l e.1).map Prod.snd = none then some v
      else (es.find? fun e => equiv less l e.1).map Prod.snd := by
    intro es
    induction es with
    | nil =>
      intro _
      rw [emplaceEntry, List.find?_cons, equiv_comm l k]
      cases equiv less k l <;> simp
    | cons e es ih =>
      intro h
      rw [List.pairwise_cons] at h
      rw [emplaceEntry]
      split
      next hlt =>
        rw [List.find?_cons, equiv_comm l k]
        cases hk : equiv less k l with
        | false => simp
        | true =>
          -- the new entry is below all others, so none of them is equivalent to it
          have hnone : ((e :: es).find? fun e => equiv less l e.1) = none := by
            rw [List.find?_eq_none]
            intro d hd
            have hbelow : less.lt k d.1 = true := by
              rcases List.mem_cons.mp hd with rfl | hd
              · exact hlt
              · exact less.trans hlt (h.1 d hd)
            rw [← equiv_congr hless hk]
            simp [equiv, hbelow]
          simp [hnone]
      next hnlt =>
        split
        next hgt =>
          rw [List.find?_cons, List.find?_cons]
          cases hl : equiv less l e.1 with
          | false => exact ih h.2
          | true =>
            have hk : equiv less k l = false := by
              rw [equiv_comm, equiv_congr hless hl, equiv_comm]
              simp [equiv, hgt]
            simp [hk]
        next hngt =>
          have hke : equiv less k e.1 = true := by
            simp [equiv, Bool.eq_false_iff.mpr hnlt, Bool.eq_false_iff.mpr hngt]
          rw [if_neg]
          intro hboth
          obtain ⟨hk, hnone⟩ := hboth
          rw [List.find?_cons, ← equiv_congr hless hk, hke] at hnone
          cases hnone
  exact hgen m.entries m.sorted

theorem find?_assign {m : SortedMap κ β less} {k l : κ} {v : β} :
    (m.assign k v).find? l = if equiv less k l then some v else m.find? l := by
  rw [assign, find?_modify hless, find?_emplace hless]
  cases hk : equiv less k l with
  | false => simp
  | true => cases m.find? l <;> simp

/-- Of several entries of one key, the first that is emplaced stays. -/
theorem find?_foldl_emplace {l : List (κ × β)} {m : SortedMap κ β less} {k : κ} :
    (l.foldl (fun acc e => acc.emplace e.1 e.2) m).find? k =
      (m.find? k).or ((l.find? fun e => equiv less k e.1).map Prod.snd) := by
  induction l generalizing m with
  | nil => simp
  | cons e l ih =>
    rw [List.foldl_cons, ih, find?_emplace hless, List.find?_cons, equiv_comm e.1 k]
    cases hk : equiv less k e.1 with
    | false => simp
    | true => cases m.find? k <;> simp

end Weak

/-! ## Lookups

The comparator is linear from here on, so a lookup finds the entry of the key itself. -/

section Lookup

variable (hless : less.Linear)
include hless

theorem equiv_iff {k l : κ} : equiv less k l = true ↔ k = l := by
  constructor
  · intro h
    rw [equiv, Bool.and_eq_true, Bool.not_eq_true', Bool.not_eq_true'] at h
    exact hless k l h.1 h.2
  · intro h
    subst h
    simp [equiv, less.irrefl]

theorem equiv_of_ne {k l : κ} (h : k ≠ l) : equiv less k l = false := by
  rw [Bool.eq_false_iff]
  intro heq
  exact h ((equiv_iff hless).mp heq)

theorem find?_eq_some_iff {m : SortedMap κ β less} {k : κ} {v : β} :
    m.find? k = some v ↔ (k, v) ∈ m.entries := by
  have hgen : ∀ l : List (κ × β), l.Pairwise (fun a b => less.lt a.1 b.1 = true) →
      ((l.find? fun e => equiv less k e.1).map Prod.snd = some v ↔ (k, v) ∈ l) := by
    intro l
    induction l with
    | nil => simp
    | cons e l ih =>
      intro h
      rw [List.pairwise_cons] at h
      rw [List.find?_cons, List.mem_cons]
      by_cases hk : k = e.1
      · have heq : equiv less k e.1 = true := (equiv_iff hless).mpr hk
        have hfresh : (k, v) ∉ l := by
          intro hmem
          have hself := h.1 (k, v) hmem
          rw [← hk, less.irrefl] at hself
          cases hself
        rw [heq, Option.map_some, Option.some_inj, or_iff_left hfresh, Prod.ext_iff,
          and_iff_right hk, eq_comm]
      · rw [equiv_of_ne hless hk, ih h.2]
        simp [Prod.ext_iff, hk]
  exact hgen m.entries m.sorted

theorem find?_eq_none_iff {m : SortedMap κ β less} {k : κ} : m.find? k = none ↔ k ∉ m.keys := by
  rw [Option.eq_none_iff_forall_ne_some, keys, List.mem_map]
  constructor
  · intro h hex
    obtain ⟨⟨l, v⟩, hmem, rfl⟩ := hex
    exact h v ((find?_eq_some_iff hless).mpr hmem)
  · intro h v hv
    exact h ⟨(k, v), (find?_eq_some_iff hless).mp hv, rfl⟩

theorem find?_erase_self {m : SortedMap κ β less} {k : κ} : (m.erase k).find? k = none := by
  rw [Option.eq_none_iff_forall_ne_some]
  intro v hv
  have hmem := List.mem_filter.mp ((find?_eq_some_iff hless).mp hv)
  simp [equiv, less.irrefl] at hmem

theorem find?_erase_of_ne {m : SortedMap κ β less} {k l : κ} (h : l ≠ k) :
    (m.erase k).find? l = m.find? l := by
  apply Option.ext
  intro v
  rw [find?_eq_some_iff hless, find?_eq_some_iff hless, erase, List.mem_filter]
  simp [equiv_of_ne hless h.symm]

theorem find?_modify_self {m : SortedMap κ β less} {k : κ} {f : β → β} {w : β}
    (h : m.find? k = some w) : (m.modify k f).find? k = some (f w) := by
  rw [find?_modify hless.weak, (equiv_iff hless).mpr rfl, if_pos rfl, h, Option.map_some]

theorem find?_modify_of_ne {m : SortedMap κ β less} {k l : κ} {f : β → β} (h : l ≠ k) :
    (m.modify k f).find? l = m.find? l := by
  rw [find?_modify hless.weak, equiv_of_ne hless h.symm]
  rfl

/-- A key that is present keeps its value. -/
theorem find?_emplace_of_some {m : SortedMap κ β less} {k l : κ} {v w : β}
    (h : m.find? l = some w) : (m.emplace k v).find? l = some w := by
  rw [find?_emplace hless.weak, h, if_neg]
  intro hboth
  cases hboth.2

theorem find?_single_iff {k l : κ} {v w : β} :
    (empty.emplace k v : SortedMap κ β less).find? l = some w ↔ l = k ∧ w = v := by
  rw [find?_eq_some_iff hless]
  show (l, w) ∈ [(k, v)] ↔ _
  rw [List.mem_singleton, Prod.mk.injEq]

theorem find?_emplace_self {m : SortedMap κ β less} {k : κ} {v : β} (h : m.find? k = none) :
    (m.emplace k v).find? k = some v := by
  rw [find?_emplace hless.weak, if_pos ⟨(equiv_iff hless).mpr rfl, h⟩]

theorem mem_keys_iff {m : SortedMap κ β less} {k : κ} : k ∈ m.keys ↔ (m.find? k).isSome := by
  rw [← not_iff_not, ← find?_eq_none_iff hless, Option.not_isSome_iff_eq_none]

theorem mem_keys_emplace {m : SortedMap κ β less} {k l : κ} {v : β} :
    l ∈ (m.emplace k v).keys ↔ l = k ∨ l ∈ m.keys := by
  rw [mem_keys_iff hless, mem_keys_iff hless, find?_emplace hless.weak]
  by_cases hk : k = l
  · subst hk
    cases m.find? k <;> simp [(equiv_iff hless).mpr rfl]
  · simp [equiv_of_ne hless hk, Ne.symm hk]

theorem mem_keys_erase {m : SortedMap κ β less} {k l : κ} :
    l ∈ (m.erase k).keys ↔ l ≠ k ∧ l ∈ m.keys := by
  rw [mem_keys_iff hless, mem_keys_iff hless]
  by_cases hk : l = k
  · subst hk
    simp [find?_erase_self hless]
  · simp [find?_erase_of_ne hless hk, hk]

theorem find?_assign_self {m : SortedMap κ β less} {k : κ} {v : β} :
    (m.assign k v).find? k = some v := by
  rw [find?_assign hless.weak, (equiv_iff hless).mpr rfl, if_pos rfl]

theorem find?_assign_of_ne {m : SortedMap κ β less} {k l : κ} {v : β} (h : l ≠ k) :
    (m.assign k v).find? l = m.find? l := by
  rw [find?_assign hless.weak, equiv_of_ne hless h.symm]
  rfl

end Lookup

end SortedMap
