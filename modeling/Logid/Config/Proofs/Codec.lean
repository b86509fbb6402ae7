import Mathlib.Data.List.Nodup
import Logid.Config.Types

/-!
# Codecs that read back what they write

A value has an encoding when the codec writes one and the same setting for it wherever it is asked
to make a new one, and reads the value from that setting. There is one rule for each specialisation
of `config_io`; a rule for a variant asks that the first alternative reject what the others write,
so encodings are tracked together with a predicate that tells them apart.
-/

namespace Logid.Config

open Setting

variable {α β κ T : Type}

/-- The codec writes the setting `x` for `t`, and reads `t` from it. -/
structure Encodes (io : ConfigIo α) (t : α) (x : Setting) : Prop where
  get : io.get x = .ok t
  setIn : ∀ members name, name ∉ members.map Prod.fst →
    io.setIn (.group members) name t = .ok (.group (members ++ [(name, x)]))
  append : ∀ elems, io.append (.list elems) t = .ok (.list (elems ++ [x]))

/-- Every value has an encoding that satisfies `P`. -/
def LawfulOn (io : ConfigIo α) (P : Setting → Prop) : Prop :=
  ∀ t, ∃ x, P x ∧ Encodes io t x

/-- What satisfies `P` cannot be read. -/
def Rejects (io : ConfigIo α) (P : Setting → Prop) : Prop :=
  ∀ x, P x → ∃ e, io.get x = .error e

/-- The setting is of one of the types. -/
def OfType (types : List SettingType) (x : Setting) : Prop := x.getType ∈ types

theorem LawfulOn.imp {io : ConfigIo α} {P Q : Setting → Prop} (h : LawfulOn io P)
    (hPQ : ∀ x, P x → Q x) : LawfulOn io Q := by
  intro t
  obtain ⟨x, hx, henc⟩ := h t
  exact ⟨x, hPQ x hx, henc⟩

/-! ## Scalars -/

theorem primitiveIo_lawful {type : SettingType} {read : Setting → Option α} {write : α → Setting}
    (htype : ∀ t, (write t).getType = type) (hread : ∀ t, read (write t) = some t)
    (hfresh : (fresh type).getType = type) :
    LawfulOn (primitiveIo type read write) (OfType [type]) := by
  intro t
  refine ⟨write t, by simp [OfType, htype], ?_, ?_, ?_⟩
  · simp only [primitiveIo, hread]
  · intro members name hname
    simp only [primitiveIo, setMember_fresh hname, hfresh, if_true]
    rfl
  · intro elems
    simp only [primitiveIo, addElem, hfresh, if_true]
    rfl

theorem boolIo_lawful : LawfulOn boolIo (OfType [.boolean]) :=
  primitiveIo_lawful (fun _ => rfl) (fun _ => rfl) rfl

theorem intIo_lawful : LawfulOn intIo (OfType [.int]) :=
  primitiveIo_lawful (fun _ => rfl) (fun _ => rfl) rfl

theorem doubleIo_lawful : LawfulOn doubleIo (OfType [.float]) :=
  primitiveIo_lawful (fun _ => rfl) (fun _ => rfl) rfl

theorem stringIo_lawful : LawfulOn stringIo (OfType [.string]) :=
  primitiveIo_lawful (fun _ => rfl) (fun _ => rfl) rfl

theorem stringIo_encodes (s : String) : Encodes stringIo s (.string s) := by
  refine ⟨rfl, ?_, ?_⟩
  · intro members name hname
    simp only [stringIo, primitiveIo, setMember_fresh hname]
    rfl
  · intro elems
    rfl

theorem reinterpretIo_lawful {io : ConfigIo β} {cast : α → β} {back : β → α}
    {P : Setting → Prop} (h : LawfulOn io P) (hback : ∀ t, back (cast t) = t) :
    LawfulOn (reinterpretIo io cast back) P := by
  intro t
  obtain ⟨x, hx, henc⟩ := h (cast t)
  refine ⟨x, hx, ?_, henc.setIn, henc.append⟩
  simp only [reinterpretIo, henc.get, Except.map, hback]

theorem uintIo_lawful : LawfulOn uintIo (OfType [.int]) :=
  reinterpretIo_lawful intIo_lawful (by simp)

theorem uint16Io_lawful : LawfulOn uint16Io (OfType [.int]) :=
  reinterpretIo_lawful intIo_lawful (by simp)

theorem stringIo_rejects {types : List SettingType} (h : SettingType.string ∉ types) :
    Rejects stringIo (OfType types) := by
  intro x hx
  cases x with
  | string s => exact absurd hx h
  | _ => exact ⟨_, rfl⟩

theorem boolIo_rejects {types : List SettingType} (h : SettingType.boolean ∉ types) :
    Rejects boolIo (OfType types) := by
  intro x hx
  cases x with
  | boolean b => exact absurd hx h
  | _ => exact ⟨_, rfl⟩

theorem intIo_rejects {types : List SettingType} (h : SettingType.int ∉ types) :
    Rejects intIo (OfType types) := by
  intro x hx
  cases x with
  | int n => exact absurd hx h
  | _ => exact ⟨_, rfl⟩

theorem uintIo_rejects {types : List SettingType} (h : SettingType.int ∉ types) :
    Rejects uintIo (OfType types) := by
  intro x hx
  obtain ⟨e, he⟩ := intIo_rejects h x hx
  exact ⟨e, by simp only [uintIo, reinterpretIo, he, Except.map]⟩

/-! ## Variants and lists -/

theorem variantIo_lawful {first : ConfigIo α} {rest : ConfigIo β} {P Q R : Setting → Prop}
    (hfirst : LawfulOn first P) (hrest : LawfulOn rest Q) (hreject : Rejects first Q)
    (hP : ∀ x, P x → R x) (hQ : ∀ x, Q x → R x) : LawfulOn (variantIo first rest) R := by
  intro t
  cases t with
  | inl a =>
    obtain ⟨x, hx, henc⟩ := hfirst a
    refine ⟨x, hP x hx, ?_, henc.setIn, henc.append⟩
    simp only [variantIo, henc.get]
  | inr b =>
    obtain ⟨x, hx, henc⟩ := hrest b
    obtain ⟨e, he⟩ := hreject x hx
    refine ⟨x, hQ x hx, ?_, henc.setIn, henc.append⟩
    simp only [variantIo, he, henc.get, Except.map]

/-- A variant of alternatives told apart by the types of their settings. -/
theorem variantIo_lawful_types {first : ConfigIo α} {rest : ConfigIo β}
    {types types' : List SettingType} (hfirst : LawfulOn first (OfType types))
    (hrest : LawfulOn rest (OfType types')) (hreject : Rejects first (OfType types')) :
    LawfulOn (variantIo first rest) (OfType (types ++ types')) :=
  variantIo_lawful hfirst hrest hreject (fun _ h => List.mem_append_left _ h)
    fun _ h => List.mem_append_right _ h

theorem foldlM_append_encodes {io : ConfigIo α} {P : Setting → Prop} (h : LawfulOn io P)
    (t : List α) : ∃ xs : List Setting,
      (∀ elems, List.foldlM io.append (.list elems) t = .ok (.list (elems ++ xs))) ∧
      xs.filterMap (fun e => (io.get e).toOption) = t := by
  induction t with
  | nil => exact ⟨[], fun elems => by rw [List.append_nil]; rfl, rfl⟩
  | cons a t ih =>
    obtain ⟨x, -, henc⟩ := h a
    obtain ⟨xs, hset, hget⟩ := ih
    refine ⟨x :: xs, fun elems => ?_, ?_⟩
    · rw [List.foldlM_cons, henc.append]
      show List.foldlM io.append (.list (elems ++ [x])) t = _
      rw [hset, List.append_assoc]
      rfl
    · rw [List.filterMap_cons, henc.get]
      show a :: _ = _
      rw [hget]

theorem listIo_lawful {io : ConfigIo α} {P : Setting → Prop} (h : LawfulOn io P) :
    LawfulOn (listIo io) (OfType [.list]) := by
  intro t
  obtain ⟨xs, hset, hget⟩ := foldlM_append_encodes h t
  have hnew : List.foldlM io.append (fresh .list).clear t = .ok (.list xs) := hset []
  refine ⟨.list xs, List.mem_singleton_self _, ?_, ?_, ?_⟩
  · simp only [listIo, elems, hget]
  · intro members name hname
    simp only [listIo, setMember_fresh hname, hnew]
    rfl
  · intro elems
    simp only [listIo, addElem, hnew]
    rfl

/-! ## Members and groups -/

/-- What the codec of a member writes under a new name, if anything, and that it is read back. -/
def LawfulMember (io : MemberIo α) : Prop :=
  ∀ t, ∃ x : Option Setting,
    (∀ members name, name ∉ members.map Prod.fst →
      io.setIn (.group members) name t = .ok (.group (members ++ x.toList.map fun x => (name, x)))) ∧
    ∀ members name, member? members name = x → io.getIn (.group members) name = .ok t

theorem ConfigIo.member_lawful {io : ConfigIo α} {P : Setting → Prop} (h : LawfulOn io P) :
    LawfulMember io.member := by
  intro t
  obtain ⟨x, -, henc⟩ := h t
  refine ⟨some x, henc.setIn, ?_⟩
  intro members name hm
  simp only [ConfigIo.member, lookup, lookup?, hm]
  exact henc.get

theorem optionalIo_lawful {io : ConfigIo α} {P : Setting → Prop} (h : LawfulOn io P) :
    LawfulMember (optionalIo io) := by
  intro t
  cases t with
  | none =>
    refine ⟨none, ?_, ?_⟩
    · intro members name _
      show Except.ok _ = _
      simp
    · intro members name hm
      simp only [optionalIo, lookup?, hm]
  | some t =>
    obtain ⟨x, -, henc⟩ := h t
    refine ⟨some x, henc.setIn, ?_⟩
    intro members name hm
    simp only [optionalIo, lookup?, hm, henc.get]
    rfl

/-- Two groups have the same members under the names. -/
def AgreeOn (names : List String) (ms ms' : List (String × Setting)) : Prop :=
  ∀ n ∈ names, member? ms' n = member? ms n

theorem AgreeOn.mono {names names' : List String} {ms ms' : List (String × Setting)}
    (h : AgreeOn names ms ms') (hsub : names' ⊆ names) : AgreeOn names' ms ms' :=
  fun n hn => h n (hsub hn)

/-- A member under another name does not matter. -/
theorem AgreeOn.append {names : List String} {ms : List (String × Setting)} {name : String}
    {x : Setting} (h : name ∉ names) : AgreeOn names ms (ms ++ [(name, x)]) := by
  intro n hn
  apply member?_append_of_not_mem
  rw [List.map_cons, List.map_nil, List.mem_singleton]
  intro heq
  subst heq
  exact h hn

/-- The codec writes the members `ms` for `t` into a new group, and reads `t` from every group that
has the same members under the names that the codec looks at. -/
structure EncodesGroup (io : ConfigIo α) (names : List String) (t : α)
    (ms : List (String × Setting)) : Prop where
  keys : ∀ m ∈ ms, m.1 ∈ names
  set : io.set (.group []) t = .ok (.group ms)
  get : ∀ ms', AgreeOn names ms ms' → io.get (.group ms') = .ok t
  setIn : ∀ members name, name ∉ members.map Prod.fst →
    io.setIn (.group members) name t = .ok (.group (members ++ [(name, .group ms)]))
  append : ∀ elems, io.append (.list elems) t = .ok (.list (elems ++ [.group ms]))

/-- Every value has such members, which satisfy `P`. -/
def LawfulGroup (io : ConfigIo α) (names : List String)
    (P : List (String × Setting) → Prop) : Prop :=
  ∀ t, ∃ ms, P ms ∧ EncodesGroup io names t ms

theorem LawfulGroup.lawfulOn {io : ConfigIo α} {names : List String}
    {P : List (String × Setting) → Prop} (h : LawfulGroup io names P) :
    LawfulOn io (OfType [.group]) := by
  intro t
  obtain ⟨ms, -, henc⟩ := h t
  exact ⟨.group ms, List.mem_singleton_self _, henc.get ms (fun _ _ => rfl), henc.setIn,
    henc.append⟩

/-- The fields of one value put into another one after another. -/
def copyMembers (members : List (Member T)) (t acc : T) : T :=
  members.foldl (fun acc m => m.put (m.field t) acc) acc

/-- What the members write together, and that they are read back. -/
theorem groupSet_encodes {members : List (Member T)}
    (hlawful : ∀ m ∈ members, LawfulMember m.io) (hnodup : (members.map Member.name).Nodup)
    (t : T) : ∃ ms : List (String × Setting),
      (∀ e ∈ ms, e.1 ∈ members.map Member.name) ∧
      (∀ pre, (∀ n ∈ members.map Member.name, n ∉ pre.map Prod.fst) →
        groupSet t members (.group pre) = .ok (.group (pre ++ ms))) ∧
      ∀ ms' acc, AgreeOn (members.map Member.name) ms ms' →
        groupGet (.group ms') members acc = .ok (copyMembers members t acc) := by
  induction members with
  | nil =>
    refine ⟨[], by simp, ?_, ?_⟩
    · intro pre _
      rw [List.append_nil]
      rfl
    · intro ms' acc _
      rfl
  | cons m rest ih =>
    rw [List.map_cons, List.nodup_cons] at hnodup
    obtain ⟨ms, hkeys, hset, hget⟩ :=
      ih (fun m' hm' => hlawful m' (List.mem_cons_of_mem m hm')) hnodup.2
    obtain ⟨x, hsetm, hgetm⟩ := hlawful m List.mem_cons_self (m.field t)
    have hentry : ∀ e ∈ x.toList.map (fun x => (m.name, x)), e.1 = m.name := by
      intro e he
      obtain ⟨_, _, rfl⟩ := List.mem_map.mp he
      rfl
    have hfirst : member? (x.toList.map (fun x => (m.name, x)) ++ ms) m.name = x := by
      cases x with
      | none =>
        apply member?_eq_none.mpr
        intro hmem
        obtain ⟨e, he, heq⟩ := List.mem_map.mp hmem
        exact hnodup.1 (heq ▸ hkeys e he)
      | some x => exact member?_cons_self
    have hothers : ∀ n ∈ rest.map Member.name,
        member? (x.toList.map (fun x => (m.name, x)) ++ ms) n = member? ms n := by
      intro n hn
      apply member?_append
      intro hmem
      obtain ⟨e, he, heq⟩ := List.mem_map.mp hmem
      rw [hentry e he] at heq
      exact hnodup.1 (heq ▸ hn)
    refine ⟨x.toList.map (fun x => (m.name, x)) ++ ms, ?_, ?_, ?_⟩
    · intro e he
      rcases List.mem_append.mp he with h | h
      · rw [hentry e h]
        exact List.mem_cons_self
      · exact List.mem_cons_of_mem _ (hkeys e h)
    · intro pre hpre
      rw [groupSet, hsetm pre m.name (hpre m.name List.mem_cons_self)]
      show groupSet t rest (.group _) = _
      rw [hset, List.append_assoc]
      intro n hn hmem
      rw [List.map_append, List.mem_append] at hmem
      rcases hmem with hmem | hmem
      · exact hpre n (List.mem_cons_of_mem _ hn) hmem
      · obtain ⟨e, he, heq⟩ := List.mem_map.mp hmem
        rw [hentry e he] at heq
        exact hnodup.1 (heq ▸ hn)
    · intro ms' acc hagree
      have hread : m.io.getIn (.group ms') m.name = .ok (m.field t) := by
        apply hgetm
        rw [hagree m.name List.mem_cons_self, hfirst]
      simp only [groupGet, hread]
      apply hget
      intro n hn
      rw [hagree n (List.mem_cons_of_mem _ hn), hothers n hn]

theorem toLower_val (c : Char) : c.toLower.val =
    if 'A'.val ≤ c.val ∧ c.val ≤ 'Z'.val then c.val + ('a'.val - 'A'.val) else c.val := by
  delta Char.toLower
  split
  · rfl
  · rfl

theorem toLower_toLower (c : Char) : c.toLower.toLower = c.toLower := by
  have hval : c.toLower.val.toNat < 'A'.val.toNat ∨ 'Z'.val.toNat < c.toLower.val.toNat := by
    rw [toLower_val]
    split <;> grind [UInt32.le_iff_toNat_le, UInt32.toNat_add]
  apply Char.ext
  rw [toLower_val c.toLower, if_neg]
  rw [UInt32.le_iff_toNat_le, UInt32.le_iff_toNat_le]
  omega

theorem normalizeSignature_idem (data : String) :
    normalizeSignature (normalizeSignature data) = normalizeSignature data := by
  have hcomp : Char.toLower ∘ Char.toLower = Char.toLower := funext toLower_toLower
  simp [normalizeSignature, hcomp]

namespace Group

/-- The names that a group looks at. -/
def names (g : Group T) : List String :=
  (g.sign.map Prod.fst).toList ++ g.members.map Member.name

/-- The signature that a group writes is there. -/
def Signed (g : Group T) (ms : List (String × Setting)) : Prop :=
  ∀ field data, g.sign = some (field, data) →
    member? ms field = some (.string (normalizeSignature data))

theorem encodesGroup_of_save {g : Group T} {t : T} {ms : List (String × Setting)}
    (hkeys : ∀ m ∈ ms, m.1 ∈ g.names) (hsave : g.save (.group []) t = .ok (.group ms))
    (hload : ∀ ms', AgreeOn g.names ms ms' → g.load (.group ms') = .ok t) :
    EncodesGroup g.io g.names t ms := by
  refine ⟨hkeys, hsave, hload, ?_, ?_⟩
  · intro members name hname
    simp only [io, setMember_fresh hname, fresh, hsave]
    rfl
  · intro elems
    simp only [io, addElem, fresh, hsave]
    rfl

theorem lawful {g : Group T} (hlawful : g.members.Forall fun m => LawfulMember m.io)
    (hnodup : g.names.Nodup) (hcopy : ∀ t, copyMembers g.members t g.init = t) :
    LawfulGroup g.io g.names g.Signed := by
  intro t
  have hnodup' : (g.members.map Member.name).Nodup := hnodup.of_append_right
  obtain ⟨ms, hkeys, hset, hget⟩ :=
    groupSet_encodes (List.forall_iff_forall_mem.mp hlawful) hnodup' t
  cases hsign : g.sign with
  | none =>
    have hnames : g.names = g.members.map Member.name := by simp [names, hsign]
    refine ⟨ms, fun field data h => by simp [hsign] at h, encodesGroup_of_save ?_ ?_ ?_⟩
    · rw [hnames]
      exact hkeys
    · rw [save, hsign]
      exact hset [] (by simp)
    · intro ms' hagree
      rw [hnames] at hagree
      rw [load, hsign]
      show groupGet _ _ _ = _
      rw [hget ms' g.init hagree, hcopy]
  | some sign =>
    obtain ⟨field, data⟩ := sign
    have hnames : g.names = field :: g.members.map Member.name := by simp [names, hsign]
    rw [hnames, List.nodup_cons] at hnodup
    have hothers : ∀ n ∈ g.members.map Member.name,
        member? ((field, .string (normalizeSignature data)) :: ms) n = member? ms n := by
      intro n hn
      exact member?_cons_ne fun heq => hnodup.1 (heq ▸ hn)
    refine ⟨(field, .string (normalizeSignature data)) :: ms, ?_, encodesGroup_of_save ?_ ?_ ?_⟩
    · intro field' data' h
      cases hsign.symm.trans h
      exact member?_cons_self
    · intro m hm
      rw [hnames]
      rcases List.mem_cons.mp hm with rfl | hm
      · exact List.mem_cons_self
      · exact List.mem_cons_of_mem _ (hkeys m hm)
    · rw [save, hsign]
      simp only [(stringIo_encodes _).setIn [] field (by simp), bind, Except.bind]
      apply hset
      intro n hn hmem
      rw [List.nil_append, List.map_cons, List.map_nil, List.mem_singleton] at hmem
      subst hmem
      exact hnodup.1 hn
    · intro ms' hagree
      rw [hnames] at hagree
      have hfield : member? ms' field = some (.string (normalizeSignature data)) := by
        rw [hagree field List.mem_cons_self, member?_cons_self]
      rw [load, hsign]
      simp only [ConfigIo.member, lookup, lookup?, hfield, bind, Except.bind,
        (stringIo_encodes _).get, normalizeSignature_idem, ne_eq, not_true_eq_false, if_false]
      rw [hget, hcopy]
      intro n hn
      rw [hagree n (List.mem_cons_of_mem _ hn), hothers n hn]

end Group

/-! ## Variants of groups -/

/-- What satisfies `P` under the names cannot be read. -/
def RejectsGroup (io : ConfigIo α) (names : List String)
    (P : List (String × Setting) → Prop) : Prop :=
  ∀ ms ms', P ms → AgreeOn names ms ms' → ∃ e, io.get (.group ms') = .error e

theorem variantIo_lawfulGroup {first : ConfigIo α} {rest : ConfigIo β} {names names' : List String}
    {P Q R : List (String × Setting) → Prop} (hfirst : LawfulGroup first names P)
    (hrest : LawfulGroup rest names' Q) (hreject : RejectsGroup first (names ++ names') Q)
    (hP : ∀ ms, P ms → R ms) (hQ : ∀ ms, Q ms → R ms) :
    LawfulGroup (variantIo first rest) (names ++ names') R := by
  intro t
  cases t with
  | inl a =>
    obtain ⟨ms, hms, henc⟩ := hfirst a
    refine ⟨ms, hP ms hms, fun m hm => List.mem_append_left _ (henc.keys m hm), henc.set, ?_,
      henc.setIn, henc.append⟩
    intro ms' hagree
    simp only [variantIo, henc.get ms' (hagree.mono (List.subset_append_left _ _))]
  | inr b =>
    obtain ⟨ms, hms, henc⟩ := hrest b
    refine ⟨ms, hQ ms hms, fun m hm => List.mem_append_right _ (henc.keys m hm), henc.set, ?_,
      henc.setIn, henc.append⟩
    intro ms' hagree
    obtain ⟨e, he⟩ := hreject ms ms' hms hagree
    simp only [variantIo, he, henc.get ms' (hagree.mono (List.subset_append_right _ _)),
      Except.map]

theorem reinterpretIo_lawfulGroup {io : ConfigIo β} {cast : α → β} {back : β → α}
    {names : List String} {P : List (String × Setting) → Prop} (h : LawfulGroup io names P)
    (hback : ∀ t, back (cast t) = t) : LawfulGroup (reinterpretIo io cast back) names P := by
  intro t
  obtain ⟨ms, hms, henc⟩ := h (cast t)
  refine ⟨ms, hms, henc.keys, henc.set, ?_, henc.setIn, henc.append⟩
  intro ms' hagree
  simp only [reinterpretIo, henc.get ms' hagree, Except.map, hback]

/-- The member `field` is one of the strings. -/
def Tagged (field : String) (tags : List String) (ms : List (String × Setting)) : Prop :=
  ∃ tag ∈ tags, member? ms field = some (.string tag)

theorem Group.tagged {g : Group T} {field data : String} (hsign : g.sign = some (field, data))
    (hlawful : LawfulGroup g.io g.names g.Signed) :
    LawfulGroup g.io g.names (Tagged field [normalizeSignature data]) := by
  intro t
  obtain ⟨ms, hms, henc⟩ := hlawful t
  exact ⟨ms, ⟨_, List.mem_singleton_self _, hms field data hsign⟩, henc⟩

/-- A signed group rejects the signatures of others. -/
theorem Group.rejects_tagged {g : Group T} {field data : String} {names tags : List String}
    (hsign : g.sign = some (field, data)) (hfield : field ∈ names)
    (htags : ∀ tag ∈ tags, normalizeSignature tag ≠ normalizeSignature data) :
    RejectsGroup g.io names (Tagged field tags) := by
  intro ms ms' htagged hagree
  obtain ⟨tag, htag, hm⟩ := htagged
  have hread : stringIo.member.getIn (.group ms') field = .ok tag := by
    simp only [ConfigIo.member, lookup, lookup?, hagree field hfield, hm]
    rfl
  refine ⟨.type, ?_⟩
  show g.load _ = _
  rw [load, hsign]
  simp only [hread, bind, Except.bind]
  rw [if_pos (htags tag htag)]

/-- The codec of a variant of signed groups, one alternative at a time. -/
theorem variantIo_lawful_signed {g : Group T} {rest : ConfigIo β} {field data : String}
    {names tags : List String} (hsign : g.sign = some (field, data))
    (hlawful : LawfulGroup g.io g.names g.Signed)
    (hrest : LawfulGroup rest names (Tagged field tags))
    (htags : ∀ tag ∈ tags, normalizeSignature tag ≠ normalizeSignature data) :
    LawfulGroup (variantIo g.io rest) (g.names ++ names)
      (Tagged field (normalizeSignature data :: tags)) := by
  have hfield : field ∈ g.names ++ names := by
    apply List.mem_append_left
    simp [Group.names, hsign]
  refine variantIo_lawfulGroup hlawful hrest (Group.rejects_tagged hsign hfield htags) ?_ ?_
  · intro ms hms
    exact ⟨_, List.mem_cons_self, hms field data hsign⟩
  · intro ms hms
    obtain ⟨tag, htag, hm⟩ := hms
    exact ⟨tag, List.mem_cons_of_mem _ htag, hm⟩

/-! ## Maps -/

variable {less : KeyLess κ}

theorem foldlM_entries_encodes {keyName : String} {key : ConfigIo κ} {value : ConfigIo β}
    {names : List String} {P : Setting → Prop} {Q : List (String × Setting) → Prop}
    (hkey : LawfulOn key P) (hvalue : LawfulGroup value names Q) (hname : keyName ∉ names)
    (t : List (κ × β)) : ∃ xs : List Setting,
      (∀ elems, t.foldlM (setEntry keyName key value) (.list elems) =
        .ok (.list (elems ++ xs))) ∧
      xs.filterMap (fun e => (getEntry keyName key value e).toOption) = t := by
  induction t with
  | nil => exact ⟨[], fun elems => by rw [List.append_nil]; rfl, rfl⟩
  | cons a t ih =>
    obtain ⟨x, -, henck⟩ := hkey a.1
    obtain ⟨ms, -, hencv⟩ := hvalue a.2
    obtain ⟨xs, hset, hget⟩ := ih
    have hfresh : keyName ∉ ms.map Prod.fst := by
      intro hmem
      obtain ⟨e, he, heq⟩ := List.mem_map.mp hmem
      exact hname (heq ▸ hencv.keys e he)
    have hentry : getEntry keyName key value (.group (ms ++ [(keyName, x)])) = .ok a := by
      simp only [getEntry, lookup, lookup?, member?_append hfresh, member?_cons_self, bind,
        Except.bind, henck.get, hencv.get _ (AgreeOn.append hname)]
      rfl
    refine ⟨.group (ms ++ [(keyName, x)]) :: xs, fun elems => ?_, ?_⟩
    · have hfirst : setEntry keyName key value (.list elems) a =
          .ok (.list (elems ++ [.group (ms ++ [(keyName, x)])])) := by
        simp only [setEntry, addElem, fresh, hencv.set, bind, Except.bind,
          henck.setIn ms keyName hfresh]
        rfl
      rw [List.foldlM_cons, hfirst]
      show t.foldlM (setEntry keyName key value) (.list _) = _
      rw [hset, List.append_assoc]
      rfl
    · rw [List.filterMap_cons, hentry]
      show a :: _ = _
      rw [hget]

theorem mapIo_lawful {keyName : String} {key : ConfigIo κ} {value : ConfigIo β}
    {names : List String} {P : Setting → Prop} {Q : List (String × Setting) → Prop}
    (hkey : LawfulOn key P) (hvalue : LawfulGroup value names Q) (hname : keyName ∉ names) :
    LawfulOn (mapIo keyName key value : ConfigIo (SortedMap κ β less)) (OfType [.list]) := by
  intro t
  obtain ⟨xs, hset, hget⟩ := foldlM_entries_encodes hkey hvalue hname t.entries
  have hnew := hset []
  refine ⟨.list xs, List.mem_singleton_self _, ?_, ?_, ?_⟩
  · simp only [mapIo, elems, hget, SortedMap.foldl_emplace]
  · intro members name hfresh
    simp only [mapIo, setMember_fresh hfresh, fresh, clear, hnew]
    rfl
  · intro elems
    simp only [mapIo, addElem, fresh, clear, hnew]
    rfl

end Logid.Config
