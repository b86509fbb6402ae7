import Mathlib.Data.List.Basic
import Mathlib.Data.Rat.Defs

/-!
# Trees of typed settings

The part of libconfig that the configuration codecs use: a tree of typed settings, in which a group
has named members, and a list or an array has elements by position. An array holds scalars of one
type only. A C++ reference into the tree is modelled by returning the changed tree; a `double` is
an exact rational.
-/

namespace Logid.Config

/-- `libconfig::Setting::Type` -/
inductive SettingType where
  | int | int64 | float | string | boolean | group | array | list
  deriving DecidableEq, Repr

/-- `libconfig::Setting` -/
inductive Setting where
  | int (value : Int32)
  | int64 (value : Int64)
  | float (value : Rat)
  | string (value : String)
  | boolean (value : Bool)
  | group (members : List (String × Setting))
  | array (elems : List Setting)
  | list (elems : List Setting)
  deriving Inhabited

/-- The subclasses of `libconfig::SettingException` that the calls below throw. -/
inductive SettingException where
  | type | notFound | name
  deriving DecidableEq, Repr

namespace Setting

def getType : Setting → SettingType
  | .int _ => .int
  | .int64 _ => .int64
  | .float _ => .float
  | .string _ => .string
  | .boolean _ => .boolean
  | .group _ => .group
  | .array _ => .array
  | .list _ => .list

def isArray (s : Setting) : Bool := s.getType = .array

def isList (s : Setting) : Bool := s.getType = .list

/-- What `add` makes of each type. -/
def fresh : SettingType → Setting
  | .int => .int 0
  | .int64 => .int64 0
  | .float => .float 0
  | .string => .string ""
  | .boolean => .boolean false
  | .group => .group []
  | .array => .array []
  | .list => .list []

/-- The value of the first member of that name; a libconfig group has no two. -/
def member? (members : List (String × Setting)) (name : String) : Option Setting :=
  (members.find? fun m => m.1 = name).map Prod.snd

/-- Only a group has members. -/
def lookup? : Setting → String → Option Setting
  | .group members, name => member? members name
  | _, _ => none

def lookup (s : Setting) (name : String) : Except SettingException Setting :=
  match s.lookup? name with
  | some child => .ok child
  | none => .error .notFound

/-- `add(name, type)` -/
def add (s : Setting) (name : String) (type : SettingType) : Except SettingException Setting :=
  match s with
  | .group members =>
    if (member? members name).isSome then .error .name
    else .ok (.group (members ++ [(name, fresh type)]))
  | _ => .error .type

/-- `remove(name)` -/
def remove (s : Setting) (name : String) : Except SettingException Setting :=
  match s with
  | .group members =>
    if (member? members name).isSome then .ok (.group (members.filter fun m => m.1 ≠ name))
    else .error .notFound
  | _ => .error .type

/-- The member of that name after `f` has worked on the reference to it. -/
def modify (s : Setting) (name : String) (f : Setting → Except SettingException Setting) :
    Except SettingException Setting :=
  match s with
  | .group members => do
    let child ← s.lookup name
    let child' ← f child
    return .group (members.map fun m => if m.1 = name then (name, child') else m)
  | _ => .error .notFound

/-- The children of a setting, in order; `getLength` is their number. -/
def elems : Setting → List Setting
  | .group members => members.map Prod.snd
  | .array elems => elems
  | .list elems => elems
  | _ => []

def isScalar : SettingType → Bool
  | .group | .array | .list => false
  | _ => true

/-- `add(type)`: an array takes one type of scalar. The new child is worked on by `f`. -/
def addElem (s : Setting) (type : SettingType) (f : Setting → Except SettingException Setting) :
    Except SettingException Setting :=
  match s with
  | .list elems => do
    let child ← f (fresh type)
    return .list (elems ++ [child])
  | .array elems =>
    match elems.head? with
    | none => if isScalar type then (f (fresh type)).map fun child => .array [child]
      else .error .type
    | some first => if first.getType = type then
        (f (fresh type)).map fun child => .array (elems ++ [child])
      else .error .type
  | _ => .error .type

/-- `while (setting.getLength() != 0) setting.remove(0)` -/
def clear : Setting → Setting
  | .group _ => .group []
  | .array _ => .array []
  | .list _ => .list []
  | s => s

/-- The code common to the `set` of a member: make sure that the member is there and of a kind
that `keep` accepts, putting a new one of the given type in its place otherwise, then set it. -/
def setMember (parent : Setting) (name : String) (type : SettingType) (keep : Setting → Bool)
    (f : Setting → Except SettingException Setting) : Except SettingException Setting := do
  let parent' ←
    match parent.lookup? name with
    | none => parent.add name type
    | some child =>
      if keep child then pure parent
      else do
        let removed ← parent.remove name
        removed.add name type
  parent'.modify name f

theorem member?_eq_none {members : List (String × Setting)} {name : String} :
    member? members name = none ↔ name ∉ members.map Prod.fst := by
  rw [member?, Option.map_eq_none_iff, List.find?_eq_none, List.mem_map]
  constructor
  · intro h hex
    obtain ⟨m, hm, heq⟩ := hex
    exact h m hm (decide_eq_true heq)
  · intro h m hm heq
    exact h ⟨m, hm, of_decide_eq_true heq⟩

theorem member?_append {l₁ l₂ : List (String × Setting)} {name : String}
    (h : name ∉ l₁.map Prod.fst) : member? (l₁ ++ l₂) name = member? l₂ name := by
  rw [member?, List.find?_append]
  rw [← member?_eq_none, member?, Option.map_eq_none_iff] at h
  rw [h]
  rfl

theorem member?_append_of_not_mem {l₁ l₂ : List (String × Setting)} {name : String}
    (h : name ∉ l₂.map Prod.fst) : member? (l₁ ++ l₂) name = member? l₁ name := by
  rw [member?, List.find?_append]
  rw [← member?_eq_none, member?, Option.map_eq_none_iff] at h
  rw [h, Option.or_none]
  rfl

@[simp] theorem member?_cons_self {name : String} {child : Setting}
    {l : List (String × Setting)} : member? ((name, child) :: l) name = some child := by
  simp [member?]

theorem member?_cons_ne {name other : String} {child : Setting} {l : List (String × Setting)}
    (h : other ≠ name) : member? ((other, child) :: l) name = member? l name := by
  simp [member?, h]

theorem not_mem_filter {members : List (String × Setting)} {name : String} :
    name ∉ (members.filter fun m => m.1 ≠ name).map Prod.fst := by
  simp

theorem filter_of_not_mem {members : List (String × Setting)} {name : String}
    (h : name ∉ members.map Prod.fst) : (members.filter fun m => m.1 ≠ name) = members := by
  rw [List.filter_eq_self]
  intro m hm
  simp only [decide_eq_true_eq]
  exact fun heq => h (heq ▸ List.mem_map_of_mem hm)

theorem add_of_not_mem {members : List (String × Setting)} {name : String}
    (h : name ∉ members.map Prod.fst) (type : SettingType) :
    (Setting.group members).add name type = .ok (.group (members ++ [(name, fresh type)])) := by
  rw [add, member?_eq_none.mpr h]
  rfl

theorem modify_last {members : List (String × Setting)} {name : String}
    (h : name ∉ members.map Prod.fst) (child : Setting)
    (f : Setting → Except SettingException Setting) :
    (Setting.group (members ++ [(name, child)])).modify name f =
      (f child).map fun child' => .group (members ++ [(name, child')]) := by
  have hmap : ∀ child', (members ++ [(name, child)]).map
      (fun m => if m.1 = name then (name, child') else m) = members ++ [(name, child')] := by
    intro child'
    rw [List.map_append, List.map_congr_left (g := id) (l := members), List.map_id]
    · simp
    · intro m hm
      have hne : m.1 ≠ name := fun heq => h (heq ▸ List.mem_map_of_mem hm)
      simp [hne]
  have hlookup : (Setting.group (members ++ [(name, child)])).lookup name = .ok child := by
    rw [lookup, lookup?, member?_append h, member?_cons_self]
  rw [modify, hlookup]
  cases hf : f child with
  | error e =>
    simp only [bind, Except.bind, hf]
    rfl
  | ok child' =>
    simp only [bind, Except.bind, hf, hmap]
    rfl

/-- Where the member is not there or is put aside, a new one is set at the end. -/
theorem setMember_append {members : List (String × Setting)} {name : String} {type : SettingType}
    {keep : Setting → Bool} {f : Setting → Except SettingException Setting}
    (hkeep : ∀ child, member? members name = some child → keep child = false) :
    setMember (.group members) name type keep f = (f (fresh type)).map fun child =>
      .group ((members.filter fun m => m.1 ≠ name) ++ [(name, child)]) := by
  rw [setMember, lookup?]
  cases hm : member? members name with
  | none =>
    have hnot : name ∉ members.map Prod.fst := member?_eq_none.mp hm
    simp only [add_of_not_mem hnot, filter_of_not_mem hnot, bind, Except.bind]
    exact modify_last hnot _ f
  | some child =>
    have hremove : (Setting.group members).remove name =
        .ok (.group (members.filter fun m => m.1 ≠ name)) := by
      rw [remove, hm]
      rfl
    simp only [hkeep child hm, Bool.false_eq_true, if_false, hremove, bind, Except.bind,
      add_of_not_mem not_mem_filter]
    exact modify_last not_mem_filter _ f

/-- The special case of a name that the group does not have. -/
theorem setMember_fresh {members : List (String × Setting)} {name : String} {type : SettingType}
    {keep : Setting → Bool} {f : Setting → Except SettingException Setting}
    (h : name ∉ members.map Prod.fst) :
    setMember (.group members) name type keep f =
      (f (fresh type)).map fun child => .group (members ++ [(name, child)]) := by
  rw [setMember_append, filter_of_not_mem h]
  intro child hm
  rw [member?_eq_none.mpr h] at hm
  cases hm

theorem member?_filter_ne {members : List (String × Setting)} {name other : String}
    (h : other ≠ name) :
    member? (members.filter fun m => m.1 ≠ name) other = member? members other := by
  induction members with
  | nil => rfl
  | cons m rest ih =>
    obtain ⟨n, child⟩ := m
    by_cases hn : n = name
    · have hne : n ≠ other := by
        rw [hn]
        exact h.symm
      rw [List.filter_cons_of_neg (by simp [hn]), ih, member?_cons_ne hne]
    · rw [List.filter_cons_of_pos (by simp [hn])]
      by_cases ho : n = other
      · rw [ho, member?_cons_self, member?_cons_self]
      · rw [member?_cons_ne ho, member?_cons_ne ho, ih]

theorem member?_replace_ne {members : List (String × Setting)} {name other : String}
    {child : Setting} (h : other ≠ name) :
    member? (members.map fun m => if m.1 = name then (name, child) else m) other =
      member? members other := by
  induction members with
  | nil => rfl
  | cons m rest ih =>
    obtain ⟨n, child'⟩ := m
    rw [List.map_cons]
    by_cases hn : n = name
    · have hne : n ≠ other := by
        rw [hn]
        exact h.symm
      rw [if_pos hn, member?_cons_ne h.symm, member?_cons_ne hne, ih]
    · rw [if_neg hn]
      by_cases ho : n = other
      · rw [ho, member?_cons_self, member?_cons_self]
      · rw [member?_cons_ne ho, member?_cons_ne ho, ih]

theorem member?_replace_self {members : List (String × Setting)} {name : String}
    {child child' : Setting} (h : member? members name = some child) :
    member? (members.map fun m => if m.1 = name then (name, child') else m) name =
      some child' := by
  induction members with
  | nil => cases h
  | cons m rest ih =>
    obtain ⟨n, c⟩ := m
    rw [List.map_cons]
    by_cases hn : n = name
    · rw [if_pos hn, member?_cons_self]
    · rw [member?_cons_ne hn] at h
      rw [if_neg hn, member?_cons_ne hn, ih h]

/-- A member that is there and is kept is worked on in its place. -/
theorem setMember_keep {members : List (String × Setting)} {name : String} {type : SettingType}
    {keep : Setting → Bool} {f : Setting → Except SettingException Setting} {child : Setting}
    (hm : member? members name = some child) (hkeep : keep child = true) :
    setMember (.group members) name type keep f = (f child).map fun child' =>
      .group (members.map fun m => if m.1 = name then (name, child') else m) := by
  simp only [setMember, lookup?, hm, hkeep, if_true, modify, lookup, bind, Except.bind, pure,
    Except.pure]
  cases f child <;> rfl

/-- Either the member is kept and worked on in its place, or a new one is set at the end. -/
theorem setMember_cases (members : List (String × Setting)) (name : String)
    (keep : Setting → Bool) :
    (∃ child, member? members name = some child ∧ keep child = true) ∨
      ∀ child, member? members name = some child → keep child = false := by
  by_cases hkeep : ∃ child, member? members name = some child ∧ keep child = true
  · exact .inl hkeep
  · refine .inr fun child hm => ?_
    rw [Bool.eq_false_iff]
    exact fun hk => hkeep ⟨child, hm, hk⟩

theorem setMember_error {members : List (String × Setting)} {name : String} {type : SettingType}
    {keep : Setting → Bool} {f : Setting → Except SettingException Setting}
    {e : SettingException} (hkept : ∀ child, keep child = true → f child = .error e)
    (hfresh : f (fresh type) = .error e) :
    setMember (.group members) name type keep f = .error e := by
  rcases setMember_cases members name keep with hkeep | hkeep
  · obtain ⟨child, hm, hk⟩ := hkeep
    rw [setMember_keep hm hk, hkept child hk]
    rfl
  · rw [setMember_append hkeep, hfresh]
    rfl

theorem setMember_ok {members : List (String × Setting)} {name : String} {type : SettingType}
    {keep : Setting → Bool} {f : Setting → Except SettingException Setting}
    {P : Setting → Prop} (hkept : ∀ child, keep child = true → ∃ x, f child = .ok x ∧ P x)
    (hfresh : ∃ x, f (fresh type) = .ok x ∧ P x) :
    ∃ members' x, setMember (.group members) name type keep f = .ok (.group members') ∧
      member? members' name = some x ∧ P x := by
  rcases setMember_cases members name keep with hkeep | hkeep
  · obtain ⟨child, hm, hk⟩ := hkeep
    obtain ⟨x, hx, hP⟩ := hkept child hk
    rw [setMember_keep hm hk, hx]
    exact ⟨_, x, rfl, member?_replace_self hm, hP⟩
  · obtain ⟨x, hx, hP⟩ := hfresh
    rw [setMember_append hkeep, hx]
    refine ⟨_, x, rfl, ?_, hP⟩
    rw [member?_append not_mem_filter, member?_cons_self]

/-- Setting a member leaves the others as they are. -/
theorem setMember_frame {members : List (String × Setting)} {name other : String}
    {type : SettingType} {keep : Setting → Bool} {f : Setting → Except SettingException Setting}
    {s : Setting} (h : setMember (.group members) name type keep f = .ok s)
    (hother : other ≠ name) :
    ∃ members', s = .group members' ∧ member? members' other = member? members other := by
  rcases setMember_cases members name keep with hkeep | hkeep
  · obtain ⟨child, hm, hk⟩ := hkeep
    rw [setMember_keep hm hk] at h
    cases hf : f child with
    | error e =>
      rw [hf] at h
      cases h
    | ok child' =>
      rw [hf] at h
      cases h
      exact ⟨_, rfl, member?_replace_ne hother⟩
  · rw [setMember_append hkeep] at h
    cases hf : f (fresh type) with
    | error e =>
      rw [hf] at h
      cases h
    | ok child' =>
      rw [hf] at h
      cases h
      refine ⟨_, rfl, ?_⟩
      rw [member?_append_of_not_mem (by simpa using hother), member?_filter_ne hother]

end Setting

end Logid.Config
