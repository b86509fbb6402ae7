import Logid.Misc.SortedMap
import Logid.Config.Setting

/-!
# The codecs between values and settings

Rendering of the specialisations of `config_io` (`config/types.h`) and of `group_io`, `group` and
`signed_group` (`config/group.h`). Each specialisation is a function from the codecs of its parts to
the codec of the whole. A pointer to member of a group is a pair of a projection and an update.
-/

namespace Logid.Config

/-- The five functions of `config_io<T>` but for the two of `get`, of which the second reads the
member that it looks up. -/
structure ConfigIo (α : Type) where
  get : Setting → Except SettingException α
  set : Setting → α → Except SettingException Setting
  /-- `set(parent, name, t)` -/
  setIn : Setting → String → α → Except SettingException Setting
  append : Setting → α → Except SettingException Setting

/-- `get(parent, name)` and `set(parent, name, t)`, all that a member of a group needs. -/
structure MemberIo (α : Type) where
  getIn : Setting → String → Except SettingException α
  setIn : Setting → String → α → Except SettingException Setting

variable {α β κ : Type}

def ConfigIo.member (io : ConfigIo α) : MemberIo α where
  getIn parent name := do io.get (← parent.lookup name)
  setIn := io.setIn

/-- `primitive_io<T, TypeEnum>` -/
def primitiveIo (type : SettingType) (read : Setting → Option α) (write : α → Setting) :
    ConfigIo α :=
  let set s t := if s.getType = type then .ok (write t) else .error .type
  { get := fun s =>
      match read s with
      | some t => .ok t
      | none => .error .type
    set := set
    setIn := fun parent name t =>
      parent.setMember name type (fun child => child.getType = type) fun s => set s t
    append := fun list t => list.addElem type fun s => set s t }

/-- `reinterpret_io<T, O, TypeEnum>`: the codec of `O` behind two casts. -/
def reinterpretIo (io : ConfigIo β) (cast : α → β) (back : β → α) : ConfigIo α where
  get s := (io.get s).map back
  set s t := io.set s (cast t)
  setIn parent name t := io.setIn parent name (cast t)
  append list t := io.append list (cast t)

def boolIo : ConfigIo Bool :=
  primitiveIo .boolean (fun | .boolean b => some b | _ => none) .boolean

def intIo : ConfigIo Int32 := primitiveIo .int (fun | .int n => some n | _ => none) .int

def uintIo : ConfigIo UInt32 := reinterpretIo intIo UInt32.toInt32 Int32.toUInt32

def uint16Io : ConfigIo UInt16 :=
  reinterpretIo intIo (fun t => t.toUInt32.toInt32) fun n => n.toUInt32.toUInt16

def doubleIo : ConfigIo Rat := primitiveIo .float (fun | .float x => some x | _ => none) .float

def stringIo : ConfigIo String :=
  primitiveIo .string (fun | .string s => some s | _ => none) .string

/-- `config_io<std::variant<First, Rest...>>`: a value is read as the first alternative that can be
read. -/
def variantIo (first : ConfigIo α) (rest : ConfigIo β) : ConfigIo (α ⊕ β) where
  get s :=
    match first.get s with
    | .ok t => .ok (.inl t)
    | .error _ => (rest.get s).map .inr
  set s t := t.elim (first.set s) (rest.set s)
  setIn parent name t := t.elim (first.setIn parent name) (rest.setIn parent name)
  append list t := t.elim (first.append list) (rest.append list)

/-- `config_io<std::list<T>>`: elements that cannot be read are left out. -/
def listIo (io : ConfigIo α) : ConfigIo (List α) :=
  let set (s : Setting) t := List.foldlM io.append s.clear t
  { get := fun s => .ok (s.elems.filterMap fun e => (io.get e).toOption)
    set := set
    setIn := fun parent name t => parent.setMember name .list Setting.isList fun s => set s t
    append := fun list t => list.addElem .list fun s => set s t }

/-- `config_io<std::set<T>>` -/
def setIo {less : KeyLess α} (io : ConfigIo α) : ConfigIo (SortedMap α Unit less) :=
  let set (s : Setting) (t : SortedMap α Unit less) :=
    t.entries.foldlM (fun s x => s.addElem .group fun e => io.set e x.1) s.clear
  { get := fun s => .ok <|
      (s.elems.filterMap fun e => (io.get e).toOption).foldl (fun t x => t.emplace x ()) .empty
    set := set
    setIn := fun parent name t => parent.setMember name .list Setting.isArray fun s => set s t
    append := fun list t => list.addElem .list fun s => set s t }

/-- One entry of `config_io<map<K, V, KeyName>>::get`. -/
def getEntry (keyName : String) (key : ConfigIo κ) (value : ConfigIo β) (s : Setting) :
    Except SettingException (κ × β) := do
  let k ← key.get (← s.lookup keyName)
  let v ← value.get s
  return (k, v)

/-- One entry of `config_io<map<K, V, KeyName>>::set`: the value into a new group, then the key. -/
def setEntry (keyName : String) (key : ConfigIo κ) (value : ConfigIo β) (s : Setting)
    (x : κ × β) : Except SettingException Setting :=
  s.addElem .group fun e => do key.setIn (← value.set e x.2) keyName x.1

/-- `config_io<map<K, V, KeyName>>` -/
def mapIo {less : KeyLess κ} (keyName : String) (key : ConfigIo κ) (value : ConfigIo β) :
    ConfigIo (SortedMap κ β less) :=
  let set (s : Setting) (t : SortedMap κ β less) :=
    t.entries.foldlM (setEntry keyName key value) s.clear
  { get := fun s => .ok <|
      (s.elems.filterMap fun e => (getEntry keyName key value e).toOption).foldl
        (fun t x => t.emplace x.1 x.2) .empty
    set := set
    setIn := fun parent name t => parent.setMember name .list Setting.isArray fun s => set s t
    append := fun list t => list.addElem .list fun s => set s t }

/-- `config_io<std::optional<T>>`: a member that is missing or cannot be read is no value; no value
is not written, and leaves a member that is there. -/
def optionalIo (io : ConfigIo α) : MemberIo (Option α) where
  getIn parent name :=
    match parent.lookup? name with
    | some child => .ok (io.get child).toOption
    | none => .ok none
  setIn parent name t :=
    match t with
    | some t => io.setIn parent name t
    | none => .ok parent

/-- A member of the group `T` with its name. -/
structure Member (T : Type) : Type 1 where
  {A : Type}
  name : String
  io : MemberIo A
  field : T → A
  put : A → T → T

variable {T : Type}

/-- `group_io<T, M...>::get`: whatever goes wrong in a member is an error of type. -/
def groupGet (s : Setting) : List (Member T) → T → Except SettingException T
  | [], t => .ok t
  | m :: rest, t =>
    match m.io.getIn s m.name with
    | .ok x => groupGet s rest (m.put x t)
    | .error _ => .error .type

/-- `group_io<T, M...>::set` -/
def groupSet (t : T) : List (Member T) → Setting → Except SettingException Setting
  | [], s => .ok s
  | m :: rest, s => do groupSet t rest (← m.io.setIn s m.name (m.field t))

/-- A class derived from `group` or, with a signature, from `signed_group<std::string>`. -/
structure Group (T : Type) : Type 1 where
  /-- `T{}` -/
  init : T
  /-- The arguments `sign_name` and `sign_data` of `signed_group`. -/
  sign : Option (String × String) := none
  members : List (Member T)

/-- `normalize_signature<std::string>::make` -/
def normalizeSignature (data : String) : String :=
  String.ofList (data.toList.map Char.toLower)

namespace Group

/-- `_save` -/
def save (g : Group T) (s : Setting) (t : T) : Except SettingException Setting := do
  let s' ←
    match g.sign with
    | some (field, data) => stringIo.setIn s field (normalizeSignature data)
    | none => pure s
  groupSet t g.members s'

/-- `_load`, into a new `T{}`. -/
def load (g : Group T) (s : Setting) : Except SettingException T :=
  match g.sign with
  | some (field, data) => do
    let found ← stringIo.member.getIn s field
    if normalizeSignature found ≠ normalizeSignature data then .error .type
    else groupGet s g.members g.init
  | none => groupGet s g.members g.init

/-- The primary template of `config_io`. -/
def io (g : Group T) : ConfigIo T where
  get := g.load
  set := g.save
  setIn parent name t :=
    parent.setMember name .group (fun child => child.getType = .group) fun s => g.save s t
  append list t := list.addElem .group fun s => g.save s t

end Group

end Logid.Config
