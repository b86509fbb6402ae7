import Logid.Config.Types

/-!
# Layouts of codecs

The combinations of `config_io` as a syntax: what a codec reads below the setting it is given. A
layout has a codec, and says which changes of a tree put an entry that cannot be decoded into a
list, a set, a map or an optional member. What must hold of a layout for its codec to be total,
and for such an entry to go unnoticed, is decided on the syntax.
-/

namespace Logid.Config

open Setting

mutual

/-- How a codec is put together. -/
inductive Layout : {α : Type} → ConfigIo α → Type 1 where
  | scalar {α : Type} (io : ConfigIo α)
      (rejects : ∀ s : Setting, isScalar s.getType = false → ∃ e, io.get s = .error e) : Layout io
  | reinterpret {α β : Type} {io : ConfigIo β} {cast : α → β} {back : β → α}
      (layout : Layout io) : Layout (reinterpretIo io cast back)
  | variant {α β : Type} {firstIo : ConfigIo α} {restIo : ConfigIo β} (first : Layout firstIo)
      (rest : Layout restIo) : Layout (variantIo firstIo restIo)
  | list {α : Type} {io : ConfigIo α} (layout : Layout io) : Layout (listIo io)
  | set {α : Type} {io : ConfigIo α} {less : KeyLess α} (layout : Layout io) :
      Layout (setIo io : ConfigIo (SortedMap α Unit less))
  | map {κ β : Type} {keyName : String} {key : ConfigIo κ} {io : ConfigIo β} {less : KeyLess κ}
      (value : Layout io) : Layout (mapIo keyName key io : ConfigIo (SortedMap κ β less))
  | group {T : Type} {g : Group T} (fields : Fields g.members) : Layout g.io

/-- The members of a group, in order. -/
inductive Fields : {T : Type} → List (Member T) → Type 1 where
  | nil {T : Type} : Fields ([] : List (Member T))
  | optional {T A : Type} {name : String} {io : ConfigIo A} {field : T → Option A}
      {put : Option A → T → T} {members : List (Member T)} (layout : Layout io)
      (rest : Fields members) : Fields (⟨name, optionalIo io, field, put⟩ :: members)
  | required {T A : Type} {name : String} {io : ConfigIo A} {field : T → A} {put : A → T → T}
      {members : List (Member T)} (layout : Layout io) (rest : Fields members) :
      Fields (⟨name, io.member, field, put⟩ :: members)

end

/-! ### Entries that cannot be decoded -/

/-- The second setting has `entry` as one more child. -/
inductive Inserts (entry : Setting) : Setting → Setting → Prop where
  | list (before after : List Setting) :
      Inserts entry (.list (before ++ after)) (.list (before ++ entry :: after))
  | array (before after : List Setting) :
      Inserts entry (.array (before ++ after)) (.array (before ++ entry :: after))
  | group (before after : List (String × Setting)) (name : String) :
      Inserts entry (.group (before ++ after)) (.group (before ++ (name, entry) :: after))

/-- The second setting has `x'` in the place of the child `x`. -/
inductive Changes (x x' : Setting) : Setting → Setting → Prop where
  | list (before after : List Setting) :
      Changes x x' (.list (before ++ x :: after)) (.list (before ++ x' :: after))
  | array (before after : List Setting) :
      Changes x x' (.array (before ++ x :: after)) (.array (before ++ x' :: after))
  | group (before after : List (String × Setting)) (name : String) :
      Changes x x' (.group (before ++ (name, x) :: after)) (.group (before ++ (name, x') :: after))

/-- The second group has a member of that name, which the first one lacks. -/
inductive InsertsMember (name : String) (entry : Setting) : Setting → Setting → Prop where
  | group (before after : List (String × Setting)) (hbefore : name ∉ before.map Prod.fst)
      (hafter : name ∉ after.map Prod.fst) :
      InsertsMember name entry (.group (before ++ after)) (.group (before ++ (name, entry) :: after))

/-- The second group has `x'` as its member of that name, the first one `x`. -/
inductive ChangesMember (name : String) (x x' : Setting) : Setting → Setting → Prop where
  | group (before after : List (String × Setting)) (hbefore : name ∉ before.map Prod.fst) :
      ChangesMember name x x' (.group (before ++ (name, x) :: after))
        (.group (before ++ (name, x') :: after))

mutual

/-- `Spoils layout s s'`: but for one entry that cannot be decoded, of a list, a set, a map or an
optional member that the codec reads in `s'`, the trees `s` and `s'` are the same. Of a variant, the
alternative that is read in `s` counts. -/
def Layout.Spoils : {α : Type} → {io : ConfigIo α} → Layout io → Setting → Setting → Prop
  | _, _, .scalar _ _, _, _ => False
  | _, _, .reinterpret layout, s, s' => layout.Spoils s s'
  | _, _, @Layout.variant _ _ firstIo _ first rest, s, s' =>
    ((∃ t, firstIo.get s = .ok t) ∧ first.Spoils s s') ∨
      ((∃ e, firstIo.get s = .error e) ∧ rest.Spoils s s')
  | _, _, @Layout.list _ io layout, s, s' =>
    (∃ entry e, io.get entry = .error e ∧ Inserts entry s s') ∨
      ∃ x x', layout.Spoils x x' ∧ Changes x x' s s'
  | _, _, @Layout.set _ io _ layout, s, s' =>
    (∃ entry e, io.get entry = .error e ∧ Inserts entry s s') ∨
      ∃ x x', layout.Spoils x x' ∧ Changes x x' s s'
  | _, _, @Layout.map _ _ keyName key io _ value, s, s' =>
    (∃ entry e, getEntry keyName key io entry = .error e ∧ Inserts entry s s') ∨
      ∃ x x', value.Spoils x x' ∧ Changes x x' s s'
  | _, _, .group fields, s, s' => fields.Spoils s s'

def Fields.Spoils : {T : Type} → {members : List (Member T)} → Fields members → Setting →
    Setting → Prop
  | _, _, .nil, _, _ => False
  | _, _, @Fields.optional _ _ name io _ _ _ layout rest, s, s' =>
    (∃ entry e, io.get entry = .error e ∧ InsertsMember name entry s s') ∨
      (∃ x x', layout.Spoils x x' ∧ ChangesMember name x x' s s') ∨ rest.Spoils s s'
  | _, _, @Fields.required _ _ name _ _ _ _ layout rest, s, s' =>
    (∃ x x', layout.Spoils x x' ∧ ChangesMember name x x' s s') ∨ rest.Spoils s s'

end

/-! ### What is decided on the layout -/

mutual

/-- All that may throw is below something that catches it. -/
def Layout.total : {α : Type} → {io : ConfigIo α} → Layout io → Bool
  | _, _, .scalar _ _ => false
  | _, _, .reinterpret layout => layout.total
  | _, _, .variant _ rest => rest.total
  | _, _, .list _ => true
  | _, _, .set _ => true
  | _, _, .map _ => true
  | _, _, @Layout.group _ g fields => g.sign.isNone && fields.total

def Fields.total : {T : Type} → {members : List (Member T)} → Fields members → Bool
  | _, _, .nil => true
  | _, _, .optional _ rest => rest.total
  | _, _, .required _ _ => false

end

/-- The names of the members that must be there. -/
def Fields.mandatory : {T : Type} → {members : List (Member T)} → Fields members → List String
  | _, _, .nil => []
  | _, _, .optional _ rest => rest.mandatory
  | _, _, @Fields.required _ _ name _ _ _ _ _ rest => name :: rest.mandatory

namespace Layout

def isScalar : {α : Type} → {io : ConfigIo α} → Layout io → Bool
  | _, _, .scalar _ _ => true
  | _, _, .reinterpret layout => layout.isScalar
  | _, _, _ => false

/-- The members that an entry may be put into or below; `none` for any child. -/
def touched : {α : Type} → {io : ConfigIo α} → Layout io → Option (List String)
  | _, _, .scalar _ _ => some []
  | _, _, .reinterpret layout => layout.touched
  | _, _, .variant first rest => do return (← first.touched) ++ (← rest.touched)
  | _, _, .list _ => none
  | _, _, .set _ => none
  | _, _, .map _ => none
  | _, _, @Layout.group _ g _ => some (g.members.map Member.name)

/-- The members that decide whether a group can be decoded. -/
def decisive : {α : Type} → {io : ConfigIo α} → Layout io → Option (List String)
  | _, _, .reinterpret layout => layout.decisive
  | _, _, @Layout.group _ g fields => some ((g.sign.map Prod.fst).toList ++ fields.mandatory)
  | _, _, _ => none

/-- What the later alternatives touch has no part in the decision on the first one. -/
def separated {α β : Type} {firstIo : ConfigIo α} {restIo : ConfigIo β} (first : Layout firstIo)
    (rest : Layout restIo) : Bool :=
  first.isScalar ||
    first.decisive.any fun decisive => rest.touched.any fun touched =>
      touched.all fun name => !decisive.contains name

end Layout

mutual

/-- Alternatives are told apart, and keys found, by members that no entry is put into. -/
def Layout.robust : {α : Type} → {io : ConfigIo α} → Layout io → Bool
  | _, _, .scalar _ _ => true
  | _, _, .reinterpret layout => layout.robust
  | _, _, .variant first rest => first.robust && rest.robust && first.separated rest
  | _, _, .list layout => layout.robust
  | _, _, .set layout => layout.robust
  | _, _, @Layout.map _ _ keyName _ _ _ value =>
    value.robust && value.touched.any fun touched => !touched.contains keyName
  | _, _, @Layout.group _ g fields =>
    fields.robust && g.sign.all fun sign => !(g.members.map Member.name).contains sign.1

def Fields.robust : {T : Type} → {members : List (Member T)} → Fields members → Bool
  | _, _, .nil => true
  | _, _, @Fields.optional _ _ name _ _ _ members layout rest =>
    layout.robust && rest.robust && !(members.map Member.name).contains name
  | _, _, @Fields.required _ _ name _ _ _ members layout rest =>
    layout.robust && rest.robust && !(members.map Member.name).contains name

end

end Logid.Config
