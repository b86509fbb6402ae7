import Mathlib.Data.List.Basic

/-!
# Values on the bus

Rendering of `ipcgull/variant.h` (`to_variant`, `from_variant`, `make_variant_type`) and of the
conversions between a variant and a value of the bus (`server_gdbus.cpp:88-304`, `common_gdbus.cpp`).
The types are those that the methods, properties and signals of the daemon have: dictionaries, whose
helper has no well-typed instance, and `signature`, which nothing uses, are left out. The objects are
of a type `ω`; a `double` is its 64 bits, and a `std::string` its bytes. The functions of GLib that
make strings and object paths are parameters, with what GLib documents of them.
-/

namespace Logid.Ipcgull

/-- The alternatives of `_variant` that the bus stores as they are. -/
inductive Scalar where
  | int16
  | uint16
  | int32
  | uint32
  | int64
  | uint64
  | double
  | uint8
  | bool
  deriving DecidableEq, Repr

def Scalar.Value : Scalar → Type
  | .int16 => Int16
  | .uint16 => UInt16
  | .int32 => Int32
  | .uint32 => UInt32
  | .int64 => Int64
  | .uint64 => UInt64
  | .double => BitVec 64
  | .uint8 => UInt8
  | .bool => Bool

/-- The types that have a `_variant_helper`. -/
inductive Ty where
  | scalar (kind : Scalar)
  /-- `std::shared_ptr<T>` for any `T` derived from `object` -/
  | object
  | string
  | vector (element : Ty)
  | tuple (elements : List Ty)

mutual

/-- No object is in a value of the type. `from_variant` has instances for such types only: its
`_normalize_type` of a `std::shared_ptr` does not compile (`variant.h:315-319`). -/
def Ty.plain : Ty → Bool
  | .scalar _ => true
  | .object => false
  | .string => true
  | .vector element => element.plain
  | .tuple elements => Ty.arePlain elements

def Ty.arePlain : List Ty → Bool
  | [] => true
  | t :: ts => t.plain && Ty.arePlain ts

end

/-- `std::string` -/
abbrev Bytes := List UInt8

mutual

/-- The values of a type. -/
def Ty.Value (ω : Type) : Ty → Type
  | .scalar kind => kind.Value
  | .object => ω
  | .string => Bytes
  | .vector element => List (element.Value ω)
  | .tuple elements => Ty.Values ω elements

/-- The values of a `std::tuple`, which are also the arguments of a method. -/
def Ty.Values (ω : Type) : List Ty → Type
  | [] => Unit
  | element :: elements => element.Value ω × Ty.Values ω elements

end

inductive Variant (ω : Type) where
  | scalar (kind : Scalar) (x : kind.Value)
  | object (o : ω)
  | string (s : Bytes)
  | vector (elements : List (Variant ω))
  | tuple (elements : List (Variant ω))

/-! ## Between the program and variants -/

mutual

/-- `to_variant`: `_variant_helper<T>::make` -/
def toVariant {ω : Type} : (t : Ty) → t.Value ω → Variant ω
  | .scalar kind, x => .scalar kind x
  | .object, o => .object o
  | .string, s => .string s
  | .vector element, xs => .vector (xs.map fun x => toVariant element x)
  | .tuple elements, xs => .tuple (toVariants elements xs)

def toVariants {ω : Type} : (ts : List Ty) → Ty.Values ω ts → List (Variant ω)
  | [], _ => []
  | t :: ts, (x, xs) => toVariant t x :: toVariants ts xs

end

namespace Variant

variable {ω : Type}

/-- `std::get` of one of the scalar alternatives; `none` where it throws `bad_variant_access`. -/
def getScalar (kind : Scalar) : Variant ω → Option kind.Value
  | .scalar kind' x => if h : kind' = kind then some (h ▸ x) else none
  | _ => none

def getString : Variant ω → Option Bytes
  | .string s => some s
  | _ => none

def getVector : Variant ω → Option (List (Variant ω))
  | .vector vs => some vs
  | _ => none

def getTuple : Variant ω → Option (List (Variant ω))
  | .tuple vs => some vs
  | _ => none

end Variant

mutual

/-- `from_variant`: `_variant_helper<T>::get` -/
def fromVariant {ω : Type} : (t : Ty) → t.plain = true → Variant ω → Option (t.Value ω)
  | .scalar kind, _, v => v.getScalar kind
  | .object, h, _ => absurd h (by decide)
  | .string, _, v => v.getString
  | .vector element, h, v => v.getVector.bind fun vs => vs.mapM fun v => fromVariant element h v
  | .tuple elements, h, v => v.getTuple.bind fun vs => fromVariants elements h vs

/-- `get` of a tuple, whose size is checked. -/
def fromVariants {ω : Type} : (ts : List Ty) → Ty.arePlain ts = true → List (Variant ω) →
    Option (Ty.Values ω ts)
  | [], _, [] => some ()
  | [], _, _ :: _ => none
  | _ :: _, _, [] => none
  | t :: ts, h, v :: vs => do
    let x ← fromVariant t (Bool.and_eq_true_iff.mp h).1 v
    let xs ← fromVariants ts (Bool.and_eq_true_iff.mp h).2 vs
    return (x, xs)

end

/-! ## Between variants and the bus -/

/-- `GVariantType` -/
inductive VariantType where
  | scalar (kind : Scalar)
  | objectPath
  | string
  | array (element : VariantType)
  | tuple (items : List VariantType)

mutual

/-- `make_variant_type` -/
def Ty.variantType : Ty → VariantType
  | .scalar kind => .scalar kind
  | .object => .objectPath
  | .string => .string
  | .vector element => .array element.variantType
  | .tuple elements => .tuple (Ty.variantTypes elements)

def Ty.variantTypes : List Ty → List VariantType
  | [] => []
  | t :: ts => t.variantType :: Ty.variantTypes ts

end

/-- `GVariant` -/
inductive GVariant where
  | scalar (kind : Scalar) (x : kind.Value)
  | objectPath (path : String)
  | string (s : Bytes)
  | array (element : VariantType) (elements : List GVariant)
  | tuple (elements : List GVariant)

/-! What GLib takes -/

/-- What `c_str` gives of a string, read up to its terminator. -/
def cString (s : Bytes) : Bytes := s.takeWhile (· ≠ 0)

/-- The same of a path. -/
def cPath (path : String) : String := String.ofList (path.toList.takeWhile (· ≠ '\x00'))

/-- `g_utf8_validate` -/
def ValidUtf8 (s : Bytes) : Prop := s.toByteArray.IsValidUTF8

instance (s : Bytes) : Decidable (ValidUtf8 s) :=
  inferInstanceAs (Decidable (ByteArray.IsValidUTF8 _))

/-- Names of letters, digits and `_` with slashes between them; after a slash there is a name. -/
def arePathElements (afterSlash : Bool) : List Char → Bool
  | [] => !afterSlash
  | c :: cs =>
    if c = '/' then !afterSlash && arePathElements true cs
    else (c.isAlphanum || c = '_') && arePathElements false cs

/-- `g_variant_is_object_path` -/
def ObjectPath (path : String) : Prop :=
  path = "/" ∨ path.toList.head? = some '/' ∧ arePathElements true path.toList.tail = true

instance (path : String) : Decidable (ObjectPath path) := inferInstanceAs (Decidable (_ ∨ _ ∧ _))

/-- `g_variant_new_string` and `g_variant_new_object_path`, of what is before the terminator; `none`
for the NULL that they return after a warning. -/
structure GLib where
  newString : Bytes → Option Bytes
  newObjectPath : String → Option String

/-- What GLib documents: the argument has to be UTF-8, and a valid object path. -/
structure GLib.Documented (G : GLib) : Prop where
  newString_eq_some_iff : ∀ s t, 0 ∉ s → (G.newString s = some t ↔ t = s ∧ ValidUtf8 s)
  newObjectPath_eq_some_iff : ∀ path path', '\x00' ∉ path.toList →
    (G.newObjectPath path = some path' ↔ path' = path ∧ ObjectPath path)

/-- How a conversion fails. -/
inductive Failure where
  | throws (what : String)
  /-- GLib reads from NULL: the program ends. -/
  | crash
  deriving DecidableEq, Repr

/-- `g_variant_new_tuple` and `g_variant_new_array`, which read what their children are. -/
def ofChildren (make : List GVariant → GVariant) (children : List (Option GVariant)) :
    Except Failure (Option GVariant) :=
  match children.mapM id with
  | some gs => .ok (some (make gs))
  | none => .error .crash

mutual

/-- `to_gvariant`, with `object_path_lookup`; `none` for NULL. -/
def toGVariant {ω : Type} (G : GLib) (lookup : ω → Option String) :
    Variant ω → VariantType → Except Failure (Option GVariant)
  | .scalar kind x, _ => .ok (some (.scalar kind x))
  | .object o, _ =>
    match lookup o with
    | some path => .ok ((G.newObjectPath (cPath path)).map .objectPath)
    | none => .error (.throws "Invalid object path")
  | .string s, _ => .ok ((G.newString (cString s)).map .string)
  | .vector vs, type =>
    match type with
    | .array element => (toGVariantArray G lookup vs element).bind (ofChildren (.array element))
    | _ => .error .crash
  | .tuple vs, type =>
    match type with
    | .tuple items => (toGVariantTuple G lookup vs items).bind (ofChildren .tuple)
    | _ => .error .crash

def toGVariantArray {ω : Type} (G : GLib) (lookup : ω → Option String) :
    List (Variant ω) → VariantType → Except Failure (List (Option GVariant))
  | [], _ => .ok []
  | v :: vs, element => do
    let g ← toGVariant G lookup v element
    let gs ← toGVariantArray G lookup vs element
    return g :: gs

/-- The child type is the first item of the tuple's type, then always the next one. -/
def toGVariantTuple {ω : Type} (G : GLib) (lookup : ω → Option String) :
    List (Variant ω) → List VariantType → Except Failure (List (Option GVariant))
  | [], _ => .ok []
  | _ :: _, [] => .error .crash
  | v :: vs, item :: items => do
    let g ← toGVariant G lookup v item
    let gs ← toGVariantTuple G lookup vs items
    return g :: gs

end

mutual

/-- `from_gvariant`; `managed` is the object that the node at a path manages. `none` where it throws
`out_of_range`. -/
def fromGVariant {ω : Type} (managed : String → Option ω) : GVariant → Option (Variant ω)
  | .scalar kind x => some (.scalar kind x)
  | .objectPath path => (managed path).map .object
  | .string s => some (.string s)
  | .array _ gs => (fromGVariants managed gs).map .vector
  | .tuple gs => (fromGVariants managed gs).map .tuple

def fromGVariants {ω : Type} (managed : String → Option ω) :
    List GVariant → Option (List (Variant ω))
  | [] => some []
  | g :: gs => do
    let v ← fromGVariant managed g
    let vs ← fromGVariants managed gs
    return v :: vs

end

/-! ## What arrives -/

/-- What a conversion sends, if it does. -/
def made : Except Failure (Option GVariant) → Option GVariant
  | .ok g => g
  | .error _ => none

/-- A value sent in its declared type and read as a variant. -/
def arrival {ω : Type} (G : GLib) (lookup : ω → Option String) (managed : String → Option ω)
    (t : Ty) (x : t.Value ω) : Option (Variant ω) :=
  (made (toGVariant G lookup (toVariant t x) t.variantType)).bind (fromGVariant managed)

/-- A value sent and read back as what it was. -/
def transfer {ω : Type} (G : GLib) (lookup : ω → Option String) (managed : String → Option ω)
    (t : Ty) (h : t.plain = true) (x : t.Value ω) : Option (t.Value ω) :=
  (arrival G lookup managed t x).bind (fromVariant t h)

mutual

/-- The strings and the objects in a value. -/
def Ty.All {ω : Type} (P : Bytes → Prop) (Q : ω → Prop) : (t : Ty) → t.Value ω → Prop
  | .scalar _, _ => True
  | .object, o => Q o
  | .string, s => P s
  | .vector element, xs => ∀ x ∈ (show List (element.Value ω) from xs), element.All P Q x
  | .tuple elements, xs => Ty.AllOf P Q elements xs

def Ty.AllOf {ω : Type} (P : Bytes → Prop) (Q : ω → Prop) : (ts : List Ty) → Ty.Values ω ts → Prop
  | [], _ => True
  | t :: ts, (x, xs) => t.All P Q x ∧ Ty.AllOf P Q ts xs

end

/-- A string that GLib takes whole. -/
def Whole (s : Bytes) : Prop := 0 ∉ s ∧ ValidUtf8 s

/-- An object whose path GLib takes and leads back to it. -/
def Referable {ω : Type} (lookup : ω → Option String) (managed : String → Option ω) (o : ω) : Prop :=
  ∃ path, lookup o = some path ∧ ObjectPath (cPath path) ∧ managed (cPath path) = some o

end Logid.Ipcgull
