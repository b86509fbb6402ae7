import Logid.Ipcgull.Node
import Logid.Ipcgull.Variant

/-!
# Calls over the bus

Rendering of `gdbus_method_call` (`server_gdbus.cpp:306-437`) and of `function`
(`ipcgull/function.h`): how a call finds the interface and its method, and what becomes of its
arguments and its result. A program has a state of which the world of nodes is a part, and the methods
of its interfaces change it.
-/

namespace Logid.Ipcgull

inductive ErrorCode where
  | unknownObject
  | unknownInterface
  | unknownMethod
  | invalidSignature
  | invalidArgs
  | failed
  deriving DecidableEq, Repr

/-- An error of the bus with its text. -/
structure BusError where
  code : ErrorCode
  message : String
  deriving DecidableEq, Repr

namespace World

/-- How `gdbus_method_call` finds the interface: the first lines of its body. -/
def resolve (w : World) (path name : String) : Except BusError Nat :=
  match w.server.nodes path with
  | none => .error ⟨.unknownObject, "Unknown object"⟩
  | some entry =>
    match w.nodes entry.object with
    | none => .error ⟨.unknownObject, "Object no longer exists"⟩
    | some node =>
      match node.interfaces.find? name with
      | none => .error ⟨.unknownInterface, "Unknown interface"⟩
      | some k =>
        if (w.interfaces k).isSome then .ok k
        else .error ⟨.unknownInterface, "Interface expired"⟩

/-- `object_path_lookup.at` for the address of an object. -/
def lookup (w : World) (o : Nat) : Option String := do
  let address ← w.objects o
  w.server.objectPathLookup address

/-- The object that the node at a path manages, if they are there. -/
def managed (w : World) (path : String) : Option Nat := do
  let entry ← w.server.nodes path
  let node ← w.nodes entry.object
  let o ← node.managing
  let _ ← w.objects o
  return o

end World

/-! ## Methods -/

/-- What a method may throw. -/
inductive Exception where
  | badVariantAccess
  | invalidArgument
  | other (what : String)

/-- A method with the types of its arguments, which can be read, and of its results. -/
structure Method (σ : Type) where
  args : List Ty
  plain : Ty.arePlain args = true
  results : List Ty
  call : Ty.Values Nat args → σ → Except Exception (Ty.Values Nat results) × σ

/-- `function::operator()`, as `_fn_generator` makes it: the number and the types of the arguments are
checked before the call. -/
def Method.apply {σ : Type} (m : Method σ) (args : List (Variant Nat)) (s : σ) :
    Except Exception (List (Variant Nat)) × σ :=
  match fromVariants m.args m.plain args with
  | none => (.error .badVariantAccess, s)
  | some xs =>
    match m.call xs s with
    | (.ok ys, s) => (.ok (toVariants m.results ys), s)
    | (.error e, s) => (.error e, s)

/-- The `catch` clauses around a call. -/
def Exception.toBusError : Exception → BusError
  | .badVariantAccess => ⟨.invalidSignature, "Invalid argument type"⟩
  | .invalidArgument => ⟨.invalidArgs, "Invalid arguments"⟩
  | .other what => ⟨.failed, what⟩

structure Program (σ : Type) where
  world : σ → World
  /-- The method tables of the interfaces. -/
  functions : Nat → String → Option (Method σ)

/-- What becomes of a call. -/
inductive Reply where
  /-- An empty answer without results. -/
  | value (g : Option GVariant)
  | error (e : BusError)
  /-- GLib has refused a string or a path in the result. -/
  | crash

namespace Program

variable {σ : Type}

/-- The answer to a call that returned. -/
def respond (P : Program σ) (G : GLib) (m : Method σ) (response : List (Variant Nat)) (s : σ) :
    Reply :=
  if response = [] then .value none
  else
    match toGVariant G (P.world s).lookup (.tuple response) (.tuple (Ty.variantTypes m.results)) with
    | .ok g => .value g
    | .error (.throws what) => .error ⟨.failed, what⟩
    | .error .crash => .crash

/-- `gdbus_method_call` -/
def methodCall (P : Program σ) (G : GLib) (s : σ) (path interface method : String)
    (parameters : GVariant) : Reply × σ :=
  match (P.world s).resolve path interface with
  | .error e => (.error e, s)
  | .ok k =>
    match P.functions k method with
    | none => (.error ⟨.unknownMethod, "Unknown method"⟩, s)
    | some m =>
      match fromGVariant (P.world s).managed parameters with
      | none => (.error ⟨.unknownObject, "Invalid object path"⟩, s)
      | some args =>
        match args.getTuple with
        | none => (.error Exception.badVariantAccess.toBusError, s)
        | some args =>
          match m.apply args s with
          | (.error e, s) => (.error e.toBusError, s)
          | (.ok response, s) => (P.respond G m response s, s)

/-- What a call answers when the method returned or threw. -/
def answer (P : Program σ) (G : GLib) (m : Method σ) :
    Except Exception (Ty.Values Nat m.results) × σ → Reply × σ
  | (.ok ys, s) => (P.respond G m (toVariants m.results ys) s, s)
  | (.error e, s) => (.error e.toBusError, s)

end Program

end Logid.Ipcgull
