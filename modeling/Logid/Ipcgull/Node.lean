import Logid.Config.Schema
import Logid.Misc.Machine
import Mathlib.Data.Finset.Basic

/-!
# Nodes, interfaces and the server

Rendering of `ipcgull/node.cpp`, `node.h` (`make_interface`), `interface.cpp` (`~interface`) and of
the tables of the server (`server_gdbus.cpp:68-84`, `add_interface`, `drop_interface`,
`set_managing`, `full_name`), with one server, which is all that a process may have. Nodes, interfaces
and objects have numbers that are not used again, as the weak pointers to them need it; objects also
have an address, by which the server looks them up. A weak pointer is locked by asking whether what it
names is still there.
-/

namespace Logid.Ipcgull

open Config (stringLess)

/-- A node that was the `n`-th to be made. A parent is made before its children. -/
structure Node (n : Nat) where
  name : String
  parent : Option (Fin n) := none
  children : List Nat := []
  interfaces : SortedMap String Nat stringLess := .empty
  /-- The server is in `_servers`. -/
  attached : Bool := false
  managing : Option Nat := none

abbrev Nodes := (n : Nat) → Option (Node n)

structure Interface where
  name : String
  owner : Option Nat := none

/-- `internal_node` -/
structure InternalNode where
  object : Nat
  interfaces : Finset String := ∅

/-- `server::internal`, without the connection. -/
structure Server where
  nodes : String → Option InternalNode := fun _ => none
  objectPathLookup : Nat → Option String := fun _ => none

structure World where
  nodes : Nodes := fun _ => none
  nodeCount : Nat := 0
  /-- The interfaces that are there. -/
  interfaces : Nat → Option Interface := fun _ => none
  interfaceCount : Nat := 0
  /-- The objects that are there, with their addresses. -/
  objects : Nat → Option Nat := fun _ => none
  objectCount : Nat := 0
  server : Server := {}

/-! ## Names -/

/-- `node::tree_name` -/
def treeName (nodes : Nodes) (n : Nat) : String :=
  match nodes n with
  | none => ""
  | some node =>
    match node.parent with
    | some p => if (nodes p).isSome then treeName nodes p ++ "/" ++ node.name else node.name
    | none => node.name
termination_by n
decreasing_by exact p.isLt

/-- `node::full_name`, for a server whose root is `root`. -/
def fullName (root : String) (nodes : Nodes) (n : Nat) : String :=
  let tree := treeName nodes n
  if tree = "" then root else root ++ "/" ++ tree

/-- A node after the node `n` was destroyed: an orphan takes the name of its parent before its own and
moves to the parent of its parent, which gets it as a child in place of `n`. -/
def adopt {n : Nat} (node : Node n) {m : Nat} (other : Node m) : Node m :=
  if h : n < m ∧ m ∈ node.children then
    { other with
      name := node.name ++ "/" ++ other.name
      parent := node.parent.map (Fin.castLE h.1.le) }
  else if node.parent.map Fin.val = some m then
    { other with children := node.children.reverse ++ other.children.erase n }
  else other

/-- What `~node` does to the nodes. -/
def removeNode (nodes : Nodes) {n : Nat} (node : Node n) : Nodes :=
  fun m => if m = n then none else (nodes m).map (adopt node)

/-! ## The server -/

/-- The address that `managed().lock().get()` gives, if the node and the object are there. -/
def managedAddress (nodes : Nodes) (objects : Nat → Option Nat) (n : Nat) : Option Nat := do
  let node ← nodes n
  let o ← node.managing
  objects o

namespace Server

/-- `object_path_lookup.erase`; the null pointer is never in the table. -/
def eraseLookup (s : Server) (address : Option Nat) : Server :=
  match address with
  | some a => { s with objectPathLookup := Function.update s.objectPathLookup a none }
  | none => s

/-- `add_interface`; `none` where it throws. Whether D-Bus registers the interface is up to it. -/
def addInterface (s : Server) (path : String) (n : Nat) (name : String) (registers : Bool) :
    Option Server :=
  let entry := (s.nodes path).getD { object := n }
  if name ∈ entry.interfaces then none
  else if registers then
    let entry := { entry with interfaces := insert name entry.interfaces }
    some { s with nodes := Function.update s.nodes path (some entry) }
  else none

/-- `drop_interface`, with `managedAddress` of the nodes that are there. -/
def dropInterface (address : Nat → Option Nat) (path : String) (s : Server) (name : String) :
    Server :=
  match s.nodes path with
  | none => s
  | some entry =>
    if name ∈ entry.interfaces then
      let rest := entry.interfaces.erase name
      if rest = ∅ then
        let s := s.eraseLookup (address entry.object)
        { s with nodes := Function.update s.nodes path none }
      else { s with nodes := Function.update s.nodes path (some { entry with interfaces := rest }) }
    else s

/-- `set_managing`. The node manages the object by now, so it is its own entry that is erased, and
the object is never found in the table. -/
def setManaging (s : Server) (path : String) (address : Option Nat) : Server :=
  let s := s.eraseLookup address
  match address with
  | some a => { s with objectPathLookup := Function.update s.objectPathLookup a (some path) }
  | none => s

/-- The interfaces that are registered at a path. -/
def Registered (s : Server) (path name : String) : Prop :=
  ∃ entry, s.nodes path = some entry ∧ name ∈ entry.interfaces

/-- The node that a path stands for. -/
def object (s : Server) (path : String) : Option Nat := (s.nodes path).map InternalNode.object

end Server

/-! ## What happens to nodes, interfaces and objects -/

namespace World

/-- `make_root` -/
def makeRoot (w : World) (name : String) : World :=
  { w with
    nodes := Function.update w.nodes w.nodeCount (some { name := name })
    nodeCount := w.nodeCount + 1 }

/-- `make_child` -/
def makeChild (w : World) (p : Nat) (name : String) : Option World := do
  let parent ← w.nodes p
  if h : p < w.nodeCount then
    let nodes := Function.update w.nodes p
      (some { parent with children := w.nodeCount :: parent.children })
    return { w with
      nodes := Function.update nodes w.nodeCount
        (some { name := name, parent := some ⟨p, h⟩, attached := parent.attached })
      nodeCount := w.nodeCount + 1 }
  else none

/-- The loop of `add_server`. Where a registration throws, what was added before is dropped again, and
the result is `false`. -/
def addInterfaces (address : Nat → Option Nat) (path : String) (n : Nat) (registers : String → Bool) :
    List String → Server → Server × Bool
  | [], s => (s, true)
  | name :: names, s =>
    match s.addInterface path n name (registers name) with
    | none => (s, false)
    | some added =>
      let (s, done) := addInterfaces address path n registers names added
      if done then (s, true) else (s.dropInterface address path name, false)

/-- `add_server` -/
def addServer (root : String) (w : World) (n : Nat) (registers : String → Bool) : Option World := do
  let node ← w.nodes n
  if node.attached then return w
  else
    let (server, done) := addInterfaces (managedAddress w.nodes w.objects) (fullName root w.nodes n) n
      registers node.interfaces.keys w.server
    if done then
      return { w with
        nodes := Function.update w.nodes n (some { node with attached := true })
        server := server }
    else return { w with server := server }

/-- `make_interface`; where it throws, the interface is gone again. -/
def makeInterface (root : String) (w : World) (n : Nat) (name : String) (registers : Bool) :
    Option World := do
  let node ← w.nodes n
  let added :=
    if (node.interfaces.find? name).isSome then none
    else if node.attached then
      w.server.addInterface (fullName root w.nodes n) n name registers
    else some w.server
  match added with
  | some server => return { w with
      nodes := Function.update w.nodes n
        (some { node with interfaces := node.interfaces.emplace name w.interfaceCount })
      interfaces := Function.update w.interfaces w.interfaceCount
        (some { name := name, owner := some n })
      interfaceCount := w.interfaceCount + 1
      server := server }
  | none => return { w with interfaceCount := w.interfaceCount + 1 }

/-- `~interface`, with `drop_interface` of its owner. -/
def destroyInterface (root : String) (w : World) (k : Nat) : Option World := do
  let interface ← w.interfaces k
  let w := { w with interfaces := Function.update w.interfaces k none }
  match interface.owner with
  | none => return w
  | some n =>
    match w.nodes n with
    | none => return w
    | some node =>
      if (node.interfaces.find? interface.name).isSome then
        let address := managedAddress w.nodes w.objects
        return { w with
          nodes := Function.update w.nodes n
            (some { node with interfaces := node.interfaces.erase interface.name })
          server :=
            if node.attached then
              w.server.dropInterface address (fullName root w.nodes n) interface.name
            else w.server }
      else return w

/-- `manage`, for an object that was made. -/
def manage (root : String) (w : World) (n o : Nat) : Option World := do
  let node ← w.nodes n
  if o < w.objectCount then
    return { w with
      nodes := Function.update w.nodes n (some { node with managing := some o })
      server :=
        if node.attached then w.server.setManaging (fullName root w.nodes n) (w.objects o)
        else w.server }
  else none

/-- `~node` -/
def destroyNode (root : String) (w : World) (n : Nat) : Option World := do
  let node ← w.nodes n
  -- a weak pointer to the node is not locked any more
  let address := managedAddress (Function.update w.nodes n none) w.objects
  return { w with
    nodes := removeNode w.nodes node
    server :=
      if node.attached then
        node.interfaces.keys.foldl (Server.dropInterface address (fullName root w.nodes n)) w.server
      else w.server }

/-- A new object, at an address where there is none. -/
def makeObject (w : World) (address : Nat) : Option World :=
  if ∃ o < w.objectCount, w.objects o = some address then none
  else some { w with
    objects := Function.update w.objects w.objectCount (some address)
    objectCount := w.objectCount + 1 }

def destroyObject (w : World) (o : Nat) : Option World := do
  let _ ← w.objects o
  return { w with objects := Function.update w.objects o none }

end World

/-- The node has the server, the full name and an interface of the name. -/
def Holds (root : String) (nodes : Nodes) (n : Nat) (path name : String) : Prop :=
  ∃ node, nodes n = some node ∧ node.attached ∧ fullName root nodes n = path ∧
    (node.interfaces.find? name).isSome

/-- The node has the server and manages the object, which is there, at the address. -/
def Manages (w : World) (n o address : Nat) : Prop :=
  ∃ node, w.nodes n = some node ∧ node.attached ∧ node.managing = some o ∧
    w.objects o = some address

inductive Op where
  | makeRoot (name : String)
  | makeChild (p : Nat) (name : String)
  | addServer (n : Nat) (registers : String → Bool)
  | makeInterface (n : Nat) (name : String) (registers : Bool)
  | destroyInterface (k : Nat)
  | manage (n o : Nat)
  | destroyNode (n : Nat)
  | makeObject (address : Nat)
  | destroyObject (o : Nat)

/-- The runs of a program with a server whose root is `root`. -/
def machine (root : String) : Machine World Op where
  init := {}
  step w op :=
    match op with
    | .makeRoot name => some (w.makeRoot name)
    | .makeChild p name => w.makeChild p name
    | .addServer n registers => w.addServer root n registers
    | .makeInterface n name registers => w.makeInterface root n name registers
    | .destroyInterface k => w.destroyInterface root k
    | .manage n o => w.manage root n o
    | .destroyNode n => w.destroyNode root n
    | .makeObject address => w.makeObject address
    | .destroyObject o => w.destroyObject o

end Logid.Ipcgull
