import Logid.Ipcgull.Proofs.Dispatch

/-!
# Objects over the bus

An object is sent as the path of the node that manages it, and read as the object that the node at the
path manages. In runs that register each interface under a path of its own and let go of a node's last
interface only when the object is gone, every managed object is the same one on both ends, and a call
over the bus does what the method does and brings its result back.
-/

namespace Logid.Ipcgull

namespace World

variable {root : String} {w t : World}

/-- The server has the path of every object that a node with the server manages. -/
def FindsObjects (root : String) (w : World) : Prop :=
  ∀ n o address, Manages w n o address →
    w.server.objectPathLookup address = some (fullName root w.nodes n)

/-- The object is there and a node with the server and an interface manages it, under a name that is a
valid path. -/
def Published (root : String) (w : World) (o : Nat) : Prop :=
  ∃ n node address, w.nodes n = some node ∧ node.attached ∧ node.managing = some o ∧
    w.objects o = some address ∧ node.interfaces.keys ≠ [] ∧ ObjectPath (fullName root w.nodes n)

/-- The objects that are there have different addresses, and nodes manage objects that were made. -/
structure ObjectsOk (w : World) : Prop where
  lt : ∀ {o address}, w.objects o = some address → o < w.objectCount
  inj : ∀ {o o' address}, w.objects o = some address → w.objects o' = some address → o = o'
  managing_lt : ∀ {n node o}, w.nodes n = some node → node.managing = some o → o < w.objectCount

/-- A step that registers at paths of its own, gives the server to nodes that manage nothing, gives an
object to one node and takes the last interface of a node after the object. -/
def Careful (root : String) (w : World) (op : Op) : Prop :=
  RegistersOwn root w op ∧
    match op with
    | .addServer n _ => managedAddress w.nodes w.objects n = none
    | .destroyInterface k => ∀ n node i, w.interfaces k = some i → i.owner = some n →
        w.nodes n = some node → node.attached → node.interfaces.keys = [i.name] →
        managedAddress w.nodes w.objects n = none
    | .manage n o => ∀ m address, Manages w m o address → m = n
    | _ => True

/-- No name in a valid path holds a NUL. -/
theorem nul_notMem_of_arePathElements {afterSlash : Bool} {cs : List Char}
    (h : arePathElements afterSlash cs = true) : '\x00' ∉ cs := by
  induction cs generalizing afterSlash with
  | nil => exact List.not_mem_nil
  | cons c cs ih =>
    rw [arePathElements] at h
    rw [List.mem_cons, not_or]
    split at h
    next hslash => exact ⟨by rw [hslash]; decide, ih (Bool.and_eq_true_iff.mp h).2⟩
    next =>
      obtain ⟨hc, hcs⟩ := Bool.and_eq_true_iff.mp h
      refine ⟨?_, ih hcs⟩
      rintro rfl
      exact absurd hc (by decide)

theorem cPath_of_objectPath {path : String} (h : ObjectPath path) : cPath path = path := by
  have hnul : '\x00' ∉ path.toList := by
    rcases h with rfl | ⟨hhead, htail⟩
    · decide
    · cases hpath : path.toList with
      | nil => exact List.not_mem_nil
      | cons c cs =>
        rw [hpath] at hhead htail
        cases hhead
        rw [List.mem_cons, not_or]
        exact ⟨by decide, nul_notMem_of_arePathElements htail⟩
  rw [cPath, ← String.toList_inj, String.toList_ofList, List.takeWhile_eq_self_iff]
  intro c hc
  rw [decide_eq_true_eq]
  rintro rfl
  exact hnul hc

/-- Published objects are the same on both ends. -/
theorem referable_of_published {o : Nat} (hown : w.OwnPaths root)
    (hfinds : w.FindsObjects root) (h : w.Published root o) : Referable w.lookup w.managed o := by
  obtain ⟨n, node, address, hn, hatt, hman, ho, hkeys, hpath⟩ := h
  obtain ⟨name, hname⟩ := List.exists_mem_of_ne_nil _ hkeys
  have hobj := hown n _ name ⟨node, hn, hatt, rfl, mem_interfaces_keys.mp hname⟩
  obtain ⟨entry, hentry, rfl⟩ := Option.map_eq_some_iff.mp hobj
  refine ⟨fullName root w.nodes entry.object, ?_, ?_⟩
  · rw [lookup, ho]
    exact hfinds _ o address ⟨node, hn, hatt, hman, ho⟩
  · rw [cPath_of_objectPath hpath]
    refine ⟨hpath, ?_⟩
    rw [managed, hentry]
    simp [hn, hman, ho]

/-! ## Steps -/

/-- A step that leaves the paths of the server alone and lets no node manage more. -/
theorem findsObjects_of_le (hlookup : t.server.objectPathLookup = w.server.objectPathLookup)
    (hmanages : ∀ n o address, Manages t n o address → Manages w n o address ∧
      fullName root t.nodes n = fullName root w.nodes n)
    (h : w.FindsObjects root) : t.FindsObjects root := by
  intro n o address hn
  obtain ⟨hold, hname⟩ := hmanages n o address hn
  rw [hlookup, hname]
  exact h n o address hold

theorem forall_update {nodes : Nodes} {n : Nat} {node : Node n} {P : (m : Nat) → Node m → Prop}
    (hself : P n node) (hrest : ∀ m other, nodes m = some other → P m other) :
    ∀ m other, Function.update nodes n (some node) m = some other → P m other := by
  intro m other hm
  by_cases hmn : m = n
  · subst hmn
    rw [Function.update_self, Option.some_inj] at hm
    exact hm ▸ hself
  · rw [Function.update_of_ne hmn] at hm
    exact hrest m other hm

/-- What a node manages and whether it has the server, by what they were before a step. -/
def NodeOf (w : World) (op : Op) (m : Nat) (node' : Node m) : Prop :=
  (∃ node, w.nodes m = some node ∧
    (node'.managing = node.managing ∨
      ∃ o < w.objectCount, op = .manage m o ∧ node'.managing = some o) ∧
    (node'.attached → node.attached ∨ ∃ registers, op = .addServer m registers)) ∨
  (w.nodeCount ≤ m ∧ node'.managing = none)

theorem nodeOf_self {op : Op} {m : Nat} {node : Node m} (h : w.nodes m = some node) :
    NodeOf w op m node :=
  .inl ⟨node, h, .inl rfl, .inl⟩

theorem nodeOf_step {op : Op} (hok : w.Ok root) (h : (machine root).step w op = some t) :
    ∀ m node', t.nodes m = some node' → NodeOf w op m node' := by
  cases op with
  | makeRoot name =>
    cases h
    exact forall_update (.inr ⟨le_rfl, rfl⟩) fun m other => nodeOf_self
  | makeChild p name =>
    obtain ⟨parent, hp, h⟩ := Option.bind_eq_some_iff.mp h
    rw [dif_pos (hok.tree.lt hp)] at h
    cases h
    refine forall_update (.inr ⟨le_rfl, rfl⟩) (forall_update ?_ fun m other => nodeOf_self)
    exact .inl ⟨parent, hp, .inl rfl, .inl⟩
  | addServer n registers =>
    obtain ⟨node, hn, ⟨server, rfl, -⟩ | ⟨server, -, -, rfl⟩⟩ := addServer_cases hok h
    · exact fun m other => nodeOf_self
    · refine forall_update ?_ fun m other => nodeOf_self
      exact .inl ⟨node, hn, .inl rfl, fun _ => .inr ⟨registers, rfl⟩⟩
  | makeInterface n name registers =>
    rcases makeInterface_cases h with ⟨rfl, -⟩ | ⟨node, server, hn, -, -, rfl⟩
    · exact fun m other => nodeOf_self
    · refine forall_update ?_ fun m other => nodeOf_self
      exact .inl ⟨node, hn, .inl rfl, .inl⟩
  | destroyInterface k =>
    obtain ⟨interface, -, ⟨-, rfl⟩ | ⟨n, node, -, hn, -, rfl⟩⟩ := destroyInterface_cases hok h
    · exact fun m other => nodeOf_self
    · refine forall_update ?_ fun m other => nodeOf_self
      exact .inl ⟨node, hn, .inl rfl, .inl⟩
  | manage n o =>
    obtain ⟨node, hn, ho, rfl⟩ := manage_cases h
    refine forall_update ?_ fun m other => nodeOf_self
    exact .inl ⟨node, hn, .inr ⟨o, ho, rfl, rfl⟩, .inl⟩
  | destroyNode n =>
    obtain ⟨node, hn, heq⟩ := Option.bind_eq_some_iff.mp h
    cases heq
    intro m other' hm
    have hmn : m ≠ n := by
      rintro rfl
      rw [show (_ : World).nodes m = removeNode w.nodes node m from rfl, removeNode_self] at hm
      cases hm
    rw [show (_ : World).nodes m = removeNode w.nodes node m from rfl, removeNode_of_ne hmn,
      Option.map_eq_some_iff] at hm
    obtain ⟨other, hother, rfl⟩ := hm
    exact .inl ⟨other, hother, .inl adopt_managing, fun hatt => .inl (by simpa using hatt)⟩
  | makeObject address =>
    rw [(makeObject_nodes h).1]
    exact fun m other => nodeOf_self
  | destroyObject o =>
    rw [(destroyObject_nodes h).1]
    exact fun m other => nodeOf_self

/-- What a step does to the objects. -/
theorem objects_step {op : Op} (hok : w.Ok root) (h : (machine root).step w op = some t) :
    (t.objects = w.objects ∧ t.objectCount = w.objectCount) ∨
      (∃ address, (∀ o < w.objectCount, w.objects o ≠ some address) ∧
        t.objects = Function.update w.objects w.objectCount (some address) ∧
        t.objectCount = w.objectCount + 1) ∨
      ∃ o, t.objects = Function.update w.objects o none ∧ t.objectCount = w.objectCount := by
  cases op with
  | makeRoot name =>
    cases h
    exact .inl ⟨rfl, rfl⟩
  | makeChild p name =>
    obtain ⟨parent, hp, h⟩ := Option.bind_eq_some_iff.mp h
    rw [dif_pos (hok.tree.lt hp)] at h
    cases h
    exact .inl ⟨rfl, rfl⟩
  | addServer n registers =>
    obtain ⟨node, hn, ⟨server, rfl, -⟩ | ⟨server, -, -, rfl⟩⟩ := addServer_cases hok h
    · exact .inl ⟨rfl, rfl⟩
    · exact .inl ⟨rfl, rfl⟩
  | makeInterface n name registers =>
    rcases makeInterface_cases h with ⟨rfl, -⟩ | ⟨node, server, hn, -, -, rfl⟩
    · exact .inl ⟨rfl, rfl⟩
    · exact .inl ⟨rfl, rfl⟩
  | destroyInterface k =>
    obtain ⟨interface, -, ⟨-, rfl⟩ | ⟨n, node, -, hn, -, rfl⟩⟩ := destroyInterface_cases hok h
    · exact .inl ⟨rfl, rfl⟩
    · exact .inl ⟨rfl, rfl⟩
  | manage n o =>
    obtain ⟨node, hn, ho, rfl⟩ := manage_cases h
    exact .inl ⟨rfl, rfl⟩
  | destroyNode n =>
    obtain ⟨node, hn, heq⟩ := Option.bind_eq_some_iff.mp h
    cases heq
    exact .inl ⟨rfl, rfl⟩
  | makeObject address =>
    rw [show (machine root).step w (.makeObject address) = w.makeObject address from rfl,
      makeObject] at h
    split at h
    · cases h
    next hfree =>
      cases h
      exact .inr (.inl ⟨address, fun o ho heq => hfree ⟨o, ho, heq⟩, rfl, rfl⟩)
  | destroyObject o =>
    obtain ⟨address, -, h⟩ := Option.bind_eq_some_iff.mp h
    cases h
    exact .inr (.inr ⟨o, rfl, rfl⟩)

/-! ## The paths of the server -/

theorem dropInterface_lookup {s : Server} {address : Nat → Option Nat} {path name : String}
    (h : ∀ entry, s.nodes path = some entry → name ∈ entry.interfaces →
      entry.interfaces.erase name = ∅ → address entry.object = none) :
    (s.dropInterface address path name).objectPathLookup = s.objectPathLookup := by
  rw [Server.dropInterface]
  cases hpath : s.nodes path with
  | none => rfl
  | some entry =>
    simp only
    by_cases hmem : name ∈ entry.interfaces
    · rw [if_pos hmem]
      by_cases hlast : entry.interfaces.erase name = ∅
      · rw [if_pos hlast]
        show (s.eraseLookup (address entry.object)).objectPathLookup = _
        rw [h entry hpath hmem hlast]
        rfl
      · rw [if_neg hlast]
    · rw [if_neg hmem]

theorem foldl_dropInterface_lookup {s : Server} {address : Nat → Option Nat} {path : String}
    {names : List String} (h : ∀ n, s.object path = some n → address n = none) :
    (names.foldl (Server.dropInterface address path) s).objectPathLookup = s.objectPathLookup := by
  induction names generalizing s with
  | nil => rfl
  | cons name names ih =>
    rw [List.foldl_cons, ih fun n hn => h n (Server.object_dropInterface hn)]
    apply dropInterface_lookup
    intro entry hentry _ _
    exact h entry.object (by rw [Server.object, hentry]; rfl)

/-- The rollback of `add_server` leaves the paths alone for a node that manages nothing. -/
theorem addInterfaces_lookup {address : Nat → Option Nat} {path : String} {n : Nat}
    {registers : String → Bool} (hn : address n = none) {names : List String} (hnodup : names.Nodup)
    {s : Server} (hok : s.Ok) :
    (addInterfaces address path n registers names s).1.objectPathLookup = s.objectPathLookup := by
  induction names generalizing s with
  | nil => rfl
  | cons name names ih =>
    rw [List.nodup_cons] at hnodup
    rw [addInterfaces]
    cases hadd : s.addInterface path n name (registers name) with
    | none => rfl
    | some added =>
      obtain ⟨hnew, hlookup, hnodes⟩ := Server.addInterface_eq_some hadd
      have hrec := ih hnodup.2 (hok.addInterface hadd)
      cases hrest : addInterfaces address path n registers names added with
      | mk rest done =>
        rw [hrest] at hrec
        rcases addInterfaces_cases hnodup.2 (hok.addInterface hadd) hrest with
          ⟨rfl, hback⟩ | ⟨rfl, -⟩
        · simp only [hrest]
          show (rest.dropInterface address path name).objectPathLookup = s.objectPathLookup
          rw [dropInterface_lookup, hrec, hlookup]
          intro entry hentry hmem hlast
          rw [hback, hnodes, Function.update_self, Option.some_inj] at hentry
          subst hentry
          cases hold : s.nodes path with
          | none => simpa [Server.object, hold] using hn
          | some old =>
            -- the entry was there before, with an interface of its own
            have hmem' : name ∉ old.interfaces := fun h => hnew ⟨old, hold, h⟩
            rw [hold] at hlast
            simp only [Option.map_some, Option.getD_some, Finset.erase_insert hmem'] at hlast
            exact absurd hlast (hok path old hold)
        · simp only [hrest]
          exact hrec.trans hlookup

/-! ## Runs -/

theorem objectCount_step {op : Op} (hok : w.Ok root) (h : (machine root).step w op = some t) :
    w.objectCount ≤ t.objectCount := by
  rcases objects_step hok h with ⟨-, hcount⟩ | ⟨address, -, -, hcount⟩ | ⟨o, -, hcount⟩
  · exact hcount.ge
  · omega
  · exact hcount.ge

/-- An object that is there after a step was there, or is new. -/
theorem objects_of_step {op : Op} (hok : w.Ok root) (h : (machine root).step w op = some t)
    {o address : Nat} (ho : t.objects o = some address) :
    w.objects o = some address ∨ (o = w.objectCount ∧ t.objectCount = w.objectCount + 1 ∧
      ∀ o' < w.objectCount, w.objects o' ≠ some address) := by
  rcases objects_step hok h with ⟨hsame, -⟩ | ⟨new, hfree, hnew, hcount⟩ | ⟨gone, hgone, -⟩
  · rw [hsame] at ho
    exact .inl ho
  · rw [hnew] at ho
    by_cases hoc : o = w.objectCount
    · subst hoc
      rw [Function.update_self, Option.some_inj] at ho
      exact .inr ⟨rfl, hcount, ho ▸ hfree⟩
    · rw [Function.update_of_ne hoc] at ho
      exact .inl ho
  · rw [hgone] at ho
    by_cases hog : o = gone
    · subst hog
      rw [Function.update_self] at ho
      cases ho
    · rw [Function.update_of_ne hog] at ho
      exact .inl ho

theorem ObjectsOk.step {op : Op} (hobjects : w.ObjectsOk) (hok : w.Ok root)
    (h : (machine root).step w op = some t) : t.ObjectsOk := by
  have hcount := objectCount_step hok h
  constructor
  · intro o address ho
    rcases objects_of_step hok h ho with hold | ⟨rfl, hnew, -⟩
    · exact (hobjects.lt hold).trans_le hcount
    · omega
  · intro o o' address ho ho'
    rcases objects_of_step hok h ho with hold | ⟨rfl, -, hfree⟩
    · rcases objects_of_step hok h ho' with hold' | ⟨rfl, -, hfree⟩
      · exact hobjects.inj hold hold'
      · exact absurd hold (hfree o (hobjects.lt hold))
    · rcases objects_of_step hok h ho' with hold' | ⟨rfl, -, -⟩
      · exact absurd hold' (hfree o' (hobjects.lt hold'))
      · rfl
  · intro n node' o hn hman
    rcases nodeOf_step hok h n node' hn with ⟨node, hold, hmanaging, -⟩ | ⟨-, hnone⟩
    · rcases hmanaging with hsame | ⟨o', ho', -, hman'⟩
      · exact (hobjects.managing_lt hold (hsame ▸ hman)).trans_le hcount
      · rw [hman, Option.some_inj] at hman'
        exact (hman' ▸ ho').trans_le hcount
    · rw [hnone] at hman
      cases hman

/-- But for `manage` and `add_server`, a node manages after a step what it managed before. -/
theorem manages_step {op : Op} (hobjects : w.ObjectsOk) (hok : w.Ok root)
    (h : (machine root).step w op = some t) (hop : ∀ n o, op ≠ .manage n o) {n o address : Nat}
    (hatt : ∀ registers, op ≠ .addServer n registers) (hn : Manages t n o address) :
    Manages w n o address ∧ fullName root t.nodes n = fullName root w.nodes n := by
  obtain ⟨node', hn', hatt', hman, ho⟩ := hn
  rcases nodeOf_step hok h n node' hn' with ⟨node, hold, hmanaging, hattached⟩ | ⟨-, hnone⟩
  · have hman' : node.managing = some o := by
      rcases hmanaging with hsame | ⟨o', -, heq, -⟩
      · exact hsame ▸ hman
      · exact absurd heq (hop n o')
    have hattold : node.attached := by
      rcases hattached hatt' with hatt'' | ⟨registers, heq⟩
      · exact hatt''
      · exact absurd heq (hatt registers)
    have ho' : w.objects o = some address := by
      rcases objects_of_step hok h ho with hsame | ⟨rfl, -, -⟩
      · exact hsame
      · exact absurd (hobjects.managing_lt hold hman') (Nat.lt_irrefl _)
    refine ⟨⟨node, hold, hattold, hman', ho'⟩, ?_⟩
    exact ((keepsNames_step hok h).2 n (hok.tree.lt hold) (by rw [hn']; rfl)).2
  · rw [hnone] at hman
    cases hman

theorem findsObjects_addServer {n : Nat} {registers : String → Bool} (hfinds : w.FindsObjects root)
    (hobjects : w.ObjectsOk) (hok : w.Ok root)
    (hnone : managedAddress w.nodes w.objects n = none)
    (h : w.addServer root n registers = some t) : t.FindsObjects root := by
  have hlookup : t.server.objectPathLookup = w.server.objectPathLookup := by
    obtain ⟨node, hn, h⟩ := Option.bind_eq_some_iff.mp h
    have hadd : (addInterfaces (managedAddress w.nodes w.objects) (fullName root w.nodes n) n registers
        node.interfaces.keys w.server).1.objectPathLookup = w.server.objectPathLookup :=
      addInterfaces_lookup hnone (SortedMap.nodup_keys node.interfaces) hok.nonempty
    by_cases hatt : node.attached
    · rw [if_pos hatt] at h
      cases h
      rfl
    · rw [if_neg hatt] at h
      cases hres : addInterfaces (managedAddress w.nodes w.objects) (fullName root w.nodes n) n
        registers node.interfaces.keys w.server with
      | mk server done =>
        rw [hres] at h hadd
        cases done <;> (cases h; exact hadd)
  refine findsObjects_of_le hlookup ?_ hfinds
  rintro m o address ⟨node', hm', hatt', hman, ho⟩
  have hstep : (machine root).step w (.addServer n registers) = some t := h
  rcases nodeOf_step hok hstep m node' hm' with ⟨node, hold, hmanaging, hattached⟩ | ⟨-, hnew⟩
  · have hman' : node.managing = some o := by
      rcases hmanaging with hsame | ⟨o', -, heq, -⟩
      · exact hsame ▸ hman
      · cases heq
    have ho' : w.objects o = some address := by
      rcases objects_of_step hok hstep ho with hsame | ⟨rfl, -, -⟩
      · exact hsame
      · exact absurd (hobjects.managing_lt hold hman') (Nat.lt_irrefl _)
    refine ⟨⟨node, hold, ?_, hman', ho'⟩, ?_⟩
    · rcases hattached hatt' with hatt | ⟨registers', heq⟩
      · exact hatt
      · -- the node that gets the server manages nothing that is there
        cases heq
        simp [managedAddress, hold, hman', ho'] at hnone
    · exact ((keepsNames_step hok hstep).2 m (hok.tree.lt hold) (by rw [hm']; rfl)).2
  · rw [hnew] at hman
    cases hman

theorem findsObjects_manage {n o : Nat} (hfinds : w.FindsObjects root) (hobjects : w.ObjectsOk)
    (hok : w.Ok root) (honly : ∀ m address, Manages w m o address → m = n)
    (h : w.manage root n o = some t) : t.FindsObjects root := by
  obtain ⟨node, hn, hlt, rfl⟩ := manage_cases h
  rintro m o' address ⟨node', hm', hatt', hman, ho⟩
  have hkept : w.nodes.Kept (Function.update w.nodes n (some { node with managing := some o })) :=
    Nodes.kept_update hn rfl rfl
  show Server.objectPathLookup (if node.attached then _ else _) address =
    some (fullName root (Function.update w.nodes n (some { node with managing := some o })) m)
  by_cases hmn : m = n
  · subst hmn
    replace hm' : Function.update w.nodes m (some { node with managing := some o }) m = some node' :=
      hm'
    rw [Function.update_self, Option.some_inj] at hm'
    subst hm'
    cases hman
    have ho' : w.objects o = some address := ho
    rw [if_pos hatt', ho', hkept.fullName_eq root hok.tree (by rw [hn]; rfl)]
    exact Function.update_self ..
  · replace hm' : Function.update w.nodes n (some { node with managing := some o }) m = some node' :=
      hm'
    rw [Function.update_of_ne hmn] at hm'
    have hmanages : Manages w m o' address := ⟨node', hm', hatt', hman, ho⟩
    have hfound := hfinds m o' address hmanages
    rw [hkept.fullName_eq root hok.tree (by rw [hm']; rfl)]
    split
    · cases hobj : w.objects o with
      | none => exact hfound
      | some a =>
        have hne : address ≠ a := by
          rintro rfl
          obtain rfl := hobjects.inj hobj ho
          exact hmn (honly m address hmanages)
        rw [← hfound]
        simp [Server.setManaging, Server.eraseLookup, Function.update_of_ne hne]
    · exact hfound

theorem lookup_destroyInterface {k : Nat} (hok : w.Ok root) (hown : w.OwnPaths root)
    (hlast : ∀ n node i, w.interfaces k = some i → i.owner = some n → w.nodes n = some node →
      node.attached → node.interfaces.keys = [i.name] → managedAddress w.nodes w.objects n = none)
    (h : w.destroyInterface root k = some t) :
    t.server.objectPathLookup = w.server.objectPathLookup := by
  obtain ⟨interface, hk, ⟨-, rfl⟩ | ⟨n, node, hi, hn, hfind, rfl⟩⟩ := destroyInterface_cases hok h
  · rfl
  · show Server.objectPathLookup (if node.attached then _ else _) = _
    split
    next hatt =>
      apply dropInterface_lookup
      intro entry hentry hmem hempty
      -- what is registered at the path is what the node holds, and it is the last
      have hheld : ∀ {i}, i ∈ node.interfaces.keys → i ∈ entry.interfaces := by
        intro i hi'
        obtain ⟨entry', hentry', hmem'⟩ := (hok.registered (fullName root w.nodes n) i).mpr
          ⟨n, node, hn, hatt, rfl, mem_interfaces_keys.mp hi'⟩
        rw [hentry, Option.some_inj] at hentry'
        exact hentry' ▸ hmem'
      have hself : interface.name ∈ node.interfaces.keys :=
        mem_interfaces_keys.mpr (by rw [hfind]; rfl)
      have hkeys : node.interfaces.keys = [interface.name] := by
        have honly : ∀ i ∈ node.interfaces.keys, i = interface.name := by
          intro i hi'
          by_contra hne
          have hin := Finset.mem_erase.mpr ⟨hne, hheld hi'⟩
          rw [hempty] at hin
          exact Finset.notMem_empty i hin
        exact List.perm_singleton.mp ((List.perm_ext_iff_of_nodup (SortedMap.nodup_keys _)
          (List.nodup_singleton _)).mpr fun i =>
            ⟨fun h => List.mem_singleton.mpr (honly i h), fun h => List.mem_singleton.mp h ▸ hself⟩)
      have hobj := hown n _ interface.name ⟨node, hn, hatt, rfl, by rw [hfind]; rfl⟩
      rw [Server.object, hentry, Option.map_some, Option.some_inj] at hobj
      rw [hobj]
      exact hlast n node interface hk hi hn hatt hkeys
    · rfl

theorem lookup_destroyNode {n : Nat} (hown : w.OwnPaths root)
    (h : w.destroyNode root n = some t) :
    t.server.objectPathLookup = w.server.objectPathLookup := by
  obtain ⟨node, hn, heq⟩ := Option.bind_eq_some_iff.mp h
  cases heq
  show Server.objectPathLookup (if node.attached then _ else _) = _
  split
  next hatt =>
    cases hkeys : node.interfaces.keys with
    | nil => rfl
    | cons name names =>
      rw [← hkeys]
      apply foldl_dropInterface_lookup
      intro m hm
      have hmem : name ∈ node.interfaces.keys := by
        rw [hkeys]
        exact List.mem_cons_self
      rw [hown n _ name ⟨node, hn, hatt, rfl, mem_interfaces_keys.mp hmem⟩, Option.some_inj] at hm
      subst hm
      simp [managedAddress]
  · rfl

theorem FindsObjects.step {op : Op} (hfinds : w.FindsObjects root) (hobjects : w.ObjectsOk)
    (hok : w.Ok root) (hown : w.OwnPaths root) (hcareful : Careful root w op)
    (h : (machine root).step w op = some t) : t.FindsObjects root := by
  have hsame : (∀ n o, op ≠ .manage n o) → (∀ n registers, op ≠ .addServer n registers) →
      t.server.objectPathLookup = w.server.objectPathLookup → t.FindsObjects root :=
    fun hop hatt hlookup => findsObjects_of_le hlookup
      (fun n o address => manages_step hobjects hok h hop (hatt n)) hfinds
  cases op with
  | makeRoot name =>
    cases h
    exact hsame (fun _ _ h => by cases h) (fun _ _ h => by cases h) rfl
  | makeChild p name =>
    obtain ⟨-, -, -, -, -, hserver⟩ := quiet_makeChild hok h
    exact hsame (fun _ _ h => by cases h) (fun _ _ h => by cases h) (by rw [hserver])
  | addServer n registers => exact findsObjects_addServer hfinds hobjects hok hcareful.2 h
  | makeInterface n name registers =>
    refine hsame (fun _ _ h => by cases h) (fun _ _ h => by cases h) ?_
    rcases makeInterface_cases h with ⟨rfl, -⟩ | ⟨node, server, -, -, hadd, rfl⟩
    · rfl
    · split at hadd
      · exact (Server.addInterface_eq_some hadd).2.1
      · rw [hadd]
  | destroyInterface k =>
    exact hsame (fun _ _ h => by cases h) (fun _ _ h => by cases h)
      (lookup_destroyInterface hok hown hcareful.2 h)
  | manage n o => exact findsObjects_manage hfinds hobjects hok hcareful.2 h
  | destroyNode n =>
    exact hsame (fun _ _ h => by cases h) (fun _ _ h => by cases h) (lookup_destroyNode hown h)
  | makeObject address =>
    exact hsame (fun _ _ h => by cases h) (fun _ _ h => by cases h)
      (by rw [(makeObject_nodes h).2])
  | destroyObject o =>
    exact hsame (fun _ _ h => by cases h) (fun _ _ h => by cases h)
      (by rw [(destroyObject_nodes h).2])

/-- What holds all along a run of careful steps. -/
structure Sound (root : String) (w : World) : Prop where
  ok : w.Ok root
  objects : w.ObjectsOk
  own : w.OwnPaths root
  finds : w.FindsObjects root

theorem sound_init (root : String) : Sound root {} where
  ok := ok_init root
  objects := {
    lt := fun h => absurd h (by simp)
    inj := fun h => absurd h (by simp)
    managing_lt := fun h => absurd h (by simp) }
  own := fun n path name h => absurd h.isSome (by simp)
  finds := fun n o address h => by
    obtain ⟨node, hn, -⟩ := h
    exact absurd hn (by simp)

theorem Sound.step {op : Op} (h : w.Sound root) (hcareful : Careful root w op)
    (hstep : (machine root).step w op = some t) : t.Sound root where
  ok := h.ok.step hstep
  objects := h.objects.step h.ok hstep
  own := (ownPaths_step_iff h.ok h.own hstep).mpr hcareful.1
  finds := h.finds.step h.objects h.ok h.own hcareful hstep

theorem sound_of_careful {ops : List Op} (hcareful : (machine root).Meets (Careful root) {} ops)
    (h : (machine root).run {} ops = some w) : w.Sound root := by
  have hall := Machine.always_of_meets (I := Sound root) (P := Sound root) (fun _ => id)
    (fun _ _ _ hs hc hstep => hs.step hc hstep) (sound_init root) hcareful
  rw [← List.append_nil ops] at hall
  exact hall.of_run h

end World

/-! ## Calls -/

namespace Program

variable {σ : Type} {root : String}

theorem toVariants_ne_nil {ω : Type} {ts : List Ty} (h : ts ≠ []) (xs : Ty.Values ω ts) :
    toVariants ts xs ≠ [] := by
  cases ts with
  | nil => exact absurd rfl h
  | cons t ts => exact List.cons_ne_nil _ _

/-- In a run of careful steps, a method is called over the bus, under the name of its node, with what
its caller gave it, and its caller gets its answer: what is read back is what the method gave. -/
theorem methodCall_of_careful (P : Program σ) {G : GLib} (hG : G.Documented) (s : σ) {ops : List Op}
    (hcareful : (machine root).Meets (World.Careful root) {} ops)
    (hrun : (machine root).run {} ops = some (P.world s)) {n : Nat} {node : Node n}
    {name method : String} {k : Nat} {m : Method σ} (hn : (P.world s).nodes n = some node)
    (hatt : node.attached) (hk : node.interfaces.find? name = some k)
    (hm : P.functions k method = some m) (xs : Ty.Values Nat m.args)
    (hxs : Ty.AllOf Whole (fun _ => True) m.args xs) :
    ∃ parameters,
      toGVariant G (P.world s).lookup (.tuple (toVariants m.args xs))
          (.tuple (Ty.variantTypes m.args)) = .ok (some parameters) ∧
      P.methodCall G s (fullName root (P.world s).nodes n) name method parameters =
        P.answer G m (m.call xs s) ∧
      ∀ ys s' ops', m.call xs s = (.ok ys, s') → m.results ≠ [] →
        (machine root).Meets (World.Careful root) {} ops' →
        (machine root).run {} ops' = some (P.world s') →
        Ty.AllOf Whole ((P.world s').Published root) m.results ys →
        ∃ g, P.answer G m (m.call xs s) = (.value (some g), s') ∧
          fromGVariant (P.world s').managed g = some (.tuple (toVariants m.results ys)) := by
  have hsound := World.sound_of_careful hcareful hrun
  have hresolve := (World.dispatches_iff hsound.ok).mpr hsound.own n node name k hn hatt hk
  have hargs : Ty.All Whole (Referable (P.world s).lookup (P.world s).managed) (.tuple m.args) xs :=
    Ty.AllOf.imp m.args xs (.inl m.plain) hxs
  obtain ⟨parameters, hsent, hread⟩ := sent_of_all hG hargs
  refine ⟨parameters, hsent, ?_, ?_⟩
  · have happly : fromVariants m.args m.plain (toVariants m.args xs) = some xs :=
      fromVariants_toVariants m.args m.plain xs
    have hread' : fromGVariant (P.world s).managed parameters =
        some (.tuple (toVariants m.args xs)) := hread
    simp only [methodCall, hresolve, hm, hread', Variant.getTuple, Method.apply, happly]
    rcases m.call xs s with ⟨result, s'⟩
    cases result with
    | error e => rfl
    | ok ys => rfl
  · intro ys s' ops' hcall hresults hcareful' hrun' hys
    have hsound' := World.sound_of_careful hcareful' hrun'
    have hpublished : Ty.All Whole (Referable (P.world s').lookup (P.world s').managed)
        (.tuple m.results) ys :=
      Ty.AllOf.imp m.results ys
        (.inr fun _ => World.referable_of_published hsound'.own hsound'.finds) hys
    obtain ⟨g, hreply, hback⟩ := sent_of_all hG hpublished
    refine ⟨g, ?_, hback⟩
    have hreply' : toGVariant G (P.world s').lookup (.tuple (toVariants m.results ys))
        (.tuple (Ty.variantTypes m.results)) = .ok (some g) := hreply
    have hne : toVariants m.results ys ≠ [] := toVariants_ne_nil hresults ys
    rw [hcall, answer, respond, if_neg hne, hreply']

/-- "M720" -/
def m720 : Bytes := [0x4d, 0x37, 0x32, 0x30]

/-- A method that finds the device by a name. -/
def deviceNamed : Method World where
  args := [.string]
  plain := rfl
  results := [.object]
  call _ s := (.ok ((0 : Nat), ()), s)

def deviceProgram : Program World where
  world := id
  functions _ _ := some deviceNamed

/-- No path of the server is taken when the interface of the device comes to its own. -/
theorem careful_deviceOps :
    (machine "/root").Meets (World.Careful "/root") {} World.deviceOps := by
  refine .cons rfl ⟨fun _ hn => hn.elim, trivial⟩ ?_
  refine .cons rfl ⟨fun _ _ => .inl rfl, rfl⟩ ?_
  refine .cons rfl ⟨fun _ hn => hn.elim, trivial⟩ ?_
  refine .cons rfl ⟨fun _ hn => hn.elim, trivial⟩ ?_
  refine .cons rfl ⟨fun _ _ => .inl rfl, trivial⟩ ?_
  refine .cons rfl ⟨fun _ hn => hn.elim, ?_⟩ trivial
  -- no node manages anything yet
  rintro m address ⟨node, hm, -, hman, -⟩
  have hnone : node.managing = none := by
    refine @World.forall_update _ _ _ (fun _ node => node.managing = none) rfl ?_ m node hm
    refine World.forall_update rfl (World.forall_update rfl (World.forall_update rfl ?_))
    exact World.forall_update rfl fun m other h => absurd h (by simp)
  rw [hnone] at hman
  cases hman

/-- The name of a node below a root node. -/
theorem treeName_child {nodes : Nodes} {top : Node 0} {node : Node 1} (htop : nodes 0 = some top)
    (hnode : nodes 1 = some node) (hroot : top.parent = none) (hparent : node.parent = some 0) :
    treeName nodes 1 = top.name ++ "/" ++ node.name := by
  have hfirst : treeName nodes 0 = top.name := by
    rw [treeName, htop]
    simp only [hroot]
  rw [treeName, hnode]
  simp only [hparent]
  show (if (nodes 0).isSome then treeName nodes 0 ++ "/" ++ node.name else node.name) = _
  rw [htop, Option.isSome_some, if_pos rfl, hfirst]

theorem fullName_deviceOps {w : World} (h : (machine "/root").run {} World.deviceOps = some w) :
    fullName "/root" w.nodes 1 = "/root/devices/0" := by
  cases h
  rw [fullName, treeName_child rfl rfl rfl rfl]
  decide

/-- The name arrives, and the device comes back. -/
theorem methodCall_of_careful_device :
    ∃ w parameters g, (machine "/root").run {} World.deviceOps = some w ∧
      toGVariant documentedGLib w.lookup (.tuple [.string m720]) (.tuple [.string]) =
        .ok (some parameters) ∧
      deviceProgram.methodCall documentedGLib w (fullName "/root" w.nodes 1) "Device" "DeviceNamed"
        parameters = (.value (some g), w) ∧
      fromGVariant w.managed g = some (.tuple [.object 0]) := by
  obtain ⟨parameters, hsent, hcall, hanswer⟩ := @methodCall_of_careful _ _ deviceProgram _
    documented_documentedGLib _ _ careful_deviceOps rfl 1 _ "Device" "DeviceNamed" 0 deviceNamed rfl
    rfl rfl rfl (m720, ()) ⟨⟨by decide, by decide⟩, trivial⟩
  obtain ⟨g, hreply, hback⟩ := hanswer ((0 : Nat), ()) _ _ rfl (List.cons_ne_nil _ _)
    careful_deviceOps rfl ⟨⟨1, _, 7, rfl, rfl, rfl, rfl, by decide,
      (fullName_deviceOps rfl).symm ▸ by decide⟩, trivial⟩
  exact ⟨_, parameters, g, rfl, hsent, hcall.trans hreply, hback⟩

end Program

end Logid.Ipcgull
