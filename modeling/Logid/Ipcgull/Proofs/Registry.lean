import Logid.Ipcgull.Proofs.Node

/-!
# What the server has registered

In every reachable state the server has registered exactly the interfaces of the nodes that are there
and have the server, each under the full name of its node, and no two nodes hold the same one.
-/

namespace Logid.Ipcgull

/-! ## The table of the server -/

namespace Server

/-- No node is left in the table without an interface. -/
def Ok (s : Server) : Prop :=
  ∀ path entry, s.nodes path = some entry → entry.interfaces ≠ ∅

variable {s t : Server} {address : Nat → Option Nat} {path name : String} {n : Nat}

@[simp] theorem eraseLookup_nodes (a : Option Nat) : (s.eraseLookup a).nodes = s.nodes := by
  cases a <;> rfl

@[simp] theorem setManaging_nodes (a : Option Nat) : (s.setManaging path a).nodes = s.nodes := by
  cases a <;> rfl

theorem Registered.isSome (h : s.Registered path name) : (s.nodes path).isSome := by
  obtain ⟨entry, hentry, -⟩ := h
  rw [hentry]
  rfl

/-- What `add_interface` does to the table. -/
theorem addInterface_eq_some {registers : Bool}
    (h : s.addInterface path n name registers = some t) :
    ¬ s.Registered path name ∧ t.objectPathLookup = s.objectPathLookup ∧
      t.nodes = Function.update s.nodes path (some
        { object := (s.object path).getD n
          interfaces := insert name (((s.nodes path).map InternalNode.interfaces).getD ∅) }) := by
  rw [addInterface] at h
  split at h
  · cases h
  next hnot =>
    split at h
    · rw [Option.some_inj] at h
      subst h
      refine ⟨?_, rfl, ?_⟩
      · rintro ⟨entry, hentry, hmem⟩
        exact hnot (by rw [hentry]; exact hmem)
      · cases hpath : s.nodes path <;> simp [object, hpath]
    · cases h

theorem registered_addInterface {registers : Bool}
    (h : s.addInterface path n name registers = some t) {p i : String} :
    t.Registered p i ↔ s.Registered p i ∨ (p = path ∧ i = name) := by
  obtain ⟨-, -, hnodes⟩ := addInterface_eq_some h
  rw [Registered, hnodes]
  by_cases hp : p = path
  · subst hp
    rw [Function.update_self]
    cases hpath : s.nodes p with
    | none => simp [Registered, hpath]
    | some entry => simp [Registered, hpath, or_comm]
  · rw [Function.update_of_ne hp]
    simp [Registered, hp]

theorem object_addInterface {registers : Bool}
    (h : s.addInterface path n name registers = some t) (p : String) :
    t.object p = if p = path then some ((s.object path).getD n) else s.object p := by
  obtain ⟨-, -, hnodes⟩ := addInterface_eq_some h
  rw [object, hnodes]
  by_cases hp : p = path
  · subst hp
    rw [Function.update_self, if_pos rfl]
    rfl
  · rw [Function.update_of_ne hp, if_neg hp]
    rfl

theorem Ok.addInterface (hok : s.Ok) {registers : Bool}
    (h : s.addInterface path n name registers = some t) : t.Ok := by
  obtain ⟨-, -, hnodes⟩ := addInterface_eq_some h
  intro p entry hp
  rw [hnodes] at hp
  by_cases hpath : p = path
  · subst hpath
    rw [Function.update_self, Option.some_inj] at hp
    rw [← hp]
    exact Finset.insert_ne_empty _ _
  · rw [Function.update_of_ne hpath] at hp
    exact hok p entry hp

/-- What `drop_interface` does to the table. -/
theorem dropInterface_nodes : (s.dropInterface address path name).nodes =
    Function.update s.nodes path ((s.nodes path).bind fun entry =>
      if entry.interfaces.erase name = ∅ ∧ name ∈ entry.interfaces then none
      else some { entry with interfaces := entry.interfaces.erase name }) := by
  rw [dropInterface]
  cases hpath : s.nodes path with
  | none =>
    show s.nodes = Function.update s.nodes path none
    rw [← hpath, Function.update_eq_self]
  | some entry =>
    simp only [Option.bind_some]
    by_cases hmem : name ∈ entry.interfaces
    · rw [if_pos hmem]
      by_cases hrest : entry.interfaces.erase name = ∅
      · simp [hrest, hmem]
      · simp [hrest]
    · rw [if_neg hmem, if_neg fun h => hmem h.2, Finset.erase_eq_of_notMem hmem, ← hpath,
        Function.update_eq_self]

theorem dropInterface_nodes_congr (h : s.nodes = t.nodes) :
    (s.dropInterface address path name).nodes = (t.dropInterface address path name).nodes := by
  rw [dropInterface_nodes, dropInterface_nodes, h]

theorem registered_dropInterface {p i : String} :
    (s.dropInterface address path name).Registered p i ↔
      s.Registered p i ∧ ¬ (p = path ∧ i = name) := by
  rw [Registered, dropInterface_nodes]
  by_cases hp : p = path
  · subst hp
    rw [Function.update_self]
    cases hpath : s.nodes p with
    | none => simp [Registered, hpath]
    | some entry =>
      simp only [Option.bind_some, Registered, hpath, Option.some_inj, exists_eq_left', true_and]
      by_cases hlast : entry.interfaces.erase name = ∅ ∧ name ∈ entry.interfaces
      · have hall : ∀ j ∈ entry.interfaces, j = name := by
          intro j hj
          by_contra hne
          exact Finset.notMem_empty j (hlast.1 ▸ Finset.mem_erase.mpr ⟨hne, hj⟩)
        simp only [if_pos hlast]
        exact ⟨fun ⟨_, h, _⟩ => absurd h (by simp), fun ⟨hi, hne⟩ => absurd (hall i hi) hne⟩
      · simp only [if_neg hlast, Option.some_inj, exists_eq_left', Finset.mem_erase]
        exact and_comm
  · rw [Function.update_of_ne hp]
    simp [Registered, hp]

theorem object_dropInterface {p : String} {m : Nat}
    (h : (s.dropInterface address path name).object p = some m) : s.object p = some m := by
  rw [object, dropInterface_nodes] at h
  by_cases hp : p = path
  · subst hp
    rw [Function.update_self] at h
    cases hpath : s.nodes p with
    | none => simp [hpath] at h
    | some entry =>
      rw [hpath, Option.bind_some] at h
      split at h
      · cases h
      · simpa [object, hpath] using h
  · rwa [Function.update_of_ne hp] at h

theorem Ok.dropInterface (hok : s.Ok) : (s.dropInterface address path name).Ok := by
  intro p entry hp
  rw [dropInterface_nodes] at hp
  by_cases hpath : p = path
  · subst hpath
    rw [Function.update_self, Option.bind_eq_some_iff] at hp
    obtain ⟨old, hold, hentry⟩ := hp
    split at hentry
    · cases hentry
    next hnot =>
      rw [Option.some_inj] at hentry
      subst hentry
      intro hempty
      by_cases hmem : name ∈ old.interfaces
      · exact hnot ⟨hempty, hmem⟩
      · rw [Finset.erase_eq_of_notMem hmem] at hempty
        exact hok p old hold hempty
  · rw [Function.update_of_ne hpath] at hp
    exact hok p entry hp

/-- To drop what was just added gives the table back. -/
theorem dropInterface_addInterface (hok : s.Ok) {registers : Bool}
    (h : s.addInterface path n name registers = some t) :
    (t.dropInterface address path name).nodes = s.nodes := by
  obtain ⟨hnot, -, hnodes⟩ := addInterface_eq_some h
  rw [dropInterface_nodes, hnodes, Function.update_self, Function.update_idem]
  cases hpath : s.nodes path with
  | none =>
    simp only [Option.map_none, Option.getD_none, Option.bind_some]
    rw [if_pos (by simp), ← hpath, Function.update_eq_self]
  | some entry =>
    have hmem : name ∉ entry.interfaces := fun hmem => hnot ⟨entry, hpath, hmem⟩
    simp only [Option.map_some, Option.getD_some, Option.bind_some, Finset.erase_insert hmem]
    rw [if_neg fun h => hok path entry hpath h.1, object, hpath, Option.map_some, Option.getD_some]
    show Function.update s.nodes path (some entry) = s.nodes
    rw [← hpath, Function.update_eq_self]

theorem registered_foldl_dropInterface {names : List String} {p i : String} :
    (names.foldl (Server.dropInterface address path) s).Registered p i ↔
      s.Registered p i ∧ ¬ (p = path ∧ i ∈ names) := by
  induction names generalizing s with
  | nil => simp
  | cons name names ih =>
    rw [List.foldl_cons, ih, registered_dropInterface, List.mem_cons]
    tauto

theorem object_foldl_dropInterface {names : List String} {p : String} {m : Nat}
    (h : (names.foldl (Server.dropInterface address path) s).object p = some m) :
    s.object p = some m := by
  induction names generalizing s with
  | nil => exact h
  | cons name names ih => exact object_dropInterface (ih h)

theorem Ok.foldl_dropInterface (hok : s.Ok) {names : List String} :
    (names.foldl (Server.dropInterface address path) s).Ok := by
  induction names generalizing s with
  | nil => exact hok
  | cons name names ih => exact ih hok.dropInterface

end Server

namespace World

variable {address : Nat → Option Nat} {path : String} {n : Nat} {registers : String → Bool}

/-- Either all interfaces are added, or the table is what it was. -/
theorem addInterfaces_cases {names : List String} (hnodup : names.Nodup) {s t : Server} {done : Bool}
    (hok : s.Ok) (h : addInterfaces address path n registers names s = (t, done)) :
    (done = false ∧ t.nodes = s.nodes) ∨
      (done = true ∧ t.Ok ∧ t.objectPathLookup = s.objectPathLookup ∧
        (∀ i ∈ names, ¬ s.Registered path i) ∧
        (∀ p i, t.Registered p i ↔ s.Registered p i ∨ (p = path ∧ i ∈ names)) ∧
        ∀ p, t.object p =
          if p = path ∧ names ≠ [] then some ((s.object path).getD n) else s.object p) := by
  induction names generalizing s t done with
  | nil =>
    rw [addInterfaces, Prod.mk.injEq] at h
    obtain ⟨rfl, rfl⟩ := h
    exact .inr ⟨rfl, hok, rfl, by simp, by simp, by simp⟩
  | cons name names ih =>
    rw [List.nodup_cons] at hnodup
    rw [addInterfaces] at h
    cases hadd : s.addInterface path n name (registers name) with
    | none =>
      rw [hadd, Prod.mk.injEq] at h
      obtain ⟨rfl, rfl⟩ := h
      exact .inl ⟨rfl, rfl⟩
    | some added =>
      obtain ⟨hnew, hlookup, -⟩ := Server.addInterface_eq_some hadd
      have hreg := fun p i => Server.registered_addInterface hadd (p := p) (i := i)
      have hobj := Server.object_addInterface hadd
      cases hrest : addInterfaces address path n registers names added with
      | mk rest restDone =>
        rcases ih hnodup.2 (hok.addInterface hadd) hrest with
          ⟨rfl, hnodes⟩ | ⟨rfl, hrok, hrlookup, hrnew, hrreg, hrobj⟩
        · simp only [hadd, hrest] at h
          cases h
          refine .inl ⟨rfl, ?_⟩
          exact (Server.dropInterface_nodes_congr hnodes).trans
            (Server.dropInterface_addInterface hok hadd)
        · simp only [hadd, hrest] at h
          cases h
          refine .inr ⟨rfl, hrok, hrlookup.trans hlookup, ?_, ?_, ?_⟩
          · rintro i hi hreg'
            rcases List.mem_cons.mp hi with rfl | hi
            · exact hnew hreg'
            · exact hrnew i hi ((hreg path i).mpr (.inl hreg'))
          · intro p i
            rw [hrreg, hreg, List.mem_cons]
            tauto
          · intro p
            rw [hrobj, hobj path, hobj p, if_pos rfl, Option.getD_some]
            by_cases hp : p = path
            · simp [hp]
            · simp [hp]

/-! ## The invariant -/

/-- What the nodes, the interfaces and the table agree on. -/
structure Ok (root : String) (w : World) : Prop where
  tree : w.nodes.Ok w.nodeCount
  interface_lt : ∀ {k i}, w.interfaces k = some i → k < w.interfaceCount
  owned : ∀ {n node name k}, w.nodes n = some node → node.interfaces.find? name = some k →
    w.interfaces k = some { name := name, owner := some n }
  owner : ∀ {k i n node}, w.interfaces k = some i → i.owner = some n → w.nodes n = some node →
    node.interfaces.find? i.name = some k
  owner_lt : ∀ {k i n}, w.interfaces k = some i → i.owner = some n → n < w.nodeCount
  nonempty : w.server.Ok
  registered : ∀ path name, w.server.Registered path name ↔ ∃ n, Holds root w.nodes n path name
  unique : ∀ {n m path name}, Holds root w.nodes n path name → Holds root w.nodes m path name → n = m
  object_lt : ∀ {path n}, w.server.object path = some n → n < w.nodeCount
  object_place : ∀ {path n node}, w.server.object path = some n → w.nodes n = some node →
    node.attached ∧ fullName root w.nodes n = path

end World

/-! ## Names and holders along updates -/

section

variable {root : String} {nodes nodes' : Nodes} {count n m : Nat} {node node' : Node n}
  {path name : String}

theorem Nodes.Kept.fullName_eq (root : String) (hok : nodes.Ok count) (hkept : nodes.Kept nodes')
    (hm : (nodes m).isSome) : fullName root nodes' m = fullName root nodes m := by
  rw [fullName, fullName, hkept.treeName_eq hok hm]

theorem Nodes.Ok.fullName_removeNode (root : String) (hok : nodes.Ok count)
    (hn : nodes n = some node) (hmn : m ≠ n) (hm : (nodes m).isSome) :
    fullName root (Ipcgull.removeNode nodes node) m = fullName root nodes m := by
  rw [fullName, fullName, hok.treeName_removeNode hn hmn hm]

theorem Holds.isSome (h : Holds root nodes n path name) : (nodes n).isSome := by
  obtain ⟨node, hnode, -⟩ := h
  rw [hnode]
  rfl

/-- After an update of one node that keeps its name and its parent. -/
theorem holds_update_iff (node' : Node n) (hok : nodes.Ok count) (hn : nodes n = some node)
    (hname : node'.name = node.name) (hparent : node'.parent = node.parent) :
    Holds root (Function.update nodes n (some node')) m path name ↔
      (m ≠ n ∧ Holds root nodes m path name) ∨
        (m = n ∧ node'.attached ∧ fullName root nodes n = path ∧
          (node'.interfaces.find? name).isSome) := by
  have hkept := Nodes.kept_update hn hname hparent
  by_cases hmn : m = n
  · subst hmn
    have hfull := hkept.fullName_eq root hok (m := m) (by rw [hn]; rfl)
    simp [Holds, Function.update_self, hfull]
  · constructor
    · rintro ⟨other, hother, hatt, hpath, hi⟩
      rw [Function.update_of_ne hmn] at hother
      have hfull := hkept.fullName_eq root hok (m := m) (by rw [hother]; rfl)
      exact .inl ⟨hmn, other, hother, hatt, hfull ▸ hpath, hi⟩
    · rintro (⟨-, other, hother, hatt, hpath, hi⟩ | ⟨h, -⟩)
      · have hfull := hkept.fullName_eq root hok (m := m) (by rw [hother]; rfl)
        exact ⟨other, by rw [Function.update_of_ne hmn, hother], hatt, hfull.trans hpath, hi⟩
      · exact absurd h hmn

/-- The nodes that were there keep their names, their parents, their server and their interfaces, and
new ones hold nothing. -/
structure Nodes.Quiet (nodes : Nodes) (count : Nat) (nodes' : Nodes) : Prop where
  kept : ∀ m node, nodes m = some node → ∃ node', nodes' m = some node' ∧ node'.name = node.name ∧
    node'.parent = node.parent ∧ node'.attached = node.attached ∧ node'.interfaces = node.interfaces
  new : ∀ m node', nodes' m = some node' → (nodes m).isSome ∨
    (count ≤ m ∧ node'.interfaces = .empty)

theorem Nodes.Quiet.toKept (h : nodes.Quiet count nodes') : nodes.Kept nodes' := by
  intro m other hm
  obtain ⟨other', hm', hname, hparent, -⟩ := h.kept m other hm
  exact ⟨other', hm', hname, hparent⟩

theorem Nodes.Quiet.cases (h : nodes.Quiet count nodes') {other' : Node m}
    (hm : nodes' m = some other') :
    (∃ other, nodes m = some other ∧ other'.attached = other.attached ∧
      other'.interfaces = other.interfaces) ∨ (count ≤ m ∧ other'.interfaces = .empty) := by
  rcases h.new m other' hm with hsome | hnew
  · obtain ⟨other, hother⟩ := Option.isSome_iff_exists.mp hsome
    obtain ⟨other'', hm', -, -, hatt, hif⟩ := h.kept m other hother
    rw [hm, Option.some_inj] at hm'
    subst hm'
    exact .inl ⟨other, hother, hatt, hif⟩
  · exact .inr hnew

theorem Nodes.Quiet.holds_iff (hok : nodes.Ok count) (h : nodes.Quiet count nodes') :
    Holds root nodes' m path name ↔ Holds root nodes m path name := by
  constructor
  · rintro ⟨other', hother', hatt, hpath, hi⟩
    rcases h.cases hother' with ⟨other, hother, hatt', hif⟩ | ⟨-, hempty⟩
    · have hfull := h.toKept.fullName_eq root hok (m := m) (by rw [hother]; rfl)
      exact ⟨other, hother, hatt' ▸ hatt, hfull ▸ hpath, hif ▸ hi⟩
    · rw [hempty] at hi
      exact absurd hi (by simp [SortedMap.find?, SortedMap.empty])
  · rintro ⟨other, hother, hatt, hpath, hi⟩
    have hfull := h.toKept.fullName_eq root hok (m := m) (by rw [hother]; rfl)
    obtain ⟨other', hother', -, -, hatt', hif⟩ := h.kept m other hother
    exact ⟨other', hother', hatt'.trans hatt, hfull.trans hpath, by rw [hif]; exact hi⟩

theorem Nodes.quiet_update (hn : nodes n = some node) (hname : node'.name = node.name)
    (hparent : node'.parent = node.parent) (hatt : node'.attached = node.attached)
    (hif : node'.interfaces = node.interfaces) :
    nodes.Quiet count (Function.update nodes n (some node')) where
  kept m other hm := by
    by_cases hmn : m = n
    · subst hmn
      rw [hn, Option.some_inj] at hm
      subst hm
      exact ⟨node', Function.update_self .., hname, hparent, hatt, hif⟩
    · exact ⟨other, by rw [Function.update_of_ne hmn, hm], rfl, rfl, rfl, rfl⟩
  new m other' hm := by
    by_cases hmn : m = n
    · subst hmn
      exact .inl (by rw [hn]; rfl)
    · rw [Function.update_of_ne hmn] at hm
      exact .inl (by rw [hm]; rfl)

theorem Nodes.quiet_refl : nodes.Quiet count nodes where
  kept _ other hm := ⟨other, hm, rfl, rfl, rfl, rfl⟩
  new _ _ hm := .inl (by rw [hm]; rfl)

theorem Nodes.quiet_new (hnone : nodes count = none) {new : Node count}
    (hif : new.interfaces = .empty) :
    nodes.Quiet count (Function.update nodes count (some new)) where
  kept m other hm := by
    have hmc : m ≠ count := by
      rintro rfl
      rw [hnone] at hm
      cases hm
    exact ⟨other, by rw [Function.update_of_ne hmc, hm], rfl, rfl, rfl, rfl⟩
  new m other' hm := by
    by_cases hmc : m = count
    · subst hmc
      rw [Function.update_self, Option.some_inj] at hm
      exact .inr ⟨le_rfl, hm ▸ hif⟩
    · rw [Function.update_of_ne hmc] at hm
      exact .inl (by rw [hm]; rfl)

theorem Nodes.Quiet.trans {nodes'' : Nodes} (h : nodes.Quiet count nodes')
    (h' : nodes'.Quiet count nodes'') : nodes.Quiet count nodes'' where
  kept m other hm := by
    obtain ⟨other', hm', hname, hparent, hatt, hif⟩ := h.kept m other hm
    obtain ⟨other'', hm'', hname', hparent', hatt', hif'⟩ := h'.kept m other' hm'
    exact ⟨other'', hm'', hname'.trans hname, hparent'.trans hparent, hatt'.trans hatt,
      hif'.trans hif⟩
  new m other'' hm := by
    rcases h'.cases hm with ⟨other', hm', -, hif⟩ | hnew
    · rcases h.new m other' hm' with hsome | ⟨hcount, hempty⟩
      · exact .inl hsome
      · exact .inr ⟨hcount, hif.trans hempty⟩
    · exact .inr hnew

theorem holds_removeNode_iff (hok : nodes.Ok count) (hn : nodes n = some node) :
    Holds root (removeNode nodes node) m path name ↔ m ≠ n ∧ Holds root nodes m path name := by
  by_cases hmn : m = n
  · subst hmn
    simp [Holds, removeNode_self]
  · rw [and_iff_right hmn]
    constructor
    · rintro ⟨other', hother', hatt, hpath, hi⟩
      rw [removeNode_of_ne hmn, Option.map_eq_some_iff] at hother'
      obtain ⟨other, hother, rfl⟩ := hother'
      have hfull := hok.fullName_removeNode root hn hmn (by rw [hother]; rfl)
      exact ⟨other, hother, by simpa using hatt, hfull ▸ hpath, by simpa using hi⟩
    · rintro ⟨other, hother, hatt, hpath, hi⟩
      have hfull := hok.fullName_removeNode root hn hmn (by rw [hother]; rfl)
      exact ⟨adopt node other, by rw [removeNode_of_ne hmn, hother, Option.map_some],
        by simpa using hatt, hfull.trans hpath, by simpa using hi⟩

end

namespace World

variable {root : String} {w w' : World} {n : Nat} {node : Node n}

/-! ## Every operation keeps the invariant -/

theorem ok_init (root : String) : Ok root {} where
  tree := Nodes.ok_empty
  interface_lt h := absurd h (by simp)
  owned h := absurd h (by simp)
  owner h := absurd h (by simp)
  owner_lt h := absurd h (by simp)
  nonempty _ _ h := absurd h (by simp)
  registered path name := by simp [Server.Registered, Holds]
  unique h := absurd h.isSome (by simp)
  object_lt h := absurd h (by simp [Server.object])
  object_place h := absurd h (by simp [Server.object])

theorem makeObject_nodes {address : Nat} (h : w.makeObject address = some w') :
    w'.nodes = w.nodes ∧ w'.server = w.server := by
  rw [makeObject] at h
  split at h
  · cases h
  · cases h
    exact ⟨rfl, rfl⟩

theorem destroyObject_nodes {o : Nat} (h : w.destroyObject o = some w') :
    w'.nodes = w.nodes ∧ w'.server = w.server := by
  obtain ⟨address, -, h⟩ := Option.bind_eq_some_iff.mp h
  cases h
  exact ⟨rfl, rfl⟩

theorem Ok.makeObject {address : Nat} (hok : w.Ok root) (h : w.makeObject address = some w') :
    w'.Ok root := by
  rw [World.makeObject] at h
  split at h
  · cases h
  · cases h
    exact { hok with }

theorem Ok.destroyObject {o : Nat} (hok : w.Ok root) (h : w.destroyObject o = some w') :
    w'.Ok root := by
  obtain ⟨address, -, h⟩ := Option.bind_eq_some_iff.mp h
  cases h
  exact { hok with }

/-- An operation that touches neither the interfaces nor the table of the server. -/
theorem Ok.quiet (hok : w.Ok root) (hquiet : w.nodes.Quiet w.nodeCount w'.nodes)
    (htree : w'.nodes.Ok w'.nodeCount) (hcount : w.nodeCount ≤ w'.nodeCount)
    (hifs : w'.interfaces = w.interfaces) (hifCount : w.interfaceCount ≤ w'.interfaceCount)
    (hserver : w'.server.nodes = w.server.nodes) : w'.Ok root := by
  have hreg : ∀ path name, w'.server.Registered path name ↔ w.server.Registered path name := by
    intro path name
    rw [Server.Registered, hserver]
    rfl
  have hobj : ∀ path, w'.server.object path = w.server.object path := by
    intro path
    rw [Server.object, hserver]
    rfl
  have hholds : ∀ m path name, Holds root w'.nodes m path name ↔ Holds root w.nodes m path name :=
    fun m path name => hquiet.holds_iff hok.tree
  refine {
    tree := htree
    interface_lt := fun {k i} h => ?_
    owned := fun {n node name k} hn hk => ?_
    owner := fun {k i n node} hk hi hn => ?_
    owner_lt := fun {k i n} hk hi => ?_
    nonempty := fun path entry h => hok.nonempty path entry (hserver ▸ h)
    registered := fun path name => ?_
    unique := fun {n m path name} hn hm => ?_
    object_lt := fun {path n} h => ?_
    object_place := fun {path n node} h hn => ?_ }
  · rw [hifs] at h
    exact (hok.interface_lt h).trans_le hifCount
  · rw [hifs]
    rcases hquiet.cases hn with ⟨old, hold, -, hif⟩ | ⟨-, hempty⟩
    · rw [hif] at hk
      exact hok.owned hold hk
    · rw [hempty] at hk
      exact absurd hk (by simp [SortedMap.find?, SortedMap.empty])
  · rw [hifs] at hk
    rcases hquiet.cases hn with ⟨old, hold, -, hif⟩ | ⟨hnew, -⟩
    · rw [hif]
      exact hok.owner hk hi hold
    · exact absurd (hok.owner_lt hk hi) (by omega)
  · rw [hifs] at hk
    exact (hok.owner_lt hk hi).trans_le hcount
  · rw [hreg, hok.registered]
    exact exists_congr fun m => (hholds m path name).symm
  · exact hok.unique ((hholds n path name).mp hn) ((hholds m path name).mp hm)
  · rw [hobj] at h
    exact (hok.object_lt h).trans_le hcount
  · rw [hobj] at h
    rcases hquiet.cases hn with ⟨old, hold, hatt, -⟩ | ⟨hnew, -⟩
    · have hfull := hquiet.toKept.fullName_eq root hok.tree (m := n) (by rw [hold]; rfl)
      obtain ⟨hatt', hpath⟩ := hok.object_place h hold
      exact ⟨hatt.trans hatt', hfull.trans hpath⟩
    · exact absurd (hok.object_lt h) (by omega)

theorem Ok.makeRoot (hok : w.Ok root) (name : String) : (w.makeRoot name).Ok root :=
  hok.quiet (Nodes.quiet_new (hok.tree.eq_none le_rfl) rfl) (hok.tree.makeRoot rfl rfl)
    (Nat.le_succ _) rfl le_rfl rfl

theorem quiet_makeChild {p : Nat} {name : String} (hok : w.Ok root)
    (h : w.makeChild p name = some w') :
    w.nodes.Quiet w.nodeCount w'.nodes ∧ w'.nodes.Ok w'.nodeCount ∧
      w'.nodeCount = w.nodeCount + 1 ∧ w'.interfaces = w.interfaces ∧
      w'.interfaceCount = w.interfaceCount ∧ w'.server = w.server := by
  obtain ⟨parent, hp, h⟩ := Option.bind_eq_some_iff.mp h
  rw [dif_pos (hok.tree.lt hp)] at h
  cases h
  refine ⟨?_, hok.tree.makeChild hp rfl rfl, rfl, rfl, rfl, rfl⟩
  have hfirst : w.nodes.Quiet w.nodeCount (Function.update w.nodes p
      (some { parent with children := w.nodeCount :: parent.children })) :=
    Nodes.quiet_update hp rfl rfl rfl rfl
  refine hfirst.trans (Nodes.quiet_new ?_ rfl)
  rw [Function.update_of_ne (hok.tree.lt hp).ne']
  exact hok.tree.eq_none le_rfl

theorem Ok.makeChild {p : Nat} {name : String} (hok : w.Ok root)
    (h : w.makeChild p name = some w') : w'.Ok root := by
  obtain ⟨hquiet, htree, hcount, hifs, hifCount, hserver⟩ := quiet_makeChild hok h
  exact hok.quiet hquiet htree (by omega) hifs hifCount.ge (by rw [hserver])

/-- What `manage` does. -/
theorem manage_cases {o : Nat} (h : w.manage root n o = some w') :
    ∃ node, w.nodes n = some node ∧ o < w.objectCount ∧ w' = { w with
      nodes := Function.update w.nodes n (some { node with managing := some o })
      server :=
        if node.attached then w.server.setManaging (fullName root w.nodes n) (w.objects o)
        else w.server } := by
  obtain ⟨node, hn, h⟩ := Option.bind_eq_some_iff.mp h
  split at h
  next ho =>
    cases h
    exact ⟨node, hn, ho, rfl⟩
  · cases h

theorem quiet_manage {o : Nat} (h : w.manage root n o = some w') :
    w.nodes.Quiet w.nodeCount w'.nodes ∧ (w.nodes.Ok w.nodeCount → w'.nodes.Ok w.nodeCount) ∧
      w'.nodeCount = w.nodeCount ∧ w'.interfaces = w.interfaces ∧
      w'.interfaceCount = w.interfaceCount ∧ w'.server.nodes = w.server.nodes := by
  obtain ⟨node, hn, -, rfl⟩ := manage_cases h
  refine ⟨Nodes.quiet_update hn rfl rfl rfl rfl, fun htree => htree.update hn rfl rfl, rfl, rfl, rfl,
    ?_⟩
  show (if node.attached then _ else _ : Server).nodes = _
  split
  · exact Server.setManaging_nodes _
  · rfl

theorem Ok.manage {o : Nat} (hok : w.Ok root) (h : w.manage root n o = some w') : w'.Ok root := by
  obtain ⟨hquiet, htree, hcount, hifs, hifCount, hserver⟩ := quiet_manage h
  exact hok.quiet hquiet (hcount ▸ htree hok.tree) hcount.ge hifs hifCount.ge hserver

/-- An operation on one node, its interfaces and its entries in the table. -/
theorem Ok.change (node' : Node n) {interfaces : Nat → Option Interface} {count : Nat}
    {server : Server} (hok : w.Ok root) (hn : w.nodes n = some node)
    (hname : node'.name = node.name) (hparent : node'.parent = node.parent)
    (hchildren : node'.children = node.children)
    (hatt : node.attached → node'.attached)
    (hifLt : ∀ k i, interfaces k = some i → k < count)
    (hothers : ∀ k i, i.owner ≠ some n → (interfaces k = some i ↔ w.interfaces k = some i))
    (howned : ∀ name k, node'.interfaces.find? name = some k →
      interfaces k = some { name := name, owner := some n })
    (howner : ∀ k i, interfaces k = some i → i.owner = some n →
      node'.interfaces.find? i.name = some k)
    (hserver : server.Ok)
    (hreg : ∀ path i, server.Registered path i ↔
      (w.server.Registered path i ∧
        ¬ (path = fullName root w.nodes n ∧ node.attached ∧ (node.interfaces.find? i).isSome)) ∨
      (path = fullName root w.nodes n ∧ node'.attached ∧ (node'.interfaces.find? i).isSome))
    (hfresh : ∀ i, node'.attached → (node'.interfaces.find? i).isSome →
      (node.attached ∧ (node.interfaces.find? i).isSome) ∨
        ¬ w.server.Registered (fullName root w.nodes n) i)
    (hobj : ∀ path m, server.object path = some m → w.server.object path = some m ∨
      (path = fullName root w.nodes n ∧ m = n ∧ node'.attached)) :
    Ok root { w with
      nodes := Function.update w.nodes n (some node')
      interfaces := interfaces
      interfaceCount := count
      server := server } := by
  have hkept := Nodes.kept_update hn hname hparent
  have hfull := fun m hm => hkept.fullName_eq root hok.tree (m := m) hm
  have hnsome : (w.nodes n).isSome := by rw [hn]; rfl
  have hholds : ∀ m path i, Holds root (Function.update w.nodes n (some node')) m path i ↔
      (m ≠ n ∧ Holds root w.nodes m path i) ∨
        (m = n ∧ node'.attached ∧ fullName root w.nodes n = path ∧
          (node'.interfaces.find? i).isSome) :=
    fun m path i => holds_update_iff node' hok.tree hn hname hparent
  have hother : ∀ {m} {other : Node m}, m ≠ n →
      Function.update w.nodes n (some node') m = some other → w.nodes m = some other := by
    intro m other hmn hm
    rwa [Function.update_of_ne hmn] at hm
  have hself : ∀ {other : Node n}, Function.update w.nodes n (some node') n = some other →
      other = node' := by
    intro other hm
    rw [Function.update_self, Option.some_inj] at hm
    exact hm.symm
  refine {
    tree := hok.tree.update hn hparent hchildren
    interface_lt := fun {k i} h => hifLt k i h
    owned := fun {m other name k} hm hk => ?_
    owner := fun {k i m other} hk hi hm => ?_
    owner_lt := fun {k i m} hk hi => ?_
    nonempty := hserver
    registered := fun path name => ?_
    unique := fun {m m' path name} hm hm' => ?_
    object_lt := fun {path m} h => ?_
    object_place := fun {path m other} h hm => ?_ }
  · by_cases hmn : m = n
    · subst hmn
      rw [hself hm] at hk
      exact howned name k hk
    · refine (hothers k _ ?_).mpr (hok.owned (hother hmn hm) hk)
      rw [ne_eq, Option.some_inj]
      exact hmn
  · by_cases hmn : m = n
    · subst hmn
      rw [hself hm]
      exact howner k i hk hi
    · have hin : i.owner ≠ some n := by
        rw [hi, ne_eq, Option.some_inj]
        exact hmn
      exact hok.owner ((hothers k i hin).mp hk) hi (hother hmn hm)
  · by_cases hmn : m = n
    · subst hmn
      exact hok.tree.lt hn
    · have hin : i.owner ≠ some n := by
        rw [hi, ne_eq, Option.some_inj]
        exact hmn
      exact hok.owner_lt ((hothers k i hin).mp hk) hi
  · show server.Registered path name ↔ _
    rw [hreg]
    constructor
    · rintro (⟨hold, hnot⟩ | ⟨rfl, hatt', hi⟩)
      · obtain ⟨m, hm⟩ := (hok.registered path name).mp hold
        refine ⟨m, (hholds m path name).mpr (.inl ⟨?_, hm⟩)⟩
        rintro rfl
        obtain ⟨other, hother', hatt', hpath, hi⟩ := hm
        rw [hn, Option.some_inj] at hother'
        subst hother'
        exact hnot ⟨hpath.symm, hatt', hi⟩
      · exact ⟨n, (hholds n _ name).mpr (.inr ⟨rfl, hatt', rfl, hi⟩)⟩
    · rintro ⟨m, hm⟩
      rcases (hholds m path name).mp hm with ⟨hmn, hm⟩ | ⟨-, hatt', hpath, hi⟩
      · refine .inl ⟨(hok.registered path name).mpr ⟨m, hm⟩, ?_⟩
        rintro ⟨hpath, hatt', hi⟩
        exact hmn (hok.unique hm ⟨node, hn, hatt', hpath.symm, hi⟩)
      · exact .inr ⟨hpath.symm, hatt', hi⟩
  · -- whoever holds it besides the node has it registered
    have hclash : ∀ {a}, a ≠ n → Holds root w.nodes a path name → node'.attached →
        fullName root w.nodes n = path → (node'.interfaces.find? name).isSome → False := by
      intro a han ha hatt' hpath hi
      rcases hfresh name hatt' hi with ⟨hatt'', hi'⟩ | hnot
      · exact han (hok.unique ha ⟨node, hn, hatt'', hpath, hi'⟩)
      · rw [hpath] at hnot
        exact hnot ((hok.registered path name).mpr ⟨a, ha⟩)
    rcases (hholds m path name).mp hm with ⟨hmn, hold⟩ | ⟨rfl, hatt', hpath, hi⟩
    · rcases (hholds m' path name).mp hm' with ⟨-, hold'⟩ | ⟨rfl, hatt', hpath, hi⟩
      · exact hok.unique hold hold'
      · exact (hclash hmn hold hatt' hpath hi).elim
    · rcases (hholds m' path name).mp hm' with ⟨hmn', hold'⟩ | ⟨rfl, -⟩
      · exact (hclash hmn' hold' hatt' hpath hi).elim
      · rfl
  · rcases hobj path m h with hold | ⟨-, rfl, -⟩
    · exact hok.object_lt hold
    · exact hok.tree.lt hn
  · by_cases hmn : m = n
    · subst hmn
      rw [hself hm]
      show node'.attached ∧ fullName root (Function.update w.nodes m (some node')) m = path
      rw [hfull m hnsome]
      rcases hobj path m h with hold | ⟨rfl, -, hatt'⟩
      · obtain ⟨hatt', hpath⟩ := hok.object_place hold hn
        exact ⟨hatt hatt', hpath⟩
      · exact ⟨hatt', rfl⟩
    · have hm' := hother hmn hm
      show other.attached ∧ fullName root (Function.update w.nodes n (some node')) m = path
      rw [hfull m (by rw [hm']; rfl)]
      rcases hobj path m h with hold | ⟨-, rfl, -⟩
      · exact hok.object_place hold hm'
      · exact absurd rfl hmn

theorem stringLess_linear : Config.stringLess.Linear :=
  KeyLess.on_linear fun _ _ h => h

/-- What `add_server` does: nothing to the table, or all interfaces of the node are added. -/
theorem addServer_cases {registers : String → Bool} (hok : w.Ok root)
    (h : w.addServer root n registers = some w') :
    ∃ node, w.nodes n = some node ∧
      ((∃ server, w' = { w with server := server } ∧ server.nodes = w.server.nodes ∧
        (¬ node.attached → (addInterfaces (managedAddress w.nodes w.objects) (fullName root w.nodes n) n
          registers node.interfaces.keys w.server).2 = false)) ∨
      ∃ server, ¬ node.attached ∧
        addInterfaces (managedAddress w.nodes w.objects) (fullName root w.nodes n) n registers
          node.interfaces.keys w.server = (server, true) ∧
        w' = { w with
          nodes := Function.update w.nodes n (some { node with attached := true })
          server := server }) := by
  obtain ⟨node, hn, h⟩ := Option.bind_eq_some_iff.mp h
  refine ⟨node, hn, ?_⟩
  by_cases hatt : node.attached
  · rw [if_pos hatt] at h
    cases h
    exact .inl ⟨w.server, rfl, rfl, fun hnot => absurd hatt hnot⟩
  · rw [if_neg hatt] at h
    cases hadd : addInterfaces (managedAddress w.nodes w.objects) (fullName root w.nodes n) n
      registers node.interfaces.keys w.server with
    | mk server done =>
      rw [hadd] at h
      rcases addInterfaces_cases (SortedMap.nodup_keys _) hok.nonempty hadd with
        ⟨rfl, hnodes⟩ | ⟨rfl, -⟩
      · cases h
        exact .inl ⟨server, rfl, hnodes, fun _ => rfl⟩
      · cases h
        exact .inr ⟨server, hatt, rfl, rfl⟩

theorem mem_interfaces_keys {i : String} :
    i ∈ node.interfaces.keys ↔ (node.interfaces.find? i).isSome :=
  SortedMap.mem_keys_iff stringLess_linear

theorem Ok.addServer {registers : String → Bool} (hok : w.Ok root)
    (h : w.addServer root n registers = some w') : w'.Ok root := by
  obtain ⟨node, hn, ⟨server, rfl, hnodes, -⟩ | ⟨server, hatt, hadd, rfl⟩⟩ := addServer_cases hok h
  · exact hok.quiet Nodes.quiet_refl hok.tree le_rfl rfl le_rfl hnodes
  · rcases addInterfaces_cases (SortedMap.nodup_keys _) hok.nonempty hadd with
      ⟨hfalse, -⟩ | ⟨-, hserver, -, hnew, hreg, hobj⟩
    · cases hfalse
    · refine hok.change { node with attached := true } hn rfl rfl rfl
        (fun _ => rfl) (fun k i => hok.interface_lt) (fun _ _ _ => Iff.rfl)
        (fun name k (hk : node.interfaces.find? name = some k) => hok.owned hn hk)
        (fun k i hk hi => show (node.interfaces.find? i.name) = some k from hok.owner hk hi hn) hserver ?_ ?_ ?_
      · intro path i
        rw [hreg, mem_interfaces_keys]
        simp [hatt]
      · intro i _ hi
        exact .inr (hnew i (mem_interfaces_keys.mpr hi))
      · intro path m hm
        rw [hobj] at hm
        split at hm
        next hpath =>
          cases hold : w.server.object (fullName root w.nodes n) with
          | none =>
            rw [hold] at hm
            exact .inr ⟨hpath.1, (Option.some_inj.mp hm).symm, rfl⟩
          | some old =>
            rw [hold, Option.getD_some] at hm
            rw [hpath.1, hold]
            exact .inl hm
        · exact .inl hm

/-- A map with an entry at a new key. -/
theorem find?_emplace_new {β : Type} {interfaces : SortedMap String β Config.stringLess}
    {name i : String} {k : β} (h : interfaces.find? name = none) :
    (interfaces.emplace name k).find? i = if i = name then some k else interfaces.find? i := by
  rw [SortedMap.find?_emplace stringLess_linear.weak]
  by_cases hi : i = name
  · subst hi
    rw [if_pos ⟨(SortedMap.equiv_iff stringLess_linear).mpr rfl, h⟩, if_pos rfl]
  · rw [if_neg hi, if_neg]
    rintro ⟨heq, -⟩
    exact hi ((SortedMap.equiv_iff stringLess_linear).mp heq).symm

/-- A map without the entry of a key. -/
theorem find?_erase_ite {β : Type} {interfaces : SortedMap String β Config.stringLess}
    {name i : String} :
    (interfaces.erase name).find? i = if i = name then none else interfaces.find? i := by
  by_cases hi : i = name
  · subst hi
    rw [SortedMap.find?_erase_self stringLess_linear, if_pos rfl]
  · rw [SortedMap.find?_erase_of_ne stringLess_linear hi, if_neg hi]

/-- What `make_interface` does: nothing, where it throws, or an interface is added. -/
theorem makeInterface_cases {name : String} {registers : Bool}
    (h : w.makeInterface root n name registers = some w') :
    (w' = { w with interfaceCount := w.interfaceCount + 1 } ∧
      ∀ node, w.nodes n = some node → node.attached → node.interfaces.find? name = none →
        w.server.addInterface (fullName root w.nodes n) n name registers = none) ∨
      ∃ node server, w.nodes n = some node ∧ node.interfaces.find? name = none ∧
        (if node.attached then
          w.server.addInterface (fullName root w.nodes n) n name registers = some server
        else server = w.server) ∧
        w' = { w with
          nodes := Function.update w.nodes n
            (some { node with interfaces := node.interfaces.emplace name w.interfaceCount })
          interfaces := Function.update w.interfaces w.interfaceCount
            (some { name := name, owner := some n })
          interfaceCount := w.interfaceCount + 1
          server := server } := by
  obtain ⟨node, hn, h⟩ := Option.bind_eq_some_iff.mp h
  cases hfind : node.interfaces.find? name with
  | some k =>
    rw [hfind] at h
    cases h
    refine .inl ⟨rfl, fun other hother _ hnone => ?_⟩
    rw [hn, Option.some_inj] at hother
    rw [← hother, hfind] at hnone
    cases hnone
  | none =>
    rw [hfind] at h
    by_cases hatt : node.attached
    · cases hadd : w.server.addInterface (fullName root w.nodes n) n name registers with
      | none =>
        simp only [Option.isSome_none, Bool.false_eq_true, if_false, if_pos hatt, hadd] at h
        cases h
        exact .inl ⟨rfl, fun _ _ _ _ => rfl⟩
      | some server =>
        simp only [Option.isSome_none, Bool.false_eq_true, if_false, if_pos hatt, hadd] at h
        cases h
        exact .inr ⟨node, server, hn, hfind, by rw [if_pos hatt], rfl⟩
    · simp only [Option.isSome_none, Bool.false_eq_true, if_false, if_neg hatt] at h
      cases h
      exact .inr ⟨node, w.server, hn, hfind, by rw [if_neg hatt], rfl⟩

theorem Ok.makeInterface {name : String} {registers : Bool} (hok : w.Ok root)
    (h : w.makeInterface root n name registers = some w') : w'.Ok root := by
  rcases makeInterface_cases h with ⟨rfl, -⟩ | ⟨node, server, hn, hnone, hadd, rfl⟩
  · exact hok.quiet Nodes.quiet_refl hok.tree le_rfl rfl (Nat.le_succ _) rfl
  · have hfind := fun i => find?_emplace_new (k := w.interfaceCount) (i := i) hnone
    have hne : ∀ {k i}, w.interfaces k = some i → k ≠ w.interfaceCount :=
      fun h => (hok.interface_lt h).ne
    refine hok.change _ hn rfl rfl rfl id ?_ ?_ ?_ ?_ ?_ ?_ ?_ ?_
    · intro k i hk
      by_cases hkc : k = w.interfaceCount
      · rw [hkc]
        exact Nat.lt_succ_self _
      · rw [Function.update_of_ne hkc] at hk
        exact Nat.lt_succ_of_lt (hok.interface_lt hk)
    · intro k i hin
      by_cases hkc : k = w.interfaceCount
      · subst hkc
        rw [Function.update_self]
        constructor
        · rintro ⟨rfl⟩
          exact absurd rfl hin
        · intro hk
          exact absurd rfl (hne hk)
      · rw [Function.update_of_ne hkc]
    · intro i k hk
      rw [hfind] at hk
      split at hk
      next hi =>
        cases hk
        rw [Function.update_self, hi]
      · have hold := hok.owned hn hk
        rw [Function.update_of_ne (hne hold)]
        exact hold
    · intro k i hk hi
      rw [hfind]
      by_cases hkc : k = w.interfaceCount
      · subst hkc
        rw [Function.update_self, Option.some_inj] at hk
        rw [← hk, if_pos rfl]
      · rw [Function.update_of_ne hkc] at hk
        have hold := hok.owner hk hi hn
        rw [if_neg]
        · exact hold
        · rintro rfl
          rw [hnone] at hold
          cases hold
    · split at hadd
      · exact hok.nonempty.addInterface hadd
      · rw [hadd]
        exact hok.nonempty
    · intro path i
      have hsome : ((node.interfaces.emplace name w.interfaceCount).find? i).isSome ↔
          i = name ∨ (node.interfaces.find? i).isSome := by
        rw [hfind]
        split <;> simp_all
      have hold : node.attached → (node.interfaces.find? i).isSome →
          w.server.Registered (fullName root w.nodes n) i :=
        fun hatt hi => (hok.registered _ _).mpr ⟨n, node, hn, hatt, rfl, hi⟩
      rw [hsome]
      split at hadd
      next hatt =>
        rw [Server.registered_addInterface hadd]
        constructor
        · rintro (hreg | ⟨hpath, hi⟩)
          · by_cases hheld : path = fullName root w.nodes n ∧ (node.interfaces.find? i).isSome
            · exact .inr ⟨hheld.1, hatt, .inr hheld.2⟩
            · exact .inl ⟨hreg, fun h => hheld ⟨h.1, h.2.2⟩⟩
          · exact .inr ⟨hpath, hatt, .inl hi⟩
        · rintro (⟨hreg, -⟩ | ⟨rfl, -, rfl | hi⟩)
          · exact .inl hreg
          · exact .inr ⟨rfl, rfl⟩
          · exact .inl (hold hatt hi)
      next hatt =>
        rw [hadd]
        simp [hatt]
    · intro i hatt hi
      rw [hfind] at hi
      split at hi
      next hin =>
        rw [if_pos hatt] at hadd
        rw [hin]
        exact .inr (Server.addInterface_eq_some hadd).1
      · exact .inl ⟨hatt, hi⟩
    · intro path m hm
      split at hadd
      next hatt =>
        rw [Server.object_addInterface hadd] at hm
        split at hm
        next hpath =>
          cases hold : w.server.object (fullName root w.nodes n) with
          | none =>
            rw [hold] at hm
            exact .inr ⟨hpath, (Option.some_inj.mp hm).symm, hatt⟩
          | some old =>
            rw [hold, Option.getD_some] at hm
            rw [hpath, hold]
            exact .inl hm
        · exact .inl hm
      · rw [hadd] at hm
        exact .inl hm

/-- What `~interface` does. -/
theorem destroyInterface_cases {k : Nat} (hok : w.Ok root)
    (h : w.destroyInterface root k = some w') :
    ∃ interface, w.interfaces k = some interface ∧
      ((∀ n, interface.owner = some n → w.nodes n = none) ∧
        w' = { w with interfaces := Function.update w.interfaces k none } ∨
      ∃ n node, interface.owner = some n ∧ w.nodes n = some node ∧
        node.interfaces.find? interface.name = some k ∧
        w' = { w with
          nodes := Function.update w.nodes n
            (some { node with interfaces := node.interfaces.erase interface.name })
          interfaces := Function.update w.interfaces k none
          server :=
            if node.attached then
              w.server.dropInterface (managedAddress w.nodes w.objects) (fullName root w.nodes n)
                interface.name
            else w.server }) := by
  obtain ⟨interface, hk, h⟩ := Option.bind_eq_some_iff.mp h
  refine ⟨interface, hk, ?_⟩
  cases hi : interface.owner with
  | none =>
    simp only [hi] at h
    cases h
    exact .inl ⟨fun n h => absurd h (by simp), rfl⟩
  | some n =>
    simp only [hi] at h
    cases hn : w.nodes n with
    | none =>
      simp only [hn] at h
      cases h
      refine .inl ⟨fun m h => ?_, rfl⟩
      rw [Option.some_inj] at h
      rw [← h, hn]
    | some node =>
      have hfind := hok.owner hk hi hn
      simp only [hn, hfind, Option.isSome_some, if_true] at h
      cases h
      exact .inr ⟨n, node, rfl, hn, hfind, rfl⟩

theorem Ok.destroyInterface {k : Nat} (hok : w.Ok root)
    (h : w.destroyInterface root k = some w') : w'.Ok root := by
  obtain ⟨interface, hk, ⟨hdead, rfl⟩ | ⟨n, node, hi, hn, hfind, rfl⟩⟩ :=
    destroyInterface_cases hok h
  · have hof : ∀ {l i}, Function.update w.interfaces k none l = some i →
        l ≠ k ∧ w.interfaces l = some i := by
      intro l i hl
      by_cases hlk : l = k
      · subst hlk
        rw [Function.update_self] at hl
        cases hl
      · rw [Function.update_of_ne hlk] at hl
        exact ⟨hlk, hl⟩
    exact { hok with
      interface_lt := fun hl => hok.interface_lt (hof hl).2
      owned := fun {m other name l} hm hl => by
        have hold := hok.owned hm hl
        have hlk : l ≠ k := by
          rintro rfl
          rw [hk, Option.some_inj] at hold
          have hnone := hdead m (by rw [hold])
          rw [hm] at hnone
          cases hnone
        show Function.update w.interfaces k none l = _
        rw [Function.update_of_ne hlk, hold]
      owner := fun hl => hok.owner (hof hl).2
      owner_lt := fun hl => hok.owner_lt (hof hl).2 }
  · have herase : ∀ i, (node.interfaces.erase interface.name).find? i =
        if i = interface.name then none else node.interfaces.find? i := fun i => find?_erase_ite
    have hsome : ∀ i, ((node.interfaces.erase interface.name).find? i).isSome ↔
        i ≠ interface.name ∧ (node.interfaces.find? i).isSome := by
      intro i
      rw [herase]
      split <;> simp_all
    refine hok.change _ hn rfl rfl rfl id ?_ ?_ ?_ ?_ ?_ ?_ ?_ ?_
    · intro l i hl
      by_cases hlk : l = k
      · subst hlk
        rw [Function.update_self] at hl
        cases hl
      · rw [Function.update_of_ne hlk] at hl
        exact hok.interface_lt hl
    · intro l i hin
      by_cases hlk : l = k
      · subst hlk
        rw [Function.update_self, hk, Option.some_inj]
        constructor
        · intro h
          cases h
        · rintro rfl
          exact absurd hi hin
      · rw [Function.update_of_ne hlk]
    · intro i l hl
      rw [herase] at hl
      split at hl
      · cases hl
      next hne =>
        have hold := hok.owned hn hl
        rw [Function.update_of_ne, hold]
        rintro rfl
        rw [hk, Option.some_inj] at hold
        exact hne (by rw [hold])
    · intro l i hl hi'
      by_cases hlk : l = k
      · subst hlk
        rw [Function.update_self] at hl
        cases hl
      · rw [Function.update_of_ne hlk] at hl
        have hold := hok.owner hl hi' hn
        rw [herase, if_neg]
        · exact hold
        · intro heq
          rw [heq, hfind, Option.some_inj] at hold
          exact hlk hold.symm
    · show Server.Ok (if node.attached then _ else _)
      split
      · exact hok.nonempty.dropInterface
      · exact hok.nonempty
    · intro path i
      have hold : node.attached → (node.interfaces.find? i).isSome →
          w.server.Registered (fullName root w.nodes n) i :=
        fun hatt hi => (hok.registered _ _).mpr ⟨n, node, hn, hatt, rfl, hi⟩
      rw [hsome]
      split
      next hatt =>
        rw [Server.registered_dropInterface]
        constructor
        · rintro ⟨hreg, hnot⟩
          by_cases hheld : path = fullName root w.nodes n ∧ (node.interfaces.find? i).isSome
          · exact .inr ⟨hheld.1, hatt, fun heq => hnot ⟨hheld.1, heq⟩, hheld.2⟩
          · exact .inl ⟨hreg, fun h => hheld ⟨h.1, h.2.2⟩⟩
        · rintro (⟨hreg, hnot⟩ | ⟨rfl, -, hne, hi⟩)
          · refine ⟨hreg, ?_⟩
            rintro ⟨hpath, rfl⟩
            exact hnot ⟨hpath, hatt, by rw [hfind]; rfl⟩
          · exact ⟨hold hatt hi, fun h => hne h.2⟩
      next hatt => simp [hatt]
    · intro i hatt hi'
      exact .inl ⟨hatt, ((hsome i).mp hi').2⟩
    · intro path m hm
      split at hm
      · exact .inl (Server.object_dropInterface hm)
      · exact .inl hm

theorem Ok.destroyNode (hok : w.Ok root) (h : w.destroyNode root n = some w') : w'.Ok root := by
  obtain ⟨node, hn, h⟩ := Option.bind_eq_some_iff.mp h
  cases h
  have hholds : ∀ m path name, Holds root (removeNode w.nodes node) m path name ↔
      m ≠ n ∧ Holds root w.nodes m path name :=
    fun m path name => holds_removeNode_iff hok.tree hn
  have hof : ∀ {m other'}, removeNode w.nodes node m = some other' →
      m ≠ n ∧ ∃ other, w.nodes m = some other ∧ adopt node other = other' := by
    intro m other' hm
    have hmn : m ≠ n := by
      rintro rfl
      rw [removeNode_self] at hm
      cases hm
    rw [removeNode_of_ne hmn, Option.map_eq_some_iff] at hm
    exact ⟨hmn, hm⟩
  refine { hok with
    tree := hok.tree.removeNode hn
    owned := fun {m other' name k} hm hk => ?_
    owner := fun {k i m other'} hk hi hm => ?_
    nonempty := ?_
    registered := fun path name => ?_
    unique := fun {a b path name} ha hb =>
      hok.unique ((hholds a path name).mp ha).2 ((hholds b path name).mp hb).2
    object_lt := fun {path m} h => ?_
    object_place := fun {path m other'} h hm => ?_ }
  · obtain ⟨-, other, hother, rfl⟩ := hof hm
    exact hok.owned hother (by simpa using hk)
  · obtain ⟨-, other, hother, rfl⟩ := hof hm
    simpa using hok.owner hk hi hother
  · show Server.Ok (if node.attached then _ else _)
    split
    · exact hok.nonempty.foldl_dropInterface
    · exact hok.nonempty
  · show Server.Registered (if node.attached then _ else _) path name ↔ _
    rw [exists_congr fun m => hholds m path name]
    split
    next hatt =>
      rw [Server.registered_foldl_dropInterface, hok.registered, mem_interfaces_keys]
      constructor
      · rintro ⟨⟨m, hm⟩, hnot⟩
        refine ⟨m, ?_, hm⟩
        rintro rfl
        obtain ⟨other, hother, -, hpath, hi⟩ := hm
        rw [hn, Option.some_inj] at hother
        subst hother
        exact hnot ⟨hpath.symm, hi⟩
      · rintro ⟨m, hmn, hm⟩
        refine ⟨⟨m, hm⟩, ?_⟩
        rintro ⟨hpath, hi⟩
        exact hmn (hok.unique hm ⟨node, hn, hatt, hpath.symm, hi⟩)
    next hatt =>
      rw [hok.registered]
      refine exists_congr fun m => ⟨fun hm => ⟨?_, hm⟩, And.right⟩
      rintro rfl
      obtain ⟨other, hother, hatt', -⟩ := hm
      rw [hn, Option.some_inj] at hother
      exact hatt (hother ▸ hatt')
  · have hold : w.server.object path = some m := by
      revert h
      show Server.object (if node.attached then _ else _) path = some m → _
      split
      · exact Server.object_foldl_dropInterface
      · exact id
    exact hok.object_lt hold
  · have hold : w.server.object path = some m := by
      revert h
      show Server.object (if node.attached then _ else _) path = some m → _
      split
      · exact Server.object_foldl_dropInterface
      · exact id
    obtain ⟨hmn, other, hother, rfl⟩ := hof hm
    obtain ⟨hatt, hpath⟩ := hok.object_place hold hother
    refine ⟨by simpa using hatt, ?_⟩
    exact (hok.tree.fullName_removeNode root hn hmn (by rw [hother]; rfl)).trans hpath

/-- Every operation keeps the invariant. -/
theorem Ok.step {op : Op} (hok : w.Ok root) (h : (machine root).step w op = some w') :
    w'.Ok root := by
  cases op with
  | makeRoot name =>
    cases h
    exact hok.makeRoot name
  | makeChild p name => exact hok.makeChild h
  | addServer n registers => exact hok.addServer h
  | makeInterface n name registers => exact hok.makeInterface h
  | destroyInterface k => exact hok.destroyInterface h
  | manage n o => exact hok.manage h
  | destroyNode n => exact hok.destroyNode h
  | makeObject address => exact hok.makeObject h
  | destroyObject o => exact hok.destroyObject h

theorem ok_of_reachable (h : (machine root).Reachable w) : w.Ok root :=
  Machine.invariant (ok_init root) (fun _ _ _ hok hstep => hok.step hstep) h

/-- The server has registered exactly what the nodes hold, each interface for one node. -/
theorem registered_iff_existsUnique {path name : String} (h : (machine root).Reachable w) :
    w.server.Registered path name ↔ ∃! n, Holds root w.nodes n path name := by
  have hok := ok_of_reachable h
  rw [hok.registered]
  constructor
  · rintro ⟨n, hn⟩
    exact ⟨n, hn, fun m hm => hok.unique hm hn⟩
  · rintro ⟨n, hn, -⟩
    exact ⟨n, hn⟩

/-- A device is made, its node gets an interface and then the device. -/
def deviceOps : List Op :=
  [.makeRoot "devices", .addServer 0 fun _ => true, .makeChild 0 "0", .makeObject 7,
    .makeInterface 1 "Device" true, .manage 1 0]

/-- The interface of the device. -/
theorem registered_iff_existsUnique_device : ∃ w, (machine "/root").run {} deviceOps = some w ∧
    (w.server.Registered "/root/devices/0" "Device" ↔
      ∃! n, Holds "/root" w.nodes n "/root/devices/0" "Device") :=
  ⟨_, rfl, registered_iff_existsUnique ⟨deviceOps, rfl⟩⟩

/-! ## Names along a run -/

/-- Of the nodes that were made before a step, those that are there after it were there before it,
under the same full name. -/
def KeepsNames (root : String) (w w' : World) : Prop :=
  ∀ n < w.nodeCount, (w'.nodes n).isSome →
    (w.nodes n).isSome ∧ fullName root w'.nodes n = fullName root w.nodes n

theorem keepsNames_quiet (hok : w.Ok root) (h : w.nodes.Quiet w.nodeCount w'.nodes) :
    KeepsNames root w w' := by
  intro n hlt hn
  obtain ⟨node', hnode'⟩ := Option.isSome_iff_exists.mp hn
  rcases h.new n node' hnode' with hsome | ⟨hnew, -⟩
  · exact ⟨hsome, h.toKept.fullName_eq root hok.tree hsome⟩
  · omega

theorem keepsNames_update (node' : Node n) (hok : w.Ok root) (hn : w.nodes n = some node)
    (hname : node'.name = node.name) (hparent : node'.parent = node.parent)
    (hnodes : w'.nodes = Function.update w.nodes n (some node')) : KeepsNames root w w' := by
  intro m _ hm
  rw [hnodes] at hm ⊢
  have hsome : (w.nodes m).isSome := by
    by_cases hmn : m = n
    · subst hmn
      rw [hn]
      rfl
    · rwa [Function.update_of_ne hmn] at hm
  exact ⟨hsome, (Nodes.kept_update hn hname hparent).fullName_eq root hok.tree hsome⟩

theorem keepsNames_same (hnodes : w'.nodes = w.nodes) : KeepsNames root w w' := by
  intro m _ hm
  rw [hnodes] at hm ⊢
  exact ⟨hm, rfl⟩

theorem keepsNames_step {op : Op} (hok : w.Ok root) (h : (machine root).step w op = some w') :
    w.nodeCount ≤ w'.nodeCount ∧ KeepsNames root w w' := by
  cases op with
  | makeRoot name =>
    cases h
    exact ⟨Nat.le_succ _, keepsNames_quiet hok (Nodes.quiet_new (hok.tree.eq_none le_rfl) rfl)⟩
  | makeChild p name =>
    obtain ⟨hquiet, -, hcount, -⟩ := quiet_makeChild hok h
    exact ⟨by omega, keepsNames_quiet hok hquiet⟩
  | addServer n registers =>
    obtain ⟨node, hn, ⟨server, rfl, -⟩ | ⟨server, -, -, rfl⟩⟩ := addServer_cases hok h
    · exact ⟨le_rfl, keepsNames_same rfl⟩
    · exact ⟨le_rfl, keepsNames_update { node with attached := true } hok hn rfl rfl rfl⟩
  | makeInterface n name registers =>
    rcases makeInterface_cases h with ⟨rfl, -⟩ | ⟨node, server, hn, -, -, rfl⟩
    · exact ⟨le_rfl, keepsNames_same rfl⟩
    · exact ⟨le_rfl, keepsNames_update { node with
        interfaces := node.interfaces.emplace name w.interfaceCount } hok hn rfl rfl rfl⟩
  | destroyInterface k =>
    obtain ⟨interface, -, ⟨-, rfl⟩ | ⟨n, node, -, hn, -, rfl⟩⟩ := destroyInterface_cases hok h
    · exact ⟨le_rfl, keepsNames_same rfl⟩
    · exact ⟨le_rfl, keepsNames_update { node with
        interfaces := node.interfaces.erase interface.name } hok hn rfl rfl rfl⟩
  | manage n o =>
    obtain ⟨hquiet, -, hcount, -⟩ := quiet_manage h
    exact ⟨hcount.ge, keepsNames_quiet hok hquiet⟩
  | destroyNode n =>
    obtain ⟨node, hn, heq⟩ := Option.bind_eq_some_iff.mp h
    cases heq
    refine ⟨le_rfl, fun m _ hm => ?_⟩
    have hmn : m ≠ n := by
      rintro rfl
      rw [show (_ : World).nodes m = removeNode w.nodes node m from rfl, removeNode_self] at hm
      cases hm
    have hsome : (w.nodes m).isSome := by
      have hm' : (removeNode w.nodes node m).isSome := hm
      rwa [isSome_removeNode hmn] at hm'
    exact ⟨hsome, hok.tree.fullName_removeNode root hn hmn hsome⟩
  | makeObject address =>
    rw [show (machine root).step w (.makeObject address) = w.makeObject address from rfl,
      makeObject] at h
    split at h
    · cases h
    · cases h
      exact ⟨le_rfl, keepsNames_same rfl⟩
  | destroyObject o =>
    obtain ⟨address, -, h⟩ := Option.bind_eq_some_iff.mp h
    cases h
    exact ⟨le_rfl, keepsNames_same rfl⟩

/-- A node keeps its full name for as long as it is there, whatever becomes of its ancestors. -/
theorem fullName_run {ops : List Op} (hreach : (machine root).Reachable w)
    (h : (machine root).run w ops = some w') {m : Nat} (hm : (w.nodes m).isSome)
    (hm' : (w'.nodes m).isSome) : fullName root w'.nodes m = fullName root w.nodes m := by
  have hok := ok_of_reachable hreach
  obtain ⟨first, hfirst⟩ := Option.isSome_iff_exists.mp hm
  let I : World → Prop := fun u => u.Ok root ∧ m < u.nodeCount ∧
    ((u.nodes m).isSome → fullName root u.nodes m = fullName root w.nodes m)
  have hinv : I w' := by
    refine Machine.run_invariant (I := I) ?_ ⟨hok, hok.tree.lt hfirst, fun _ => rfl⟩ h
    rintro u op t ⟨huok, hlt, hname⟩ hstep
    obtain ⟨hcount, hkeep⟩ := keepsNames_step huok hstep
    refine ⟨huok.step hstep, hlt.trans_le hcount, fun ht => ?_⟩
    obtain ⟨hu, heq⟩ := hkeep m hlt ht
    exact heq.trans (hname hu)
  exact hinv.2.2 hm'

/-- A node keeps its full name when its parent goes. -/
theorem fullName_run_orphan : ∃ w w', (machine "/root").run {} deviceOps = some w ∧
    (machine "/root").run w [.destroyNode 0] = some w' ∧
    fullName "/root" w'.nodes 1 = fullName "/root" w.nodes 1 :=
  ⟨_, _, rfl, rfl, @fullName_run _ _ _ [.destroyNode 0] ⟨deviceOps, rfl⟩ rfl 1 rfl rfl⟩

end World

end Logid.Ipcgull
