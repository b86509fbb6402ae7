import Logid.Ipcgull.Dispatch
import Logid.Ipcgull.Proofs.Registry
import Logid.Ipcgull.Proofs.Variant

/-!
# Which calls reach their interface

The server looks an interface up by way of the node that its path stands for, the first one to
register something there. A call reaches every interface in every state of a run exactly if nothing is
ever registered at a path that stands for another node.
-/

namespace Logid.Ipcgull

namespace World

variable {root : String} {w t : World}

theorem resolve_eq_ok_iff {path name : String} {k : Nat} (hok : w.Ok root) :
    w.resolve path name = .ok k ↔ ∃ n node, w.server.object path = some n ∧
      w.nodes n = some node ∧ node.interfaces.find? name = some k := by
  rw [resolve, Server.object]
  cases hpath : w.server.nodes path with
  | none => simp
  | some entry =>
    cases hnode : w.nodes entry.object with
    | none =>
      simp only [hnode, Option.map_some, Option.some_inj]
      constructor
      · intro h
        cases h
      · rintro ⟨n, node, rfl, hn, -⟩
        rw [hnode] at hn
        cases hn
    | some node =>
      cases hfind : node.interfaces.find? name with
      | none =>
        simp only [hnode, hfind, Option.map_some, Option.some_inj]
        constructor
        · intro h
          cases h
        · rintro ⟨n, other, rfl, hn, hk⟩
          rw [hnode, Option.some_inj] at hn
          rw [← hn, hfind] at hk
          cases hk
      | some l =>
        have hthere : (w.interfaces l).isSome := by
          rw [hok.owned hnode hfind]
          rfl
        simp only [hnode, hfind, hthere, if_true, Option.map_some, Option.some_inj, Except.ok.injEq]
        constructor
        · rintro rfl
          exact ⟨_, node, rfl, hnode, hfind⟩
        · rintro ⟨n, other, rfl, hn, hk⟩
          rw [hnode, Option.some_inj] at hn
          rw [← hn, hfind, Option.some_inj] at hk
          exact hk

/-- A held interface is found exactly if its path stands for its node. -/
theorem resolve_held_iff {n : Nat} {node : Node n} {name path : String} {k : Nat} (hok : w.Ok root)
    (hn : w.nodes n = some node) (hk : node.interfaces.find? name = some k) :
    w.resolve path name = .ok k ↔ w.server.object path = some n := by
  rw [resolve_eq_ok_iff hok]
  constructor
  · rintro ⟨m, other, hobj, hm, hk'⟩
    have hown := hok.owned hm hk'
    rw [hok.owned hn hk, Option.some_inj, Interface.mk.injEq, Option.some_inj] at hown
    rw [hobj, hown.2]
  · intro hobj
    exact ⟨n, node, hobj, hn, hk⟩

/-- A call finds every interface that a node with the server has. -/
def Dispatches (root : String) (w : World) : Prop :=
  ∀ n node name k, w.nodes n = some node → node.attached → node.interfaces.find? name = some k →
    w.resolve (fullName root w.nodes n) name = .ok k

/-- Every path at which a node holds something stands for the node. -/
def OwnPaths (root : String) (w : World) : Prop :=
  ∀ n path name, Holds root w.nodes n path name → w.server.object path = some n

theorem dispatches_iff (hok : w.Ok root) : w.Dispatches root ↔ w.OwnPaths root := by
  constructor
  · rintro h n path name ⟨node, hn, hatt, rfl, hi⟩
    obtain ⟨k, hk⟩ := Option.isSome_iff_exists.mp hi
    exact (resolve_held_iff hok hn hk).mp (h n node name k hn hatt hk)
  · intro h n node name k hn hatt hk
    exact (resolve_held_iff hok hn hk).mpr
      (h n _ name ⟨node, hn, hatt, rfl, by rw [hk]; rfl⟩)

/-! ## Steps -/

/-- The operation registers interfaces of the node. -/
def Registers (root : String) (w : World) (n : Nat) : Op → Prop
  | .makeInterface m name registers => m = n ∧ ∃ node, w.nodes n = some node ∧ node.attached ∧
      node.interfaces.find? name = none ∧
      (w.server.addInterface (fullName root w.nodes n) n name registers).isSome
  | .addServer m registers => m = n ∧ ∃ node, w.nodes n = some node ∧ ¬ node.attached ∧
      node.interfaces.keys ≠ [] ∧
      (addInterfaces (managedAddress w.nodes w.objects) (fullName root w.nodes n) n registers
        node.interfaces.keys w.server).2
  | _ => False

/-- What the operation registers comes to a path that stands for no other node. -/
def RegistersOwn (root : String) (w : World) (op : Op) : Prop :=
  ∀ n, Registers root w n op →
    w.server.object (fullName root w.nodes n) = none ∨
      w.server.object (fullName root w.nodes n) = some n

/-- A step that registers nothing: what is held was held before, and a path that still has something
registered stands for the node that it stood for. -/
theorem ownPaths_of_shrink (hok : t.Ok root)
    (hholds : ∀ n path name, Holds root t.nodes n path name → Holds root w.nodes n path name)
    (hobj : ∀ path n, t.server.object path = some n → w.server.object path = some n)
    (h : w.OwnPaths root) : t.OwnPaths root := by
  intro n path name hheld
  obtain ⟨entry, hentry, -⟩ := (hok.registered path name).mpr ⟨n, hheld⟩
  have hafter : t.server.object path = some entry.object := by
    rw [Server.object, hentry]
    rfl
  have hbefore := hobj path entry.object hafter
  rw [h n path name (hholds n path name hheld), Option.some_inj] at hbefore
  rw [hafter, hbefore]

/-- A step that registers interfaces of one node. -/
theorem ownPaths_of_register {n : Nat} {names : List String}
    (hholds : ∀ m path name, Holds root t.nodes m path name ↔ Holds root w.nodes m path name ∨
      (m = n ∧ path = fullName root w.nodes n ∧ name ∈ names))
    (hnames : names ≠ [])
    (hobj : ∀ path, t.server.object path = if path = fullName root w.nodes n then
      some ((w.server.object (fullName root w.nodes n)).getD n) else w.server.object path)
    (h : w.OwnPaths root) :
    t.OwnPaths root ↔ w.server.object (fullName root w.nodes n) = none ∨
      w.server.object (fullName root w.nodes n) = some n := by
  have hself := hobj (fullName root w.nodes n)
  rw [if_pos rfl] at hself
  constructor
  · intro ht
    obtain ⟨name, hname⟩ := List.exists_mem_of_ne_nil _ hnames
    have hnew := ht n _ name ((hholds n _ name).mpr (.inr ⟨rfl, rfl, hname⟩))
    rw [hself, Option.some_inj] at hnew
    cases hold : w.server.object (fullName root w.nodes n) with
    | none => exact .inl rfl
    | some m =>
      rw [hold, Option.getD_some] at hnew
      rw [hnew]
      exact .inr rfl
  · intro hown m path name hm
    have hgetD : (w.server.object (fullName root w.nodes n)).getD n = n := by
      rcases hown with hnone | hsome
      · rw [hnone, Option.getD_none]
      · rw [hsome, Option.getD_some]
    rw [hgetD] at hself
    rcases (hholds m path name).mp hm with hold | ⟨rfl, rfl, -⟩
    · have hbefore := h m path name hold
      rw [hobj, hgetD]
      split
      next hpath =>
        -- whoever holds something there before is the node itself
        rw [hpath] at hbefore
        rcases hown with hnone | hsome
        · rw [hnone] at hbefore
          cases hbefore
        · rw [hsome] at hbefore
          exact hbefore
      · exact hbefore
    · exact hself

/-- A step that neither registers nor drops anything. -/
theorem ownPaths_quiet (hok : w.Ok root) (htok : t.Ok root)
    (hquiet : w.nodes.Quiet w.nodeCount t.nodes) (hserver : t.server.nodes = w.server.nodes)
    (h : w.OwnPaths root) : t.OwnPaths root := by
  refine ownPaths_of_shrink htok (fun n path name => (hquiet.holds_iff hok.tree).mp) ?_ h
  intro path n
  rw [Server.object, hserver]
  exact id

theorem ownPaths_addServer_iff {n : Nat} {registers : String → Bool} (hok : w.Ok root)
    (h : w.OwnPaths root) (hstep : w.addServer root n registers = some t) :
    t.OwnPaths root ↔ RegistersOwn root w (.addServer n registers) := by
  have htok := hok.addServer hstep
  obtain ⟨node, hn, ⟨server, rfl, hnodes, hfail⟩ | ⟨server, hatt, hadd, rfl⟩⟩ :=
    addServer_cases hok hstep
  · refine iff_of_true (ownPaths_quiet hok htok Nodes.quiet_refl hnodes h) ?_
    rintro m ⟨rfl, node', hn', hatt, -, hdone⟩
    rw [hn, Option.some_inj] at hn'
    subst hn'
    rw [hfail hatt] at hdone
    cases hdone
  · rcases addInterfaces_cases (SortedMap.nodup_keys _) hok.nonempty hadd with
      ⟨hfalse, -⟩ | ⟨-, -, -, -, -, hobj⟩
    · cases hfalse
    have hholds : ∀ m path name,
        Holds root (Function.update w.nodes n (some { node with attached := true })) m path name ↔
          Holds root w.nodes m path name ∨
            (m = n ∧ path = fullName root w.nodes n ∧ name ∈ node.interfaces.keys) := by
      intro m path name
      rw [holds_update_iff { node with attached := true } hok.tree hn rfl rfl,
        mem_interfaces_keys]
      constructor
      · rintro (⟨-, hold⟩ | ⟨hm, -, hpath, hi⟩)
        · exact .inl hold
        · exact .inr ⟨hm, hpath.symm, hi⟩
      · rintro (hold | ⟨hm, hpath, hi⟩)
        · refine .inl ⟨?_, hold⟩
          rintro rfl
          obtain ⟨node', hn', hatt', -⟩ := hold
          rw [hn, Option.some_inj] at hn'
          exact hatt (hn' ▸ hatt')
        · exact .inr ⟨hm, rfl, hpath.symm, hi⟩
    by_cases hnames : node.interfaces.keys = []
    · refine iff_of_true ?_ ?_
      · refine ownPaths_of_shrink htok ?_ ?_ h
        · intro m path name hm
          rcases (hholds m path name).mp hm with hold | ⟨-, -, hi⟩
          · exact hold
          · rw [hnames] at hi
            cases hi
        · intro path m hm
          simpa [hobj, hnames] using hm
      · rintro m ⟨rfl, node', hn', -, hkeys, -⟩
        rw [hn, Option.some_inj] at hn'
        exact absurd hnames (hn' ▸ hkeys)
    · rw [ownPaths_of_register hholds hnames (fun path => by rw [hobj]; simp [hnames]) h]
      constructor
      · rintro hown m ⟨rfl, -⟩
        exact hown
      · intro hown
        exact hown n ⟨rfl, node, hn, hatt, hnames, by rw [hadd]⟩

theorem ownPaths_makeInterface_iff {n : Nat} {name : String} {registers : Bool} (hok : w.Ok root)
    (h : w.OwnPaths root) (hstep : w.makeInterface root n name registers = some t) :
    t.OwnPaths root ↔ RegistersOwn root w (.makeInterface n name registers) := by
  have htok := hok.makeInterface hstep
  rcases makeInterface_cases hstep with ⟨rfl, hfail⟩ | ⟨node, server, hn, hnone, hadd, rfl⟩
  · refine iff_of_true (ownPaths_quiet hok htok Nodes.quiet_refl rfl h) ?_
    rintro m ⟨rfl, node, hn, hatt, hnone, hadd⟩
    rw [hfail node hn hatt hnone] at hadd
    cases hadd
  · have hfind := fun i => find?_emplace_new (k := w.interfaceCount) (i := i) hnone
    have hcases := fun m path i => @holds_update_iff root _ _ n m node path i
      { node with interfaces := node.interfaces.emplace name w.interfaceCount } hok.tree hn rfl rfl
    by_cases hatt : node.attached
    · rw [if_pos hatt] at hadd
      have hholds : ∀ m path i, Holds root (Function.update w.nodes n
          (some { node with interfaces := node.interfaces.emplace name w.interfaceCount })) m path i ↔
            Holds root w.nodes m path i ∨
              (m = n ∧ path = fullName root w.nodes n ∧ i ∈ [name]) := by
        intro m path i
        rw [hcases, List.mem_singleton, hfind]
        constructor
        · rintro (⟨-, hold⟩ | ⟨rfl, -, hpath, hi⟩)
          · exact .inl hold
          · by_cases hin : i = name
            · exact .inr ⟨rfl, hpath.symm, hin⟩
            · rw [if_neg hin] at hi
              exact .inl ⟨node, hn, hatt, hpath, hi⟩
        · rintro (hold | ⟨rfl, rfl, rfl⟩)
          · by_cases hmn : m = n
            · subst hmn
              obtain ⟨node', hn', -, hpath, hi⟩ := hold
              rw [hn, Option.some_inj] at hn'
              subst hn'
              refine .inr ⟨rfl, hatt, hpath, ?_⟩
              split
              · rfl
              · exact hi
            · exact .inl ⟨hmn, hold⟩
          · exact .inr ⟨rfl, hatt, rfl, by rw [if_pos rfl]; rfl⟩
      rw [ownPaths_of_register hholds (List.cons_ne_nil _ _) (Server.object_addInterface hadd) h]
      constructor
      · rintro hown m ⟨rfl, -⟩
        exact hown
      · intro hown
        exact hown n ⟨rfl, node, hn, hatt, hnone, by rw [hadd]; rfl⟩
    · rw [if_neg hatt] at hadd
      subst hadd
      refine iff_of_true (ownPaths_of_shrink (w := w) htok ?_ (fun _ _ => id) h) ?_
      · intro m path i hm
        rcases (hcases m path i).mp hm with ⟨-, hold⟩ | ⟨-, hatt', -⟩
        · exact hold
        · exact absurd hatt' hatt
      · rintro m ⟨rfl, node', hn', hatt', -⟩
        rw [hn, Option.some_inj] at hn'
        exact absurd (hn' ▸ hatt') hatt

theorem ownPaths_destroyInterface {k : Nat} (hok : w.Ok root) (h : w.OwnPaths root)
    (hstep : w.destroyInterface root k = some t) : t.OwnPaths root := by
  have htok := hok.destroyInterface hstep
  obtain ⟨interface, hk, ⟨-, rfl⟩ | ⟨n, node, hi, hn, hfind, rfl⟩⟩ :=
    destroyInterface_cases hok hstep
  · exact ownPaths_quiet hok htok Nodes.quiet_refl rfl h
  · refine ownPaths_of_shrink htok ?_ ?_ h
    · intro m path name hm
      have hcases := (holds_update_iff { node with
        interfaces := node.interfaces.erase interface.name } hok.tree hn rfl rfl).mp hm
      rcases hcases with ⟨-, hold⟩ | ⟨rfl, hatt, hpath, hi'⟩
      · exact hold
      · refine ⟨node, hn, hatt, hpath, ?_⟩
        rw [find?_erase_ite] at hi'
        split at hi'
        · cases hi'
        · exact hi'
    · intro path m
      show Server.object (if node.attached then _ else _) path = some m → _
      split
      · exact Server.object_dropInterface
      · exact id

theorem ownPaths_destroyNode {n : Nat} (hok : w.Ok root) (h : w.OwnPaths root)
    (hstep : w.destroyNode root n = some t) : t.OwnPaths root := by
  have htok := hok.destroyNode hstep
  obtain ⟨node, hn, heq⟩ := Option.bind_eq_some_iff.mp hstep
  cases heq
  refine ownPaths_of_shrink htok ?_ ?_ h
  · intro m path name hm
    exact ((holds_removeNode_iff hok.tree hn).mp hm).2
  · intro path m
    show Server.object (if node.attached then _ else _) path = some m → _
    split
    · exact Server.object_foldl_dropInterface
    · exact id

/-- A step keeps every held interface in reach exactly if what it registers comes to a path that stands
for no other node. -/
theorem ownPaths_step_iff {op : Op} (hok : w.Ok root) (h : w.OwnPaths root)
    (hstep : (machine root).step w op = some t) : t.OwnPaths root ↔ RegistersOwn root w op := by
  have htok := hok.step hstep
  cases op with
  | makeRoot name =>
    cases hstep
    have hquiet : w.nodes.Quiet w.nodeCount (Function.update w.nodes w.nodeCount
        (some { name := name })) := Nodes.quiet_new (hok.tree.eq_none le_rfl) rfl
    exact iff_of_true (ownPaths_quiet hok htok hquiet rfl h) (fun _ hn => hn.elim)
  | makeChild p name =>
    obtain ⟨hquiet, -, -, -, -, hserver⟩ := quiet_makeChild hok hstep
    exact iff_of_true (ownPaths_quiet hok htok hquiet (by rw [hserver]) h) (fun _ hn => hn.elim)
  | addServer n registers => exact ownPaths_addServer_iff hok h hstep
  | makeInterface n name registers => exact ownPaths_makeInterface_iff hok h hstep
  | destroyInterface k =>
    exact iff_of_true (ownPaths_destroyInterface hok h hstep) (fun _ hn => hn.elim)
  | manage n o =>
    obtain ⟨hquiet, -, -, -, -, hserver⟩ := quiet_manage hstep
    exact iff_of_true (ownPaths_quiet hok htok hquiet hserver h) (fun _ hn => hn.elim)
  | destroyNode n => exact iff_of_true (ownPaths_destroyNode hok h hstep) (fun _ hn => hn.elim)
  | makeObject address =>
    have hsame : t.nodes = w.nodes ∧ t.server = w.server := makeObject_nodes hstep
    refine iff_of_true (ownPaths_quiet hok htok ?_ (by rw [hsame.2]) h) (fun _ hn => hn.elim)
    rw [hsame.1]
    exact Nodes.quiet_refl
  | destroyObject o =>
    have hsame : t.nodes = w.nodes ∧ t.server = w.server := destroyObject_nodes hstep
    refine iff_of_true (ownPaths_quiet hok htok ?_ (by rw [hsame.2]) h) (fun _ hn => hn.elim)
    rw [hsame.1]
    exact Nodes.quiet_refl

/-- Calls reach every interface in every state of a run exactly if each registration of the run comes
to a path that stands for no other node. -/
theorem always_dispatches_iff (ops : List Op) :
    (machine root).Always (Dispatches root) {} ops ↔ (machine root).Meets (RegistersOwn root) {} ops := by
  apply Machine.always_iff_meets (J := Ok root)
  · intro s op t hok _ hstep _
    exact hok.step hstep
  · intro s op t hok hs hstep
    rw [dispatches_iff (hok.step hstep)]
    exact ownPaths_step_iff hok ((dispatches_iff hok).mp hs) hstep
  · exact ok_init root
  · exact (dispatches_iff (ok_init root)).mpr fun n path name h => absurd h.isSome (by simp)

end World

end Logid.Ipcgull
