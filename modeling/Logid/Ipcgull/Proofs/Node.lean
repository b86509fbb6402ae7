import Logid.Ipcgull.Node

/-!
# The names of nodes

A node keeps its full name for as long as it is there: nothing but the end of its parent changes its
name or its parent, and what it then loses as a parent it gains in its name.
-/

namespace Logid.Ipcgull

/-- What the parents and the lists of children of a tree of nodes agree on. -/
structure Nodes.Ok (nodes : Nodes) (count : Nat) : Prop where
  lt : ∀ {n node}, nodes n = some node → n < count
  parent_isSome : ∀ {n node p}, nodes n = some node → node.parent = some p → (nodes p).isSome
  mem_children : ∀ {p parent c}, nodes p = some parent →
    (c ∈ parent.children ↔ ∃ node, nodes c = some node ∧ node.parent.map Fin.val = some p)
  nodup_children : ∀ {n node}, nodes n = some node → node.children.Nodup

theorem treeName_root {nodes : Nodes} {n : Nat} {node : Node n} (h : nodes n = some node)
    (hparent : node.parent = none) : treeName nodes n = node.name := by
  rw [treeName, h]
  simp [hparent]

theorem treeName_child {nodes : Nodes} {n : Nat} {node : Node n} {p : Fin n}
    (h : nodes n = some node) (hparent : node.parent = some p) (hp : (nodes p).isSome) :
    treeName nodes n = treeName nodes p ++ "/" ++ node.name := by
  rw [treeName, h]
  simp [hparent, hp]

/-- The nodes that were there are still there, under the names and the parents that they had. -/
def Nodes.Kept (nodes nodes' : Nodes) : Prop :=
  ∀ m node, nodes m = some node →
    ∃ node', nodes' m = some node' ∧ node'.name = node.name ∧ node'.parent = node.parent

theorem Nodes.kept_update {nodes : Nodes} {n : Nat} {node node' : Node n} (h : nodes n = some node)
    (hname : node'.name = node.name) (hparent : node'.parent = node.parent) :
    Nodes.Kept nodes (Function.update nodes n (some node')) := by
  intro m other hm
  by_cases hmn : m = n
  · subst hmn
    rw [h, Option.some_inj] at hm
    subst hm
    exact ⟨node', Function.update_self .., hname, hparent⟩
  · exact ⟨other, by rw [Function.update_of_ne hmn, hm], rfl, rfl⟩

theorem Nodes.Kept.treeName_eq {nodes nodes' : Nodes} {count : Nat} (hok : nodes.Ok count)
    (hkept : nodes.Kept nodes') {m : Nat} (hm : (nodes m).isSome) :
    treeName nodes' m = treeName nodes m := by
  induction m using Nat.strong_induction_on with
  | _ m ih =>
    obtain ⟨node, hnode⟩ := Option.isSome_iff_exists.mp hm
    obtain ⟨node', hnode', hname, hparent⟩ := hkept m node hnode
    cases hp : node.parent with
    | none => rw [treeName_root hnode' (hparent.trans hp), treeName_root hnode hp, hname]
    | some p =>
      have hpsome := hok.parent_isSome hnode hp
      obtain ⟨parent, hpnode⟩ := Option.isSome_iff_exists.mp hpsome
      obtain ⟨parent', hpnode', -, -⟩ := hkept p parent hpnode
      have hpsome' : (nodes' p).isSome := by rw [hpnode']; rfl
      rw [treeName_child hnode' (hparent.trans hp) hpsome', treeName_child hnode hp hpsome, hname,
        ih p p.isLt hpsome]

/-! ## The end of a node -/

theorem removeNode_self {nodes : Nodes} {n : Nat} {node : Node n} : removeNode nodes node n = none :=
  if_pos rfl

theorem removeNode_of_ne {nodes : Nodes} {n m : Nat} {node : Node n} (h : m ≠ n) :
    removeNode nodes node m = (nodes m).map (adopt node) :=
  if_neg h

section

variable {nodes : Nodes} {count n : Nat} {node : Node n}

/-- The orphans of a node are the nodes whose parent it is. -/
theorem Nodes.Ok.orphan_iff (hok : nodes.Ok count) (hn : nodes n = some node) {m : Nat}
    {other : Node m} (hm : nodes m = some other) :
    (n < m ∧ m ∈ node.children) ↔ other.parent.map Fin.val = some n := by
  rw [hok.mem_children hn]
  constructor
  · rintro ⟨-, other', hm', hparent⟩
    rw [hm, Option.some_inj] at hm'
    rw [hm']
    exact hparent
  · intro hparent
    obtain ⟨p, hp, hpn⟩ := Option.map_eq_some_iff.mp hparent
    exact ⟨hpn ▸ p.isLt, other, hm, hparent⟩

theorem adopt_orphan {m : Nat} {other : Node m} (h : n < m ∧ m ∈ node.children) :
    adopt node other = { other with
      name := node.name ++ "/" ++ other.name
      parent := node.parent.map (Fin.castLE h.1.le) } :=
  dif_pos h

theorem adopt_grandparent {m : Nat} {other : Node m} (h : ¬ (n < m ∧ m ∈ node.children))
    (hparent : node.parent.map Fin.val = some m) :
    (adopt node other).children = node.children.reverse ++ other.children.erase n := by
  rw [adopt, dif_neg h, if_pos hparent]

theorem adopt_other {m : Nat} {other : Node m} (h : ¬ (n < m ∧ m ∈ node.children))
    (hparent : ¬ node.parent.map Fin.val = some m) : adopt node other = other := by
  rw [adopt, dif_neg h, if_neg hparent]

theorem adopt_parent {m : Nat} {other : Node m} (h : ¬ (n < m ∧ m ∈ node.children)) :
    (adopt node other).parent = other.parent := by
  rw [adopt, dif_neg h]
  split <;> rfl

theorem adopt_name {m : Nat} {other : Node m} (h : ¬ (n < m ∧ m ∈ node.children)) :
    (adopt node other).name = other.name := by
  rw [adopt, dif_neg h]
  split <;> rfl

@[simp] theorem adopt_interfaces {m : Nat} {other : Node m} :
    (adopt node other).interfaces = other.interfaces := by
  rw [adopt]
  split
  · rfl
  · split <;> rfl

@[simp] theorem adopt_attached {m : Nat} {other : Node m} :
    (adopt node other).attached = other.attached := by
  rw [adopt]
  split
  · rfl
  · split <;> rfl

@[simp] theorem adopt_managing {m : Nat} {other : Node m} :
    (adopt node other).managing = other.managing := by
  rw [adopt]
  split
  · rfl
  · split <;> rfl

theorem isSome_removeNode {m : Nat} (hmn : m ≠ n) :
    (removeNode nodes node m).isSome = (nodes m).isSome := by
  rw [removeNode_of_ne hmn, Option.isSome_map]

/-- What an orphan loses with its parent it gains in its name. -/
theorem Nodes.Ok.treeName_removeNode (hok : nodes.Ok count) (hn : nodes n = some node) {m : Nat}
    (hmn : m ≠ n) (hm : (nodes m).isSome) :
    treeName (removeNode nodes node) m = treeName nodes m := by
  induction m using Nat.strong_induction_on with
  | _ m ih =>
    obtain ⟨other, hother⟩ := Option.isSome_iff_exists.mp hm
    have hafter : removeNode nodes node m = some (adopt node other) := by
      rw [removeNode_of_ne hmn, hother, Option.map_some]
    by_cases horphan : n < m ∧ m ∈ node.children
    · obtain ⟨p, hp, hpn⟩ := Option.map_eq_some_iff.mp ((hok.orphan_iff hn hother).mp horphan)
      have hpn' : (nodes p).isSome := hok.parent_isSome hother hp
      have hparent : (adopt node other).parent = node.parent.map (Fin.castLE horphan.1.le) := by
        rw [adopt_orphan horphan]
      have hname : (adopt node other).name = node.name ++ "/" ++ other.name := by
        rw [adopt_orphan horphan]
      rw [treeName_child hother hp hpn', hpn]
      cases hgrand : node.parent with
      | none =>
        rw [hgrand] at hparent
        rw [treeName_root hafter hparent, treeName_root hn hgrand, hname]
      | some g =>
        rw [hgrand, Option.map_some] at hparent
        have hg : (nodes g).isSome := hok.parent_isSome hn hgrand
        have hgn : (g : Nat) ≠ n := g.isLt.ne
        have hg' : (removeNode nodes node g).isSome := by rw [isSome_removeNode hgn]; exact hg
        have hih := ih g (g.isLt.trans horphan.1) hgn hg
        rw [treeName_child hafter hparent hg', treeName_child hn hgrand hg, hname]
        show treeName (removeNode nodes node) g ++ "/" ++ _ = _
        rw [hih]
        simp only [String.append_assoc]
    · have hparent : (adopt node other).parent = other.parent := adopt_parent horphan
      have hname : (adopt node other).name = other.name := adopt_name horphan
      cases hp : other.parent with
      | none => rw [treeName_root hafter (hparent.trans hp), treeName_root hother hp, hname]
      | some p =>
        have hpsome := hok.parent_isSome hother hp
        have hpn : (p : Nat) ≠ n := by
          intro hpn
          exact horphan ((hok.orphan_iff hn hother).mpr (by rw [hp, Option.map_some, hpn]))
        have hp' : (removeNode nodes node p).isSome := by rw [isSome_removeNode hpn]; exact hpsome
        rw [treeName_child hafter (hparent.trans hp) hp', treeName_child hother hp hpsome, hname,
          ih p p.isLt hpn hpsome]

end

/-! ## The tree stays a tree -/

section

variable {nodes : Nodes} {count n : Nat}

theorem Nodes.ok_empty : Nodes.Ok (fun _ => none) 0 where
  lt h := absurd h (by simp)
  parent_isSome h := absurd h (by simp)
  mem_children h := absurd h (by simp)
  nodup_children h := absurd h (by simp)

theorem Nodes.Ok.eq_none (hok : nodes.Ok count) (h : count ≤ n) : nodes n = none := by
  cases hn : nodes n with
  | none => rfl
  | some node => exact absurd (hok.lt hn) (Nat.not_lt.mpr h)

theorem Nodes.Ok.ne_of_lt (hok : nodes.Ok count) (h : (nodes n).isSome) : n ≠ count := by
  rintro rfl
  rw [hok.eq_none le_rfl] at h
  exact absurd h (by simp)

theorem Nodes.isSome_update {m : Nat} {node : Node n} (h : (nodes m).isSome) :
    (Function.update nodes n (some node) m).isSome := by
  by_cases hmn : m = n
  · subst hmn
    rw [Function.update_self]
    rfl
  · rw [Function.update_of_ne hmn]
    exact h

/-- An update that keeps the parent and the children of a node. -/
theorem Nodes.Ok.update (hok : nodes.Ok count) {node node' : Node n} (h : nodes n = some node)
    (hparent : node'.parent = node.parent) (hchildren : node'.children = node.children) :
    Nodes.Ok (Function.update nodes n (some node')) count := by
  have hcases : ∀ {m other'}, Function.update nodes n (some node') m = some other' →
      ∃ other, nodes m = some other ∧ other'.parent = other.parent ∧
        other'.children = other.children := by
    intro m other' hm
    by_cases hmn : m = n
    · subst hmn
      rw [Function.update_self, Option.some_inj] at hm
      subst hm
      exact ⟨node, h, hparent, hchildren⟩
    · rw [Function.update_of_ne hmn] at hm
      exact ⟨other', hm, rfl, rfl⟩
  have hkept : ∀ {m other}, nodes m = some other →
      ∃ other', Function.update nodes n (some node') m = some other' ∧
        other'.parent = other.parent := by
    intro m other hm
    by_cases hmn : m = n
    · subst hmn
      rw [h, Option.some_inj] at hm
      subst hm
      exact ⟨node', Function.update_self .., hparent⟩
    · exact ⟨other, by rw [Function.update_of_ne hmn, hm], rfl⟩
  constructor
  · intro m other' hm
    obtain ⟨other, hother, -, -⟩ := hcases hm
    exact hok.lt hother
  · intro m other' p hm hp
    obtain ⟨other, hother, hpar, -⟩ := hcases hm
    exact Nodes.isSome_update (hok.parent_isSome hother (hpar.symm.trans hp))
  · intro p parent' c hp
    obtain ⟨parent, hparent', -, hch⟩ := hcases hp
    rw [hch, hok.mem_children hparent']
    constructor
    · rintro ⟨child, hc, hcp⟩
      obtain ⟨child', hc', hpar⟩ := hkept hc
      exact ⟨child', hc', by rw [hpar, hcp]⟩
    · rintro ⟨child', hc', hcp⟩
      obtain ⟨child, hc, hpar, -⟩ := hcases hc'
      exact ⟨child, hc, by rw [← hpar, hcp]⟩
  · intro m other' hm
    obtain ⟨other, hother, -, hch⟩ := hcases hm
    rw [hch]
    exact hok.nodup_children hother

/-- A new node without children: its parent, if it has one, has it as a child by now. -/
theorem Nodes.Ok.insert (hok : nodes.Ok count) {node : Node count} (hchildren : node.children = [])
    {nodes' : Nodes}
    (hsome : ∀ m, m ≠ count → ∀ other', nodes' m = some other' →
      ∃ other, nodes m = some other ∧ other'.parent = other.parent ∧
        other'.children =
          if node.parent.map Fin.val = some m then count :: other.children else other.children)
    (hkept : ∀ m other, nodes m = some other →
      ∃ other', nodes' m = some other' ∧ other'.parent = other.parent)
    (hnew : nodes' count = some node)
    (hparent : ∀ p, node.parent = some p → (nodes p).isSome) : nodes'.Ok (count + 1) := by
  have hfresh := hok.eq_none (n := count) le_rfl
  have hisSome : ∀ {m}, (nodes m).isSome → (nodes' m).isSome := by
    intro m hm
    obtain ⟨other, hother⟩ := Option.isSome_iff_exists.mp hm
    obtain ⟨other', hother', -⟩ := hkept m other hother
    rw [hother']
    rfl
  constructor
  · intro m other' hm
    by_cases hmc : m = count
    · omega
    · obtain ⟨other, hother, -⟩ := hsome m hmc other' hm
      exact Nat.lt_succ_of_lt (hok.lt hother)
  · intro m other' p hm hp
    by_cases hmc : m = count
    · subst hmc
      rw [hnew, Option.some_inj] at hm
      subst hm
      exact hisSome (hparent p hp)
    · obtain ⟨other, hother, hpar, -⟩ := hsome m hmc other' hm
      exact hisSome (hok.parent_isSome hother (hpar.symm.trans hp))
  · intro p parent' c hp
    by_cases hpc : p = count
    · subst hpc
      rw [hnew, Option.some_inj] at hp
      subst hp
      rw [hchildren]
      constructor
      · intro hmem
        cases hmem
      · rintro ⟨child, hc, hcp⟩
        obtain ⟨q, hq, hqp⟩ := Option.map_eq_some_iff.mp hcp
        by_cases hcc : c = p
        · exact absurd q.isLt (by omega)
        · obtain ⟨other, hother, -⟩ := hsome c hcc child hc
          have := hok.lt hother
          exact absurd q.isLt (by omega)
    · obtain ⟨parent, hparent', -, hch⟩ := hsome p hpc parent' hp
      have hmem : c ∈ parent'.children ↔
          c ∈ parent.children ∨ (c = count ∧ node.parent.map Fin.val = some p) := by
        rw [hch]
        split
        next hnode => rw [List.mem_cons, or_comm, and_iff_left hnode]
        next hnode => exact (or_iff_left fun h => hnode h.2).symm
      rw [hmem, hok.mem_children hparent']
      constructor
      · rintro (⟨child, hc, hcp⟩ | ⟨rfl, hcp⟩)
        · obtain ⟨child', hc', hpar⟩ := hkept c child hc
          exact ⟨child', hc', by rw [hpar, hcp]⟩
        · exact ⟨node, hnew, hcp⟩
      · rintro ⟨child', hc', hcp⟩
        by_cases hcc : c = count
        · subst hcc
          rw [hnew, Option.some_inj] at hc'
          subst hc'
          exact .inr ⟨rfl, hcp⟩
        · obtain ⟨child, hc, hpar, -⟩ := hsome c hcc child' hc'
          exact .inl ⟨child, hc, by rw [← hpar, hcp]⟩
  · intro m other' hm
    by_cases hmc : m = count
    · subst hmc
      rw [hnew, Option.some_inj] at hm
      rw [← hm, hchildren]
      exact List.nodup_nil
    · obtain ⟨other, hother, -, hch⟩ := hsome m hmc other' hm
      rw [hch]
      split
      · refine List.nodup_cons.mpr ⟨fun hmem => ?_, hok.nodup_children hother⟩
        obtain ⟨child, hchild, -⟩ := (hok.mem_children hother).mp hmem
        exact absurd (hok.lt hchild) (Nat.lt_irrefl _)
      · exact hok.nodup_children hother

theorem Nodes.Ok.makeRoot (hok : nodes.Ok count) {node : Node count} (hparent : node.parent = none)
    (hchildren : node.children = []) :
    Nodes.Ok (Function.update nodes count (some node)) (count + 1) := by
  refine hok.insert hchildren ?_ ?_ (Function.update_self ..) ?_
  · intro m hm other hother
    rw [Function.update_of_ne hm] at hother
    exact ⟨other, hother, rfl, by simp [hparent]⟩
  · intro m other hother
    have hm : m ≠ count := hok.ne_of_lt (by rw [hother]; rfl)
    exact ⟨other, by rw [Function.update_of_ne hm, hother], rfl⟩
  · intro p hp
    rw [hparent] at hp
    cases hp

theorem Nodes.Ok.makeChild (hok : nodes.Ok count) {p : Nat} {parent : Node p}
    (hp : nodes p = some parent) {node : Node count} (hparent : node.parent.map Fin.val = some p)
    (hchildren : node.children = []) :
    Nodes.Ok (Function.update (Function.update nodes p
      (some { parent with children := count :: parent.children })) count (some node)) (count + 1) := by
  refine hok.insert hchildren ?_ ?_ (Function.update_self ..) ?_
  · intro m hm other hother
    rw [Function.update_of_ne hm] at hother
    by_cases hmp : m = p
    · subst hmp
      rw [Function.update_self, Option.some_inj] at hother
      subst hother
      exact ⟨parent, hp, rfl, by rw [if_pos hparent]⟩
    · rw [Function.update_of_ne hmp] at hother
      refine ⟨other, hother, rfl, ?_⟩
      rw [if_neg]
      rw [hparent, Option.some_inj]
      exact fun h => hmp h.symm
  · intro m other hother
    have hm : m ≠ count := hok.ne_of_lt (by rw [hother]; rfl)
    rw [Function.update_of_ne hm]
    by_cases hmp : m = p
    · subst hmp
      rw [hp, Option.some_inj] at hother
      exact ⟨_, Function.update_self .., by rw [← hother]⟩
    · exact ⟨other, by rw [Function.update_of_ne hmp, hother], rfl⟩
  · intro q hq
    rw [hq, Option.map_some, Option.some_inj] at hparent
    rw [hparent, hp]
    rfl

theorem Nodes.Ok.removeNode (hok : nodes.Ok count) {node : Node n} (hn : nodes n = some node) :
    Nodes.Ok (removeNode nodes node) count := by
  have hcases : ∀ {m other'}, Ipcgull.removeNode nodes node m = some other' →
      m ≠ n ∧ ∃ other, nodes m = some other ∧ adopt node other = other' := by
    intro m other' hm
    have hmn : m ≠ n := by
      rintro rfl
      rw [removeNode_self] at hm
      cases hm
    rw [removeNode_of_ne hmn, Option.map_eq_some_iff] at hm
    exact ⟨hmn, hm⟩
  -- the parent of every node that is left is left, or the one of `n`
  have hparent : ∀ {m} {other : Node m}, nodes m = some other →
      (adopt node other).parent.map Fin.val =
        if other.parent.map Fin.val = some n then node.parent.map Fin.val
        else other.parent.map Fin.val := by
    intro m other hm
    by_cases horphan : n < m ∧ m ∈ node.children
    · rw [adopt_orphan horphan, if_pos ((hok.orphan_iff hn hm).mp horphan), Option.map_map]
      rfl
    · rw [adopt_parent horphan, if_neg fun h => horphan ((hok.orphan_iff hn hm).mpr h)]
  constructor
  · intro m other' hm
    obtain ⟨-, other, hother, -⟩ := hcases hm
    exact hok.lt hother
  · intro m other' p hm hp
    obtain ⟨-, other, hother, rfl⟩ := hcases hm
    have hmap := hparent hother
    rw [hp, Option.map_some] at hmap
    split at hmap
    · obtain ⟨g, hg, hgp⟩ := Option.map_eq_some_iff.mp hmap.symm
      have hne : (p : Nat) ≠ n := by
        rw [← hgp]
        exact g.isLt.ne
      rw [isSome_removeNode hne, ← hgp]
      exact hok.parent_isSome hn hg
    next hnot =>
      obtain ⟨g, hg, hgp⟩ := Option.map_eq_some_iff.mp hmap.symm
      have hne : (p : Nat) ≠ n := by
        intro hpn
        exact hnot (by rw [hg, Option.map_some, hgp, hpn])
      rw [isSome_removeNode hne, ← hgp]
      exact hok.parent_isSome hother hg
  · intro p parent' c hp
    obtain ⟨hpn, parent, hparent', rfl⟩ := hcases hp
    have hchild : (∃ child, Ipcgull.removeNode nodes node c = some child ∧
        child.parent.map Fin.val = some p) ↔
          c ≠ n ∧ ∃ child, nodes c = some child ∧
            ((child.parent.map Fin.val = some n ∧ node.parent.map Fin.val = some p) ∨
              child.parent.map Fin.val = some p) := by
      constructor
      · rintro ⟨child', hc', hcp⟩
        obtain ⟨hcn, child, hc, rfl⟩ := hcases hc'
        rw [hparent hc] at hcp
        refine ⟨hcn, child, hc, ?_⟩
        split at hcp
        · exact .inl ⟨‹_›, hcp⟩
        · exact .inr hcp
      · rintro ⟨hcn, child, hc, hor⟩
        refine ⟨adopt node child, by rw [removeNode_of_ne hcn, hc, Option.map_some], ?_⟩
        rw [hparent hc]
        rcases hor with ⟨hcn', hnp⟩ | hcp
        · rw [if_pos hcn', hnp]
        · rw [if_neg (by rw [hcp, Option.some_inj]; exact hpn), hcp]
    rw [hchild]
    by_cases horphan : n < p ∧ p ∈ node.children
    · have hnp : node.parent.map Fin.val ≠ some p := by
        intro h
        obtain ⟨g, -, hgp⟩ := Option.map_eq_some_iff.mp h
        exact absurd g.isLt (by omega)
      rw [adopt_orphan horphan, hok.mem_children hparent']
      constructor
      · rintro ⟨child, hc, hcp⟩
        refine ⟨?_, child, hc, .inr hcp⟩
        rintro rfl
        rw [hn, Option.some_inj] at hc
        exact hnp (hc ▸ hcp)
      · rintro ⟨-, child, hc, ⟨-, h⟩ | hcp⟩
        · exact absurd h hnp
        · exact ⟨child, hc, hcp⟩
    · by_cases hnp : node.parent.map Fin.val = some p
      · rw [adopt_grandparent horphan hnp, List.mem_append, List.mem_reverse,
          (hok.nodup_children hparent').mem_erase_iff, hok.mem_children hn,
          hok.mem_children hparent']
        constructor
        · rintro (⟨child, hc, hcn⟩ | ⟨hcn, child, hc, hcp⟩)
          · refine ⟨?_, child, hc, .inl ⟨hcn, hnp⟩⟩
            rintro rfl
            obtain ⟨g, -, hg⟩ := Option.map_eq_some_iff.mp hcn
            exact absurd g.isLt (by omega)
          · exact ⟨hcn, child, hc, .inr hcp⟩
        · rintro ⟨hcn, child, hc, ⟨hcn', -⟩ | hcp⟩
          · exact .inl ⟨child, hc, hcn'⟩
          · exact .inr ⟨hcn, child, hc, hcp⟩
      · rw [adopt_other horphan hnp, hok.mem_children hparent']
        constructor
        · rintro ⟨child, hc, hcp⟩
          refine ⟨?_, child, hc, .inr hcp⟩
          rintro rfl
          rw [hn, Option.some_inj] at hc
          exact hnp (hc ▸ hcp)
        · rintro ⟨-, child, hc, ⟨-, h⟩ | hcp⟩
          · exact absurd h hnp
          · exact ⟨child, hc, hcp⟩
  · intro m other' hm
    obtain ⟨-, other, hother, rfl⟩ := hcases hm
    by_cases horphan : n < m ∧ m ∈ node.children
    · rw [adopt_orphan horphan]
      show other.children.Nodup
      exact hok.nodup_children hother
    · by_cases hnp : node.parent.map Fin.val = some m
      · rw [adopt_grandparent horphan hnp, List.nodup_append]
        refine ⟨List.nodup_reverse.mpr (hok.nodup_children hn),
          (hok.nodup_children hother).erase n, ?_⟩
        rintro c hc d hd rfl
        -- an orphan has another parent than the children that the grandparent had
        obtain ⟨child, hchild, hcn⟩ := (hok.mem_children hn).mp (List.mem_reverse.mp hc)
        obtain ⟨child', hchild', hcm⟩ :=
          (hok.mem_children hother).mp (List.mem_of_mem_erase hd)
        rw [hchild, Option.some_inj] at hchild'
        rw [← hchild', hcn, Option.some_inj] at hcm
        obtain ⟨g, -, hg⟩ := Option.map_eq_some_iff.mp hnp
        exact absurd g.isLt (by omega)
      · rw [adopt_other horphan hnp]
        exact hok.nodup_children hother

end

end Logid.Ipcgull
