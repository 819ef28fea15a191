import Mathlib.Data.List.Nodup
import PairLoop.Dependency.Graph
import PairLoop.Proofs.Dependency.Reach

/-!
Strongly connected components and cycles. However a graph is split into its components, a node is on
a cycle exactly if its component has a second node or an edge leads from the node to itself. The
components that are found by searches from every node are such a split.
-/

namespace PairLoop.Dependency.Graph

open Relation

def Edge (graph : Graph) (source target : String) : Prop := (source, target) ∈ graph.edges

/-- Edges lead from each of two nodes to the other. -/
def Connected (graph : Graph) (first second : String) : Prop :=
  ReflTransGen graph.Edge first second ∧ ReflTransGen graph.Edge second first

/-- The strongly connected components of a graph: every node is listed once in all, together with
the nodes that it is connected with. -/
structure Splits (graph : Graph) (parts : List (List String)) : Prop where
  distinct : parts.flatten.Nodup
  complete : ∀ node, node ∈ parts.flatten ↔ node ∈ graph.nodes
  connected : ∀ part ∈ parts, ∀ node ∈ part, ∀ other,
    other ∈ part ↔ graph.Connected node other

theorem connected_symm (graph : Graph) (first second : String)
    (connected : graph.Connected first second) : graph.Connected second first :=
  ⟨connected.2, connected.1⟩

theorem connected_trans (graph : Graph) (first second third : String)
    (left : graph.Connected first second) (right : graph.Connected second third) :
    graph.Connected first third :=
  ⟨left.1.trans right.1, right.2.trans left.2⟩

section Cycles

variable {graph : Graph} {parts : List (List String)}

/-- A path from a node to another and back is a cycle. -/
theorem cycle_of_connected (node other : String) (connected : graph.Connected node other)
    (different : other ≠ node) : TransGen graph.Edge node node := by
  rcases reflTransGen_iff_eq_or_transGen.1 connected.1 with same | path
  · exact absurd same different
  · exact path.trans_left connected.2

/-- The first edge of a cycle stays within the component. -/
theorem exists_edge_of_cycle (splits : graph.Splits parts) (part : List String)
    (listed : part ∈ parts) (node : String) (member : node ∈ part)
    (cycle : TransGen graph.Edge node node) : ∃ next ∈ part, graph.Edge node next := by
  obtain ⟨next, edge, back⟩ := TransGen.head'_iff.1 cycle
  exact ⟨next, (splits.connected part listed node member next).2 ⟨.single edge, back⟩, edge⟩

theorem is_cyclic_iff (splits : graph.Splits parts) (part : List String) (listed : part ∈ parts)
    (node : String) (member : node ∈ part) :
    graph.isCyclic part = true ↔ TransGen graph.Edge node node := by
  match part, listed, member with
  | [only], listed, member =>
    cases List.mem_singleton.1 member
    have edges : graph.isCyclic [node] = true ↔ graph.Edge node node := List.contains_iff_mem
    rw [edges]
    constructor
    · exact TransGen.single
    · intro cycle
      obtain ⟨next, inside, edge⟩ := exists_edge_of_cycle splits [node] listed node member cycle
      rw [List.mem_singleton.1 inside] at edge
      exact edge
  | first :: second :: rest, listed, member =>
    have several : graph.isCyclic (first :: second :: rest) = true := by simp [isCyclic]
    have distinct := (List.nodup_flatten.1 splits.distinct).1 _ listed
    have different : first ≠ second := (List.pairwise_cons.1 distinct).1 second (by simp)
    have connected := splits.connected _ listed node member
    refine iff_of_true several ?_
    by_cases same : first = node
    · exact cycle_of_connected node second ((connected second).1 (by simp)) (same ▸ different.symm)
    · exact cycle_of_connected node first ((connected first).1 (by simp)) same

/-- The nodes on a cycle are those of the components that have one. -/
theorem mem_cyclic_parts_iff (splits : graph.Splits parts) (node : String) :
    node ∈ (parts.filter graph.isCyclic).flatten ↔ TransGen graph.Edge node node := by
  rw [List.mem_flatten]
  constructor
  · intro inCyclic
    rcases inCyclic with ⟨part, kept, member⟩
    obtain ⟨listed, cyclic⟩ := List.mem_filter.1 kept
    exact (is_cyclic_iff splits part listed node member).1 cyclic
  · intro cycle
    obtain ⟨next, edge, _⟩ := TransGen.head'_iff.1 cycle
    have isNode := (graph.inside (node, next) edge).1
    obtain ⟨part, listed, member⟩ := List.mem_flatten.1 ((splits.complete node).2 isNode)
    have cyclic := (is_cyclic_iff splits part listed node member).2 cycle
    exact ⟨part, List.mem_filter.2 ⟨listed, cyclic⟩, member⟩

end Cycles

section Components

variable (graph : Graph)

theorem mem_targets_iff (source target : String) :
    target ∈ graph.targets source ↔ graph.Edge source target := by
  unfold targets Edge
  rw [NameSet.mem_of_list]
  simp

theorem leads_eq_edge : Leads graph.nodes graph.targets = graph.Edge := by
  funext source target
  apply propext
  unfold Leads
  rw [mem_targets_iff]
  exact and_iff_left_of_imp fun edge => (graph.inside (source, target) edge).2

theorem mem_ahead_iff (node other : String) (isNode : node ∈ graph.nodes) :
    other ∈ graph.ahead node ↔ ReflTransGen graph.Edge node other := by
  unfold ahead
  rw [mem_reach_iff, leads_eq_edge]
  simp [NameSet.mem_of_list, isNode]

theorem mem_nodes_of_path (node other : String) (isNode : node ∈ graph.nodes)
    (path : ReflTransGen graph.Edge node other) : other ∈ graph.nodes := by
  cases path with
  | refl => exact isNode
  | tail _ edge => exact (graph.inside (_, other) edge).2

theorem mem_component_iff (node other : String) (isNode : node ∈ graph.nodes) :
    other ∈ graph.component node ↔ graph.Connected node other := by
  unfold component
  rw [NameSet.mem_filter, decide_eq_true_iff, mem_ahead_iff graph node other isNode]
  apply and_congr_right
  intro path
  exact mem_ahead_iff graph other node (mem_nodes_of_path graph node other isNode path)

theorem component_eq_of_connected (node other : String) (isNode : node ∈ graph.nodes)
    (connected : graph.Connected node other) : graph.component node = graph.component other := by
  have otherNode := mem_nodes_of_path graph node other isNode connected.1
  have back := connected_symm graph node other connected
  apply NameSet.ext
  intro name
  rw [mem_component_iff graph node name isNode, mem_component_iff graph other name otherNode]
  constructor
  · exact connected_trans graph other node name back
  · exact connected_trans graph node other name connected

/-- The component of a node is listed if the node is its least. -/
theorem mem_components_iff (part : List String) :
    part ∈ graph.components ↔ ∃ node ∈ graph.nodes,
      (graph.component node).toList.head? = some node ∧ (graph.component node).toList = part := by
  unfold components
  rw [List.mem_filterMap]
  simp only [NameSet.mem_to_list, Option.ite_none_right_eq_some, Option.some.injEq]

/-- Every component is listed with its least node. -/
theorem exists_mem_components (node : String) (isNode : node ∈ graph.nodes) :
    ∃ part ∈ graph.components, node ∈ part := by
  have own : node ∈ (graph.component node).toList :=
    (mem_component_iff graph node node isNode).2 ⟨.refl, .refl⟩
  obtain ⟨least, first⟩ := Option.isSome_iff_exists.1
    (List.isSome_head?.2 (List.ne_nil_of_mem own))
  have inComponent : least ∈ graph.component node := List.mem_of_mem_head? first
  have connected := (mem_component_iff graph node least isNode).1 inComponent
  have leastNode := mem_nodes_of_path graph node least isNode connected.1
  have same := component_eq_of_connected graph node least isNode connected
  refine ⟨(graph.component node).toList, (mem_components_iff ..).2 ?_, own⟩
  exact ⟨least, leastNode, same ▸ first, by rw [same]⟩

/-- Components of different least nodes have no node in common. -/
theorem components_disjoint : graph.components.Pairwise List.Disjoint := by
  unfold components
  apply List.pairwise_filterMap.2
  have distinct : graph.nodes.toList.Pairwise (· ≠ ·) := by
    apply graph.nodes.ascending.imp
    intro first second smaller same
    exact String.lt_irrefl first (same ▸ smaller)
  apply distinct.imp_of_mem
  intro first second firstNode secondNode different part kept other otherKept name inFirst inSecond
  simp only [Option.ite_none_right_eq_some, Option.some.injEq] at kept otherKept
  obtain ⟨least, rfl⟩ := kept
  obtain ⟨otherLeast, rfl⟩ := otherKept
  have left := (mem_component_iff graph first name firstNode).1 inFirst
  have right := (mem_component_iff graph second name secondNode).1 inSecond
  have same := component_eq_of_connected graph first second firstNode
    (connected_trans graph first name second left (connected_symm graph second name right))
  rw [same, otherLeast] at least
  exact different (Option.some.inj least).symm

theorem components_split : graph.Splits graph.components := by
  constructor
  · apply List.nodup_flatten.2
    refine ⟨?_, components_disjoint graph⟩
    intro part listed
    obtain ⟨node, _, _, rfl⟩ := (mem_components_iff graph part).1 listed
    apply (graph.component node).ascending.imp
    intro first second smaller same
    exact String.lt_irrefl first (same ▸ smaller)
  · intro node
    rw [List.mem_flatten]
    constructor
    · intro inPart
      rcases inPart with ⟨part, listed, member⟩
      obtain ⟨least, leastNode, _, rfl⟩ := (mem_components_iff graph part).1 listed
      have connected := (mem_component_iff graph least node leastNode).1 member
      exact mem_nodes_of_path graph least node leastNode connected.1
    · exact exists_mem_components graph node
  · intro part listed node member other
    obtain ⟨least, leastNode, _, rfl⟩ := (mem_components_iff graph part).1 listed
    have connected := (mem_component_iff graph least node leastNode).1 member
    have isNode := mem_nodes_of_path graph least node leastNode connected.1
    rw [component_eq_of_connected graph least node leastNode connected]
    exact mem_component_iff graph node other isNode

end Components

end PairLoop.Dependency.Graph
