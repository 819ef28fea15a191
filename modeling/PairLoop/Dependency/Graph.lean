import PairLoop.Dependency.Reach

/-!
Graphs over finitely many names and their strongly connected components. Two nodes are in one
component if edges lead from each to the other, so a node is on a cycle exactly if its component
has further nodes or an edge leads from it to itself.
-/

namespace PairLoop.Dependency

/-- A directed graph over names. Its edges stay among its nodes. -/
structure Graph where
  nodes : NameSet
  /-- The edges, each with its source first. -/
  edges : List (String × String)
  inside : ∀ edge ∈ edges, edge.1 ∈ nodes ∧ edge.2 ∈ nodes

namespace Graph

def targets (graph : Graph) (node : String) : NameSet :=
  .ofList ((graph.edges.filter fun edge => edge.1 == node).map Prod.snd)

/-- The nodes to which edges lead from a node, the node itself included. -/
def ahead (graph : Graph) (node : String) : NameSet :=
  reach graph.nodes graph.targets (.ofList [node])

def component (graph : Graph) (node : String) : NameSet :=
  (graph.ahead node).filter fun other => decide (node ∈ graph.ahead other)

/-- The strongly connected components, in the order of their least nodes. -/
def components (graph : Graph) : List (List String) :=
  graph.nodes.toList.filterMap fun node =>
    let part := (graph.component node).toList
    if part.head? = some node then some part else none

/-- Whether a component has a cycle: it has more than one node, or one with an edge to itself. -/
def isCyclic (graph : Graph) : List String → Bool
  | [node] => graph.edges.contains (node, node)
  | part => decide (1 < part.length)

end Graph

end PairLoop.Dependency
