import PipelineGraph.Graph.Connection

namespace PipelineGraph

structure Snapshot where
  nodes : List Node
  edges : List Edge
deriving BEq

namespace Snapshot

def empty : Snapshot := ⟨[], []⟩

def isEmpty (s : Snapshot) : Bool := s.nodes.isEmpty && s.edges.isEmpty

end Snapshot

namespace Graph

def snapshot (g : Graph) : Snapshot := ⟨g.nodeList, g.edgeList⟩

/-- The graph of a snapshot. Of nodes with one identifier the last counts, and edges that could
not be connected are dropped before those with one identifier are merged in the same way. -/
def ofSnapshot (s : Snapshot) : Graph :=
  let g : Graph :=
    { nodes := .index Node.id s.nodes
      edges := .empty
      nodes_keyed := OrderedMap.keyed_index _ _
      edges_keyed := OrderedMap.keyed_empty }
  { g with
    edges := .index Edge.id (s.edges.filter g.accepts)
    edges_keyed := OrderedMap.keyed_index _ _ }

end Graph

end PipelineGraph
