import PipelineGraph.Graph.Basic

namespace PipelineGraph

/-- The identifiers that a removal took out of a graph, those of cascaded edges included. -/
structure Removal where
  nodes : List NodeId := []
  edges : List EdgeId := []
deriving DecidableEq

namespace Removal

def isEmpty (r : Removal) : Bool := r.nodes.isEmpty && r.edges.isEmpty

def append (r s : Removal) : Removal := ⟨r.nodes ++ s.nodes, r.edges ++ s.edges⟩

end Removal

namespace Graph

/-- Removes nodes together with every edge that touches one of them. If none of the nodes exists
the graph is left alone. -/
def removeNodes (g : Graph) (ids : List NodeId) : Removal × Graph :=
  let nodes := g.nodes.keys.filter fun id ↦ id ∈ ids
  let touched (e : Edge) : Bool := e.source.node ∈ ids || e.target.node ∈ ids
  if nodes.isEmpty then ({}, g) else
    ({ nodes, edges := (g.edges.filter fun _ e ↦ touched e).keys },
      { nodes := g.nodes.filter fun id _ ↦ id ∉ ids
        edges := g.edges.filter fun _ e ↦ !touched e
        nodes_keyed := g.nodes_keyed.filter _
        edges_keyed := g.edges_keyed.filter _ })

def removeNode (g : Graph) (id : NodeId) : Removal × Graph := g.removeNodes [id]

def removeEach (g : Graph) (ids : List NodeId) : Removal × Graph :=
  ids.foldl (fun (r, g) id ↦ let (s, g) := g.removeNode id; (r.append s, g)) ({}, g)

def removeEdge (g : Graph) (id : EdgeId) : Option Edge × Graph :=
  (g.edge? id, { g with edges := g.edges.erase id, edges_keyed := g.edges_keyed.erase id })

def removeEdges (g : Graph) (ids : List EdgeId) : List EdgeId × Graph :=
  (g.edges.keys.filter fun id ↦ id ∈ ids,
    { g with
      edges := g.edges.filter fun id _ ↦ id ∉ ids
      edges_keyed := g.edges_keyed.filter _ })

end Graph

end PipelineGraph
