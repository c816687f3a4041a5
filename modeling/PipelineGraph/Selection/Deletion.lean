import PipelineGraph.Selection.Basic

namespace PipelineGraph

/-- Removes the selected nodes with the edges that touch them, and the selected edges, and empties
the selection. The observers are told once. -/
def deleteSelected (g : Graph) (s : Selection) : Removal × Graph × Selection :=
  let (cascade, g) := g.removeNodes s.current.nodes
  let (explicit, g) := g.removeEdges (s.current.edges.filter fun id ↦ id ∉ cascade.edges)
  let removal : Removal := ⟨cascade.nodes, cascade.edges ++ explicit⟩
  (removal, g, s.batch [.purge removal, .clear])

end PipelineGraph
