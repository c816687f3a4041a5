import PipelineGraph.Graph.Basic

namespace PipelineGraph

/-- A group of nodes following the pointer from where they stood when it went down. -/
structure Drag where
  anchor : Point
  starts : List (NodeId × Point)
  threshold : Float32
  moved : Bool := false

namespace Drag

def defaultThreshold : Float32 := 1

def begin (g : Graph) (ids : List NodeId) (anchor : Point) (threshold : Float32) : Drag where
  anchor
  starts := ids.filterMap fun id ↦ (g.node? id).map fun n ↦ (id, n.position)
  threshold

def exceeds (d : Drag) (delta : Point) : Bool :=
  d.threshold < delta.x.abs || d.threshold < delta.y.abs

/-- Puts every captured node at its first position plus the way of the pointer since then. -/
def update (d : Drag) (g : Graph) (pointer : Point) : Drag × Graph :=
  let delta := pointer - d.anchor
  ({ d with moved := d.moved || d.exceeds delta },
    d.starts.foldl (fun g (id, start) ↦ g.changeNode id { position := some (start + delta) }) g)

def nodes (d : Drag) : List NodeId := d.starts.map Prod.fst

end Drag

end PipelineGraph
