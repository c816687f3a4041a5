import PipelineGraph.Geometry
import PipelineGraph.Port

namespace PipelineGraph

structure Endpoint where
  node : NodeId
  port : PortId
deriving DecidableEq

/-- A directed connection. The two points are where it was last drawn; nothing else depends on
them. -/
structure Edge where
  id : EdgeId
  layer : Layer
  source : Endpoint
  target : Endpoint
  drawnFrom : Point := .zero
  drawnTo : Point := .zero
deriving BEq

namespace Edge

def touches (e : Edge) (n : NodeId) : Bool := e.source.node = n || e.target.node = n

def opposite? (e : Edge) (n : NodeId) : Option NodeId :=
  if e.source.node = n then some e.target.node
  else if e.target.node = n then some e.source.node
  else none

end Edge

structure EdgeChange where
  drawnFrom : Option Point := none
  drawnTo : Option Point := none

def EdgeChange.apply (c : EdgeChange) (e : Edge) : Edge :=
  { e with
    drawnFrom := c.drawnFrom.getD e.drawnFrom
    drawnTo := c.drawnTo.getD e.drawnTo }

end PipelineGraph
