import PipelineGraph.Graph.Basic

namespace PipelineGraph

inductive ConnectError where
  | nodeNotFound (id : NodeId)
  | portNotFound (id : PortId)
  | wrongDirection
  | layerMismatch
  | selfLoop
deriving DecidableEq

def ConnectError.message (write : Uuid → String) : ConnectError → String
  | nodeNotFound id => "Node not found: NodeId(" ++ write id.uuid ++ ")"
  | portNotFound id => "Port not found: PortId(" ++ write id.uuid ++ ")"
  | wrongDirection => "Edges must run from an output port to an input port"
  | layerMismatch => "Ports are on different layers"
  | selfLoop => "Self-loop not allowed"

namespace Graph

/-- The layer of an edge between the two ends, or the first reason against it. -/
def link (g : Graph) (source target : Endpoint) : Except ConnectError Layer := do
  let some sourceNode := g.node? source.node | throw (.nodeNotFound source.node)
  let some targetNode := g.node? target.node | throw (.nodeNotFound target.node)
  let some sourcePort := sourceNode.ports.find? source.port | throw (.portNotFound source.port)
  let some targetPort := targetNode.ports.find? target.port | throw (.portNotFound target.port)
  if !sourcePort.canConnect targetPort then
    throw (if sourcePort.layer = targetPort.layer then .wrongDirection else .layerMismatch)
  if source.node = target.node then throw .selfLoop
  return sourcePort.layer

def connect (g : Graph) (source target : Endpoint) (ids : IdSupply) :
    Except ConnectError EdgeId × Graph × IdSupply :=
  match g.link source target with
  | .error e => (.error e, g, ids)
  | .ok layer =>
    let (id, ids) := ids.drawEdge
    (.ok id, g.addEdge { id, layer, source, target }, ids)

/-- Both ports exist, can be connected, lie on the edge's layer and belong to different nodes. -/
def accepts (g : Graph) (e : Edge) : Bool :=
  match g.port? e.source, g.port? e.target with
  | some p, some q => p.canConnect q && p.layer = e.layer && e.source.node ≠ e.target.node
  | _, _ => false

end Graph

end PipelineGraph
