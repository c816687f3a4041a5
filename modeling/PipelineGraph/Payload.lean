import PipelineGraph.Graph.Basic

namespace PipelineGraph

structure PayloadNode where
  id : NodeId
  title : String
  kind : String
  bindings : OrderedMap String String
  functionName : Option String
deriving BEq

structure PayloadEdge where
  source : Endpoint
  target : Endpoint
deriving DecidableEq

/-- What is sent to the execution backend: nodes and wiring without anything about drawing. -/
structure Payload where
  nodes : List PayloadNode
  edges : List PayloadEdge
deriving BEq

def PayloadNode.ofNode (n : Node) : PayloadNode where
  id := n.id
  title := n.name
  kind := n.kind.tag
  bindings := n.bindings
  functionName := n.kind.signature?.map (·.name)

def Graph.payload (g : Graph) : Payload where
  nodes := g.nodeList.map .ofNode
  edges := g.edgeList.map fun e ↦ ⟨e.source, e.target⟩

end PipelineGraph
