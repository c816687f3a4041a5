import PipelineGraph.Edge
import PipelineGraph.Node

namespace PipelineGraph

/-- Nodes and edges in the order in which they were added, each under its identifier. -/
structure Graph where
  nodes : OrderedMap NodeId Node
  edges : OrderedMap EdgeId Edge
  nodes_keyed : nodes.Keyed Node.id
  edges_keyed : edges.Keyed Edge.id

namespace Graph

theorem ext {g h : Graph} (hn : g.nodes = h.nodes) (he : g.edges = h.edges) : g = h := by
  cases g; cases h; cases hn; cases he; rfl

def empty : Graph := ⟨.empty, .empty, OrderedMap.keyed_empty, OrderedMap.keyed_empty⟩

instance : Inhabited Graph := ⟨empty⟩

def nodeList (g : Graph) : List Node := g.nodes.values

def edgeList (g : Graph) : List Edge := g.edges.values

def node? (g : Graph) (id : NodeId) : Option Node := g.nodes.get? id

def edge? (g : Graph) (id : EdgeId) : Option Edge := g.edges.get? id

def port? (g : Graph) (e : Endpoint) : Option Port := do
  let n ← g.node? e.node
  n.ports.find? e.port

/-- The first node of that name. -/
def nodeNamed? (g : Graph) (name : String) : Option Node := g.nodeList.find? fun n ↦ n.name = name

def usesName (g : Graph) (name : String) : Bool := (g.nodeNamed? name).isSome

def addNode (g : Graph) (n : Node) : Graph :=
  { g with nodes := g.nodes.insert n.id n, nodes_keyed := g.nodes_keyed.insert n }

def addEdge (g : Graph) (e : Edge) : Graph :=
  { g with edges := g.edges.insert e.id e, edges_keyed := g.edges_keyed.insert e }

def changeNode (g : Graph) (id : NodeId) (c : NodeChange) : Graph :=
  { g with
    nodes := g.nodes.adjust id c.apply
    nodes_keyed := g.nodes_keyed.adjust fun _ h ↦ h }

def changeEdge (g : Graph) (id : EdgeId) (c : EdgeChange) : Graph :=
  { g with
    edges := g.edges.adjust id c.apply
    edges_keyed := g.edges_keyed.adjust fun _ h ↦ h }

def edgesAt (g : Graph) (n : NodeId) : List Edge := g.edgeList.filter fun e ↦ e.touches n

/-- The nodes one edge away in either direction, each once and in graph order. -/
def neighbours (g : Graph) (n : NodeId) : List Node :=
  let ids := (g.edgesAt n).filterMap fun e ↦ e.opposite? n
  g.nodeList.filter fun m ↦ m.id ∈ ids

end Graph

end PipelineGraph
