import PipelineGraph.Graph.Snapshot
import PipelineGraph.Naming
import PipelineGraph.Selection.Deletion

namespace PipelineGraph

structure Clipboard where
  contents : Snapshot := .empty
  offset : Point

structure PasteOutcome where
  nodes : List NodeId := []
  edges : List EdgeId := []
  dropped : Nat := 0
deriving DecidableEq

namespace Clipboard

def defaultOffset : Point := ⟨20, 20⟩

def isEmpty (c : Clipboard) : Bool := c.contents.nodes.isEmpty

/-- The selected nodes, with the edges that are selected or run between two of them. -/
def copied (g : Graph) (s : Selected) : Snapshot where
  nodes := g.nodeList.filter fun n ↦ n.id ∈ s.nodes
  edges := g.edgeList.filter fun e ↦
    e.id ∈ s.edges ∨ (e.source.node ∈ s.nodes ∧ e.target.node ∈ s.nodes)

def copy (c : Clipboard) (g : Graph) (s : Selected) : Clipboard := { c with contents := copied g s }

def cut (c : Clipboard) (g : Graph) (s : Selection) : Clipboard × Removal × Graph × Selection :=
  (c.copy g s.current, deleteSelected g s)

structure Twin where
  source : Node
  copy : Node

def duplicate (n : Node) (name : String) (offset : Point) (ids : IdSupply) : Node × IdSupply :=
  let (id, ids) := ids.drawNode
  let (ports, ids) := n.ports.renew ids
  ({ n with id, name, ports, position := n.position + offset }, ids)

/-- Adds a copy of each node in turn. Names are chosen against the graph as it has grown so far. -/
def pasteNodes (naming : NamingPolicy) (offset : Point) :
    List Node → Graph → IdSupply → List Twin × Graph × IdSupply
  | [], g, ids => ([], g, ids)
  | n :: rest, g, ids =>
    let (copy, ids) := duplicate n (naming n.name g) offset ids
    let (twins, g, ids) := pasteNodes naming offset rest (g.addNode copy) ids
    (⟨n, copy⟩ :: twins, g, ids)

/-- The end of a copied edge moved to the copy of its node, at the port of the same number. -/
def rewire? (twins : List Twin) (e : Endpoint) : Option Endpoint := do
  let t ← twins.reverse.find? fun t ↦ t.source.id = e.node
  let index ← t.source.ports.index? e.port
  let port ← t.copy.ports.get? index
  return ⟨t.copy.id, port.id⟩

/-- Adds a copy of each edge whose two ends can be rewired, and counts the others. -/
def pasteEdges (twins : List Twin) (offset : Point) :
    List Edge → Graph → IdSupply → List EdgeId × Nat × Graph × IdSupply
  | [], g, ids => ([], 0, g, ids)
  | e :: rest, g, ids =>
    match rewire? twins e.source, rewire? twins e.target with
    | some source, some target =>
      let (id, ids) := ids.drawEdge
      let copy : Edge :=
        { id, layer := e.layer, source, target
          drawnFrom := e.drawnFrom + offset
          drawnTo := e.drawnTo + offset }
      let (added, dropped, g, ids) := pasteEdges twins offset rest (g.addEdge copy) ids
      (id :: added, dropped, g, ids)
    | _, _ =>
      let (added, dropped, g, ids) := pasteEdges twins offset rest g ids
      (added, dropped + 1, g, ids)

def paste (c : Clipboard) (g : Graph) (s : Selection) (naming : NamingPolicy) (offset : Point)
    (ids : IdSupply) : PasteOutcome × Graph × Selection × IdSupply :=
  if c.isEmpty then ({}, g, s, ids) else
    let (twins, g, ids) := pasteNodes naming offset c.contents.nodes g ids
    let (edges, dropped, g, ids) := pasteEdges twins offset c.contents.edges g ids
    let nodes := twins.map fun t ↦ t.copy.id
    ({ nodes, edges, dropped }, g, s.batch [.selectNodes nodes false, .selectEdges edges true], ids)

end Clipboard

end PipelineGraph
