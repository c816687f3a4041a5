import PipelineGraph.Settings
import PipelineGraph.Validation.Report

namespace PipelineGraph

/-- An editing session: the live graph with everything that changes around it. -/
structure Editor where
  graph : Graph := .empty
  selection : Selection := {}
  marquee : Marquee := .idle
  clipboard : Clipboard
  drag : Option Drag := none
  modalOpen : Bool := false
  viewLayer : Layer := .control
  naming : NamingPolicy
  palette : Palette
  settings : Settings
  ids : IdSupply

namespace Editor

def new (settings : Settings) (palette : Palette) (naming : NamingPolicy) (ids : IdSupply) :
    Editor :=
  { clipboard := { offset := settings.pasteOffset }, naming, palette, settings, ids }

def isDragging (e : Editor) : Bool := e.drag.isSome

/-- Replaces the whole graph, ends every gesture and drops what is gone from the selection. -/
def load (e : Editor) (s : Snapshot) : Editor :=
  let graph := Graph.ofSnapshot s
  { e with
    graph
    drag := none
    marquee := .idle
    selection := e.selection.change (.retainExisting graph) }

def clear (e : Editor) : Editor := e.load .empty

def toggleLayer (e : Editor) : Editor := { e with viewLayer := e.viewLayer.toggled }

def addFunction (e : Editor) (f : FunctionSignature) (position : Point) : NodeId × Editor :=
  let (n, ids) := Node.newFunction f (e.naming f.name e.graph) e.ids
  (n.id, { e with
    graph := e.graph.addNode { n with position, width := e.settings.functionWidth }
    ids })

def addFunctionNamed (e : Editor) (name : String) (position : Point) : Option NodeId × Editor :=
  match e.palette.find? name with
  | none => (none, e)
  | some f => (e.addFunction f position).map some id

def addStart (e : Editor) : NodeId × Editor :=
  let (n, ids) := Node.newStart (e.naming e.settings.startName e.graph) e.ids
  (n.id, { e with
    graph := e.graph.addNode
      { n with position := e.settings.startPosition, width := e.settings.startWidth }
    ids })

def changeNode (e : Editor) (id : NodeId) (c : NodeChange) : Bool × Editor :=
  (id ∈ e.graph.nodes, { e with graph := e.graph.changeNode id c })

def setBinding (e : Editor) (id : NodeId) (input expr : String) : Bool × Editor :=
  e.changeNode id { bindings := [(input, expr)] }

def rename (e : Editor) (id : NodeId) (name : String) : Bool × Editor :=
  e.changeNode id { name := some name }

def setEdgeEndpoints (e : Editor) (id : EdgeId) (drawnFrom drawnTo : Point) : Bool × Editor :=
  (id ∈ e.graph.edges, { e with
    graph := e.graph.changeEdge id { drawnFrom := some drawnFrom, drawnTo := some drawnTo } })

def connect (e : Editor) (source target : Endpoint) : Except ConnectError EdgeId × Editor :=
  let (result, graph, ids) := e.graph.connect source target e.ids
  (result, { e with graph, ids })

def deleteNode (e : Editor) (id : NodeId) : Removal × Editor :=
  let (removal, graph) := e.graph.removeNode id
  (removal, { e with graph, selection := e.selection.change (.purge removal) })

def deleteEdge (e : Editor) (id : EdgeId) : Removal × Editor :=
  let (edge, graph) := e.graph.removeEdge id
  let removal : Removal := { edges := (edge.map (·.id)).toList }
  (removal, { e with graph, selection := e.selection.change (.purge removal) })

def deleteSelection (e : Editor) : Removal × Editor :=
  let (removal, graph, selection) := deleteSelected e.graph e.selection
  (removal, { e with graph, selection })

def copy (e : Editor) : Nat × Editor :=
  let clipboard := e.clipboard.copy e.graph e.selection.current
  (clipboard.contents.nodes.length, { e with clipboard })

def cut (e : Editor) : Removal × Editor :=
  let (clipboard, removal, graph, selection) := e.clipboard.cut e.graph e.selection
  (removal, { e with clipboard, graph, selection })

def paste (e : Editor) : PasteOutcome × Editor :=
  let (outcome, graph, selection, ids) :=
    e.clipboard.paste e.graph e.selection e.naming e.clipboard.offset e.ids
  (outcome, { e with graph, selection, ids })

def validate (e : Editor) : Report := e.graph.validate

end Editor

end PipelineGraph
