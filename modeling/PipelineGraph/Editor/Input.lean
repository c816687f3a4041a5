import PipelineGraph.Editor.Basic

namespace PipelineGraph

structure Modifiers where
  alt : Bool := false
  ctrl : Bool := false
  shift : Bool := false
  macCmd : Bool := false
  command : Bool := false
deriving DecidableEq

/-- The key that toggles: control, or command on a Mac. -/
def Modifiers.toggles (m : Modifiers) : Bool := m.ctrl || m.command || m.macCmd

inductive PointerButton where
  | primary
  | secondary
  | middle
  | extra1
  | extra2
deriving DecidableEq

inductive Key where
  | delete
  | backspace
  | escape
  | a
  | c
  | x
  | v
  | other
deriving DecidableEq

inductive EditorAction where
  | delete
  | selectAll
  | copy
  | cut
  | paste
  | escape
deriving DecidableEq

def EditorAction.ofKey? (k : Key) (m : Modifiers) : Option EditorAction :=
  match k, m.toggles with
  | .delete, _ | .backspace, _ => some delete
  | .escape, _ => some escape
  | .a, true => some selectAll
  | .c, true => some copy
  | .x, true => some cut
  | .v, true => some paste
  | _, _ => none

namespace Editor

/-- The pointer went down on a node. The node joins the selection or becomes all of it, unless it
is selected already, and a drag of all selected nodes begins. -/
def nodePressed (e : Editor) (id : NodeId) (pointer : Point) (m : Modifiers) : Editor :=
  if e.modalOpen ∨ id ∉ e.graph.nodes then e else
    let selection :=
      if id ∈ e.selection.current.nodes then e.selection
      else e.selection.change (.selectNodes [id] (m.toggles || m.shift))
    { e with
      selection
      drag := some (.begin e.graph selection.current.nodes pointer e.settings.dragThreshold) }

def edgeClicked (e : Editor) (id : EdgeId) (m : Modifiers) : Editor :=
  if e.modalOpen ∨ id ∉ e.graph.edges then e else
    { e with
      selection := e.selection.change
        (if m.toggles then .toggleEdge id else .selectEdges [id] m.shift) }

/-- The pointer went down on empty canvas. The primary button begins a marquee, any other one
clears the selection unless the toggling key is held. -/
def backgroundPressed (e : Editor) (pointer : Point) (button : PointerButton) (m : Modifiers) :
    Editor :=
  if e.modalOpen then e
  else if button = .primary then { e with marquee := .begin pointer }
  else if m.toggles then e
  else { e with selection := e.selection.change .clear }

def pointerMoved (e : Editor) (pointer : Point) : Editor :=
  if e.modalOpen then e else
    match e.drag with
    | some d =>
      let (d, graph) := d.update e.graph pointer
      { e with drag := some d, graph }
    | none => { e with marquee := e.marquee.update pointer }

/-- Ends the drag, or else the marquee, which selects nothing while a modal is open. The result
tells whether a drag went farther than a click. -/
def pointerReleased (e : Editor) (m : Modifiers) (bounds : NodeBounds) : Bool × Editor :=
  match e.drag with
  | some d => (d.moved, { e with drag := none })
  | none =>
    if e.modalOpen then (false, { e with marquee := e.marquee.cancel }) else
      let (_, marquee, selection) :=
        e.marquee.finish e.settings.nodeHeight m.toggles e.graph bounds e.selection
      (false, { e with marquee, selection })

def perform (e : Editor) (a : EditorAction) : Bool × Editor :=
  if e.modalOpen then (false, e) else
    (true, match a with
      | .delete => e.deleteSelection.2
      | .selectAll => { e with selection := e.selection.change (.selectAll e.graph) }
      | .copy => e.copy.2
      | .cut => e.cut.2
      | .paste => e.paste.2
      | .escape =>
        if e.marquee.isSelecting then { e with marquee := e.marquee.cancel }
        else { e with selection := e.selection.change .clear })

def keyPressed (e : Editor) (k : Key) (m : Modifiers) : Bool × Editor :=
  match EditorAction.ofKey? k m with
  | some a => e.perform a
  | none => (false, e)

end Editor

end PipelineGraph
