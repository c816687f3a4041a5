import PipelineGraph.Editor.Input

namespace PipelineGraph

/-- Everything that can be asked of an editor. -/
inductive EditorCall where
  | addFunction (f : FunctionSignature) (position : Point)
  | addFunctionNamed (name : String) (position : Point)
  | addStart
  | setBinding (id : NodeId) (input expr : String)
  | rename (id : NodeId) (name : String)
  | connect (source target : Endpoint)
  | setEdgeEndpoints (id : EdgeId) (drawnFrom drawnTo : Point)
  | deleteNode (id : NodeId)
  | deleteEdge (id : EdgeId)
  | deleteSelection
  | copy
  | cut
  | paste
  | load (s : Snapshot)
  | clear
  | select (script : SelectionScript)
  | subscribe
  | setModal (isOpen : Bool)
  | setLayer (layer : Layer)
  | toggleLayer
  | nodePressed (id : NodeId) (pointer : Point) (m : Modifiers)
  | edgeClicked (id : EdgeId) (m : Modifiers)
  | backgroundPressed (pointer : Point) (button : PointerButton) (m : Modifiers)
  | pointerMoved (pointer : Point)
  | pointerReleased (m : Modifiers) (bounds : NodeBounds)
  | keyPressed (k : Key) (m : Modifiers)
  | perform (a : EditorAction)

namespace Editor

def call (e : Editor) : EditorCall → Editor
  | .addFunction f position => (e.addFunction f position).2
  | .addFunctionNamed name position => (e.addFunctionNamed name position).2
  | .addStart => e.addStart.2
  | .setBinding id input expr => (e.setBinding id input expr).2
  | .rename id name => (e.rename id name).2
  | .connect source target => (e.connect source target).2
  | .setEdgeEndpoints id drawnFrom drawnTo => (e.setEdgeEndpoints id drawnFrom drawnTo).2
  | .deleteNode id => (e.deleteNode id).2
  | .deleteEdge id => (e.deleteEdge id).2
  | .deleteSelection => e.deleteSelection.2
  | .copy => e.copy.2
  | .cut => e.cut.2
  | .paste => e.paste.2
  | .load s => e.load s
  | .clear => e.clear
  | .select script => { e with selection := script.run e.selection }
  | .subscribe => { e with selection := e.selection.subscribe }
  | .setModal isOpen => { e with modalOpen := isOpen }
  | .setLayer layer => { e with viewLayer := layer }
  | .toggleLayer => e.toggleLayer
  | .nodePressed id pointer m => e.nodePressed id pointer m
  | .edgeClicked id m => e.edgeClicked id m
  | .backgroundPressed pointer button m => e.backgroundPressed pointer button m
  | .pointerMoved pointer => e.pointerMoved pointer
  | .pointerReleased m bounds => (e.pointerReleased m bounds).2
  | .keyPressed k m => (e.keyPressed k m).2
  | .perform a => (e.perform a).2

def run (e : Editor) (calls : List EditorCall) : Editor := calls.foldl call e

end Editor

end PipelineGraph
