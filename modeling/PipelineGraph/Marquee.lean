import PipelineGraph.Selection.Basic

namespace PipelineGraph

/-- A selection rectangle being drawn, from where the pointer went down to where it is. -/
inductive Marquee where
  | idle
  | selecting (anchor corner : Point)

/-- Measured bounds of nodes, as far as they are known. -/
abbrev NodeBounds := NodeId → Option Rect

namespace Marquee

def defaultNodeHeight : Float32 := 60

def isSelecting : Marquee → Bool
  | idle => false
  | selecting _ _ => true

def rect? : Marquee → Option Rect
  | idle => none
  | selecting anchor corner => some (.spanning anchor corner)

def begin (p : Point) : Marquee := selecting p p

def update (m : Marquee) (p : Point) : Marquee :=
  match m with
  | idle => idle
  | selecting anchor _ => selecting anchor p

def cancel (_ : Marquee) : Marquee := idle

def approximateBounds (n : Node) (height : Float32) : Rect := .ofCorner n.position n.width height

def enclosesNode (r : Rect) (height : Float32) (bounds : NodeBounds) (n : Node) : Bool :=
  r.encloses ((bounds n.id).getD (approximateBounds n height))

def enclosesEdge (r : Rect) (e : Edge) : Bool := r.contains e.drawnFrom && r.contains e.drawnTo

/-- Selects all that lies entirely inside and ends the gesture. Without a gesture in progress
nothing changes and the result is `false`. -/
def finish (m : Marquee) (height : Float32) (extend : Bool) (g : Graph) (bounds : NodeBounds)
    (s : Selection) : Bool × Marquee × Selection :=
  match m.rect? with
  | none => (false, m, s)
  | some r =>
    let nodes := (g.nodeList.filter (enclosesNode r height bounds)).map (·.id)
    let edges := (g.edgeList.filter (enclosesEdge r)).map (·.id)
    (true, idle, s.batch [.selectNodes nodes extend, .selectEdges edges true])

end Marquee

end PipelineGraph
