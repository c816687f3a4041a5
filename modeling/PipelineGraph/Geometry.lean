namespace PipelineGraph

structure Point where
  x : Float32
  y : Float32
deriving BEq, Inhabited

namespace Point

def zero : Point := ⟨0, 0⟩

instance : Add Point := ⟨fun p q ↦ ⟨p.x + q.x, p.y + q.y⟩⟩

instance : Sub Point := ⟨fun p q ↦ ⟨p.x - q.x, p.y - q.y⟩⟩

end Point

/-- The smaller of two numbers. Of equal ones it is the first, and a number is preferred to NaN. -/
def lesser (a b : Float32) : Float32 := if a.isNaN ∨ b < a then b else a

def greater (a b : Float32) : Float32 := if a.isNaN ∨ a < b then b else a

structure Rect where
  min : Point
  max : Point
deriving BEq

namespace Rect

def spanning (p q : Point) : Rect :=
  ⟨⟨lesser p.x q.x, lesser p.y q.y⟩, ⟨greater p.x q.x, greater p.y q.y⟩⟩

def ofCorner (corner : Point) (width height : Float32) : Rect := ⟨corner, corner + ⟨width, height⟩⟩

def contains (r : Rect) (p : Point) : Bool :=
  r.min.x ≤ p.x && p.x ≤ r.max.x && r.min.y ≤ p.y && p.y ≤ r.max.y

def encloses (outer inner : Rect) : Bool := outer.contains inner.min && outer.contains inner.max

end Rect

end PipelineGraph
