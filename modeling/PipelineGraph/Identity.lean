import PipelineGraph.Uuid

namespace PipelineGraph

structure NodeId where
  uuid : Uuid
deriving DecidableEq, Inhabited

structure PortId where
  uuid : Uuid
deriving DecidableEq, Inhabited

structure EdgeId where
  uuid : Uuid
deriving DecidableEq, Inhabited

/-- The source of new identifiers: an unending sequence and how much of it has been used. -/
structure IdSupply where
  stream : Nat → Uuid
  drawn : Nat

namespace IdSupply

def ofStream (stream : Nat → Uuid) : IdSupply := ⟨stream, 0⟩

def draw (s : IdSupply) : Uuid × IdSupply := (s.stream s.drawn, { s with drawn := s.drawn + 1 })

def drawNode (s : IdSupply) : NodeId × IdSupply := s.draw.map .mk id

def drawPort (s : IdSupply) : PortId × IdSupply := s.draw.map .mk id

def drawEdge (s : IdSupply) : EdgeId × IdSupply := s.draw.map .mk id

def drawnUntil (s t : IdSupply) : List Uuid :=
  (List.range' s.drawn (t.drawn - s.drawn)).map s.stream

/-- The identifiers handed out between two states differ from each other and from those in use. -/
def Fresh (s t : IdSupply) (used : List Uuid) : Prop :=
  (s.drawnUntil t).Nodup ∧ ∀ u ∈ s.drawnUntil t, u ∉ used

instance (s t : IdSupply) (used : List Uuid) : Decidable (s.Fresh t used) :=
  inferInstanceAs (Decidable (_ ∧ _))

end IdSupply

end PipelineGraph
