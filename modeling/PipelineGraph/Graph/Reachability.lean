import PipelineGraph.Graph.Basic

namespace PipelineGraph.Graph

def controlArcs (g : Graph) : List (NodeId × NodeId) :=
  (g.edgeList.filter fun e ↦ e.layer = .control).map fun e ↦ (e.source.node, e.target.node)

def startIds (g : Graph) : List NodeId := (g.nodeList.filter Node.isStart).map (·.id)

def newOnes (known : List NodeId) : List NodeId → List NodeId
  | [] => []
  | n :: rest => if n ∈ known then newOnes known rest else n :: newOnes (n :: known) rest

theorem length_newOnes_le (known l : List NodeId) : (newOnes known l).length ≤ l.length := by
  induction l generalizing known with
  | nil => exact Nat.le_refl 0
  | cons n rest ih =>
    unfold newOnes
    split
    · exact Nat.le_succ_of_le (ih known)
    · exact Nat.succ_le_succ (ih _)

def targetsOf (arcs : List (NodeId × NodeId)) (n : NodeId) : List NodeId :=
  (arcs.filter fun a ↦ a.1 = n).map Prod.snd

def arcsNotFrom (arcs : List (NodeId × NodeId)) (n : NodeId) : List (NodeId × NodeId) :=
  arcs.filter fun a ↦ a.1 ≠ n

theorem length_targetsOf_add (arcs : List (NodeId × NodeId)) (n : NodeId) :
    (targetsOf arcs n).length + (arcsNotFrom arcs n).length = arcs.length := by
  induction arcs with
  | nil => rfl
  | cons a arcs ih =>
    by_cases h : a.1 = n <;> simp_all [targetsOf, arcsNotFrom] <;> omega

/-- Follows the arcs out of each pending node in turn. Every arc is used once, and a node is
appended to `reached` and to `pending` the first time an arc leads to it. -/
def explore (arcs : List (NodeId × NodeId)) (reached pending : List NodeId) : List NodeId :=
  match pending with
  | [] => reached
  | n :: rest =>
    let fresh := newOnes reached (targetsOf arcs n)
    explore (arcsNotFrom arcs n) (reached ++ fresh) (rest ++ fresh)
termination_by arcs.length + pending.length
decreasing_by
  have h := length_newOnes_le reached (targetsOf arcs n)
  have hsplit := length_targetsOf_add arcs n
  simp only [List.length_append, List.length_cons]
  omega

/-- The nodes that control flow can reach from a start node, in the order of a breadth-first
search. -/
def reachable (g : Graph) : List NodeId :=
  let starts := newOnes [] g.startIds
  explore g.controlArcs starts starts

inductive ControlPath (g : Graph) : NodeId → NodeId → Prop where
  | refl (n : NodeId) : ControlPath g n n
  | step {m n k : NodeId} (path : ControlPath g m n) (arc : (n, k) ∈ g.controlArcs) :
      ControlPath g m k

end PipelineGraph.Graph
