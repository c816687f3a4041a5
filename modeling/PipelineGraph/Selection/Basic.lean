import PipelineGraph.Graph.Removal

namespace PipelineGraph

structure Selected where
  nodes : List NodeId := []
  edges : List EdgeId := []
deriving DecidableEq

/-- One elementary change of what is selected. With `extend` the new identifiers are added,
without it they replace all others. -/
inductive SelectionChange where
  | selectNodes (ids : List NodeId) (extend : Bool)
  | selectEdges (ids : List EdgeId) (extend : Bool)
  | selectAll (g : Graph)
  | deselectNode (id : NodeId)
  | deselectEdge (id : EdgeId)
  | toggleNode (id : NodeId)
  | toggleEdge (id : EdgeId)
  | clear
  | purge (r : Removal)
  | retainExisting (g : Graph)

namespace Selected

def isEmpty (s : Selected) : Bool := s.nodes.isEmpty && s.edges.isEmpty

def addAll {α : Type} [DecidableEq α] (present ids : List α) : List α :=
  ids.foldl (fun l id ↦ if id ∈ l then l else l ++ [id]) present

def toggle {α : Type} [DecidableEq α] (present : List α) (id : α) : List α :=
  if id ∈ present then present.filter (· ≠ id) else present ++ [id]

def apply (s : Selected) : SelectionChange → Selected
  | .selectNodes ids extend =>
    let s := if extend then s else {}
    { s with nodes := addAll s.nodes ids }
  | .selectEdges ids extend =>
    let s := if extend then s else {}
    { s with edges := addAll s.edges ids }
  | .selectAll g => { nodes := addAll s.nodes g.nodes.keys, edges := addAll s.edges g.edges.keys }
  | .deselectNode id => { s with nodes := s.nodes.filter (· ≠ id) }
  | .deselectEdge id => { s with edges := s.edges.filter (· ≠ id) }
  | .toggleNode id => { s with nodes := toggle s.nodes id }
  | .toggleEdge id => { s with edges := toggle s.edges id }
  | .clear => {}
  | .purge r =>
    { nodes := s.nodes.filter fun id ↦ id ∉ r.nodes, edges := s.edges.filter fun id ↦ id ∉ r.edges }
  | .retainExisting g =>
    { nodes := s.nodes.filter fun id ↦ id ∈ g.nodes, edges := s.edges.filter fun id ↦ id ∈ g.edges }

end Selected

structure Notice where
  observer : Nat
  selected : Selected
deriving DecidableEq

/-- The current selection with its observers. Inside a batch a notification is only marked as
pending. All notices sent so far are kept, oldest first. -/
structure Selection where
  current : Selected := {}
  observers : Nat := 0
  depth : Nat := 0
  pending : Bool := false
  notices : List Notice := []

namespace Selection

def subscribe (s : Selection) : Selection := { s with observers := s.observers + 1 }

def announce (s : Selection) : Selection :=
  { s with notices := s.notices ++ (List.range s.observers).map fun i ↦ ⟨i, s.current⟩ }

def notify (s : Selection) : Selection :=
  if s.depth = 0 then s.announce else { s with pending := true }

def change (s : Selection) (c : SelectionChange) : Selection :=
  { s with current := s.current.apply c }.notify

def openBatch (s : Selection) : Selection := { s with depth := s.depth + 1 }

/-- Ends a batch. The outermost one tells the observers if something happened in it. -/
def closeBatch (s : Selection) : Selection :=
  let s := { s with depth := s.depth - 1 }
  if s.depth = 0 ∧ s.pending then { s with pending := false }.announce else s

def batch (s : Selection) (changes : List SelectionChange) : Selection :=
  (changes.foldl change s.openBatch).closeBatch

end Selection

/-- A sequence of calls to a selection, in which parts may be batched to any depth. -/
inductive SelectionScript where
  | done
  | change (c : SelectionChange) (rest : SelectionScript)
  | subscribe (rest : SelectionScript)
  | batch (body rest : SelectionScript)

def SelectionScript.run : SelectionScript → Selection → Selection
  | done, s => s
  | change c rest, s => rest.run (s.change c)
  | subscribe rest, s => rest.run s.subscribe
  | batch body rest, s => rest.run (body.run s.openBatch).closeBatch

end PipelineGraph
