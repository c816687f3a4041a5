import Mathlib.Data.List.Count
import PipelineGraph.Proofs.Cascade

namespace PipelineGraph

/-- A call that takes nodes or edges out of a graph. -/
inductive RemovalCall where
  | node (id : NodeId)
  | nodes (ids : List NodeId)
  | edge (id : EdgeId)
  | edges (ids : List EdgeId)

namespace Graph

def remove (g : Graph) : RemovalCall → Removal × Graph
  | .node id => g.removeNode id
  | .nodes ids => g.removeNodes ids
  | .edge id =>
    let (edge, g) := g.removeEdge id
    ({ edges := (edge.map (·.id)).toList }, g)
  | .edges ids =>
    let (edges, g) := g.removeEdges ids
    ({ edges }, g)

def removeAll (g : Graph) (calls : List RemovalCall) : Removal × Graph :=
  calls.foldl (fun (r, g) c ↦ let (s, g) := g.remove c; (r.append s, g)) ({}, g)

theorem removeEdge_eq_removeEdges (g : Graph) (id : EdgeId) :
    (((g.removeEdge id).1.map (·.id)).toList, (g.removeEdge id).2) = g.removeEdges [id] := by
  apply Prod.ext
  · have hkeys : g.edges.keys.Nodup := g.edges.nodup_keys
    have hlisted : (g.removeEdges [id]).1 =
        List.replicate (if id ∈ g.edges.keys then 1 else 0) id := by
      rw [← hkeys.count, ← List.filter_eq]
      simp [removeEdges]
    rw [hlisted]
    change ((g.edge? id).map (·.id)).toList = _
    cases hfound : g.edge? id with
    | none =>
      have habsent : id ∉ g.edges.keys := OrderedMap.get?_eq_none_iff.1 hfound
      rw [if_neg habsent]
      rfl
    | some e =>
      obtain ⟨hmem, rfl⟩ := edge?_eq_some_iff.1 hfound
      have hpresent : e.id ∈ g.edges.keys := mem_edges_iff.2 ⟨e, hmem, rfl⟩
      rw [if_pos hpresent]
      rfl
  · have hedges : (g.removeEdge id).2.edgeList = (g.removeEdges [id]).2.edgeList := by
      simp [edgeList_removeEdge, edgeList_removeEdges]
    exact eq_of_lists_eq rfl hedges

theorem accounts_remove (g : Graph) (c : RemovalCall) :
    (g.remove c).1.Accounts g (g.remove c).2 := by
  cases c with
  | node id => exact g.accounts_removeNodes [id]
  | nodes ids => exact g.accounts_removeNodes ids
  | edge id =>
    obtain ⟨hedges, hgraph⟩ := Prod.mk.inj (g.removeEdge_eq_removeEdges id)
    simp only [remove, hedges, hgraph]
    exact g.accounts_removeEdges [id]
  | edges ids => exact g.accounts_removeEdges ids

theorem accounts_removeAll (g : Graph) (calls : List RemovalCall) :
    (g.removeAll calls).1.Accounts g (g.removeAll calls).2 := by
  suffices h : ∀ (a : Removal × Graph), a.1.Accounts g a.2 →
      (calls.foldl (fun (r, g) c ↦ let (s, g) := g.remove c; (r.append s, g)) a).1.Accounts g
        (calls.foldl (fun (r, g) c ↦ let (s, g) := g.remove c; (r.append s, g)) a).2 from
    h ({}, g) (Removal.accounts_empty g)
  induction calls with
  | nil =>
    intro a ha
    exact ha
  | cons c calls ih =>
    intro a ha
    apply ih
    exact ha.append (a.2.accounts_remove c)

end Graph

/-- Where the removal lists all that went and nothing else, to forget what it lists is to keep what
is still there. -/
theorem Removal.Accounts.purge_eq {r : Removal} {g h : Graph} {s : Selected} (hr : r.Accounts g h)
    (hs : s.Within g) : s.apply (.purge r) = s.apply (.retainExisting h) := by
  have hnodes : ∀ id ∈ s.nodes, id ∉ r.nodes ↔ id ∈ h.nodes := by
    intro id hid
    have hwithin := hs.nodes id hid
    simp only [hr.mem_nodes, hwithin, true_and, not_not]
  have hedges : ∀ id ∈ s.edges, id ∉ r.edges ↔ id ∈ h.edges := by
    intro id hid
    have hwithin := hs.edges id hid
    simp only [hr.mem_edges, hwithin, true_and, not_not]
  apply congrArg₂ Selected.mk
  · apply List.filter_congr
    intro id hid
    exact decide_eq_decide.2 (hnodes id hid)
  · apply List.filter_congr
    intro id hid
    exact decide_eq_decide.2 (hedges id hid)

/-- However nodes and edges are taken out of a graph, forgetting what the merged removals list has
the same effect on the selection, and is told to the observers in the same way, as looking up in the
graph what is left. What was selected stays so exactly if it still exists. -/
theorem purge_eq_retainExisting (g : Graph) (s : Selection) (hs : s.current.Within g)
    (calls : List RemovalCall) :
    let r := g.removeAll calls
    let s' := s.change (.purge r.1)
    s' = s.change (.retainExisting r.2) ∧
      (∀ id, id ∈ s'.current.nodes ↔ id ∈ s.current.nodes ∧ id ∈ r.2.nodes) ∧
      ∀ id, id ∈ s'.current.edges ↔ id ∈ s.current.edges ∧ id ∈ r.2.edges := by
  intro r s'
  have hcurrent := (g.accounts_removeAll calls).purge_eq hs
  have hsame : s' = s.change (.retainExisting r.2) := by
    simp only [s', Selection.change, hcurrent, r]
  refine ⟨hsame, ?_, ?_⟩
  · intro id
    rw [hsame, Selection.current_change]
    simp [Selected.apply]
  · intro id
    rw [hsame, Selection.current_change]
    simp [Selected.apply]

def forkRemovals : List RemovalCall :=
  [.edge ⟨.ofNat 102⟩, .node ⟨.ofNat 7⟩, .edges [⟨.ofNat 102⟩, ⟨.ofNat 98⟩], .edge ⟨.ofNat 101⟩,
    .nodes [⟨.ofNat 99⟩, ⟨.ofNat 7⟩]]

theorem purge_eq_retainExisting_fork :
    let g := Graph.ofSnapshot Graph.fork
    let s : Selection := { current := ⟨g.nodes.keys, g.edges.keys⟩, observers := 1 }
    let r := g.removeAll forkRemovals
    s.current.Within g ∧ s.current.nodes.length = 3 ∧ s.current.edges.length = 3 ∧
    r.1 = ⟨[⟨.ofNat 7⟩], [⟨.ofNat 102⟩, ⟨.ofNat 101⟩]⟩ ∧
    (s.change (.purge r.1)).current = ⟨[⟨.ofNat 0⟩, ⟨.ofNat 3⟩], [⟨.ofNat 100⟩]⟩ ∧
    s.change (.purge r.1) = s.change (.retainExisting r.2) := by
  intro g s r
  have hwithin : s.current.Within g := ⟨fun _ hid ↦ hid, fun _ hid ↦ hid⟩
  obtain ⟨hsame, -⟩ := purge_eq_retainExisting g s hwithin forkRemovals
  refine ⟨hwithin, by decide +kernel, by decide +kernel, by decide +kernel, by decide +kernel, ?_⟩
  with_reducible exact hsame

end PipelineGraph
