import PipelineGraph.Proofs.Cascade
import PipelineGraph.Proofs.Notification

namespace PipelineGraph

variable {g : Graph} {s : Selection}

theorem nodeList_deleteSelected (g : Graph) (s : Selection) :
    (deleteSelected g s).2.1.nodeList = g.nodeList.filter fun n ↦ n.id ∉ s.current.nodes :=
  Graph.nodeList_removeNodes g s.current.nodes

theorem edgeList_deleteSelected (hg : g.Closed) (s : Selection) :
    (deleteSelected g s).2.1.edgeList = g.edgeList.filter fun e ↦
      e.id ∉ s.current.edges ∧ e.source.node ∉ s.current.nodes ∧ e.target.node ∉ s.current.nodes := by
  have hkept := Graph.edgeList_removeNodes hg s.current.nodes
  have hcascade := (g.accounts_removeNodes s.current.nodes).mem_edges
  simp only [deleteSelected, Graph.edgeList_removeEdges]
  generalize g.removeNodes s.current.nodes = cascade at hkept hcascade ⊢
  have hleft : ∀ e ∈ cascade.2.edgeList, e.id ∉ cascade.1.edges := fun e he hgone ↦
    ((hcascade e.id).1 hgone).2 (Graph.mem_edges_iff.2 ⟨e, he, rfl⟩)
  have hselected : (cascade.2.edgeList.filter fun e ↦
        e.id ∉ s.current.edges.filter fun id ↦ id ∉ cascade.1.edges) =
      cascade.2.edgeList.filter fun e ↦ e.id ∉ s.current.edges := by
    refine List.filter_congr fun e he ↦ ?_
    simp [hleft e he]
  rw [hselected, hkept, List.filter_filter]
  refine List.filter_congr fun e _ ↦ ?_
  rw [← Bool.decide_and]

theorem accounts_deleteSelected (g : Graph) (s : Selection) :
    (deleteSelected g s).1.Accounts g (deleteSelected g s).2.1 := by
  have hcascade := g.accounts_removeNodes s.current.nodes
  have hexplicit := (g.removeNodes s.current.nodes).2.accounts_removeEdges
    (s.current.edges.filter fun id ↦ id ∉ (g.removeNodes s.current.nodes).1.edges)
  have hboth := hcascade.append hexplicit
  rw [Removal.append, List.append_nil] at hboth
  exact hboth

/-- Forgetting what was removed and then all the rest is one change to those who look on. -/
theorem Selection.Quiet.deleteSelected (hs : s.Quiet) (g : Graph) :
    (deleteSelected g s).2.2 = ({ s with current := {} } : Selection).announce :=
  hs.run_batch (.change (.purge (PipelineGraph.deleteSelected g s).1) (.change .clear .done))

theorem selection_deleteSelected_of_open (hs : 0 < s.depth) (g : Graph) :
    (deleteSelected g s).2.2 = { s with current := {}, pending := true } := by
  refine (Selection.run_of_open
    (.batch (.change (.purge (deleteSelected g s).1) (.change .clear .done)) .done) hs).trans ?_
  simp [SelectionScript.changes, SelectionScript.newcomers, Selected.apply]

/-- What is deleted are the selected nodes, the edges that touch one of them and the selected edges.
The rest stays as it was, and the removal lists all that is gone and nothing else, each identifier
once, however the selected edges and the cascade overlap. Afterwards nothing is selected, and each
observer has been told so once; within a batch this is left to the end of the batch. -/
theorem deletion_exact (g : Graph) (hg : g.Closed) (s : Selection) :
    let d := deleteSelected g s
    (d.2.1.nodeList = g.nodeList.filter (fun n ↦ n.id ∉ s.current.nodes) ∧
      d.2.1.edgeList = g.edgeList.filter fun e ↦ e.id ∉ s.current.edges ∧
        e.source.node ∉ s.current.nodes ∧ e.target.node ∉ s.current.nodes) ∧
    (d.1.nodes.Nodup ∧ d.1.edges.Nodup ∧
      (∀ id, id ∈ d.1.nodes ↔ id ∈ g.nodes ∧ id ∉ d.2.1.nodes) ∧
      ∀ id, id ∈ d.1.edges ↔ id ∈ g.edges ∧ id ∉ d.2.1.edges) ∧
    (d.1.nodes.length + d.2.1.nodes.size = g.nodes.size ∧
      d.1.edges.length + d.2.1.edges.size = g.edges.size) ∧
    d.2.2.current = {} ∧
    (s.Quiet → d.2.2 = { s with
      current := {}
      notices := s.notices ++ (List.range s.observers).map fun i ↦ ⟨i, {}⟩ }) ∧
    (0 < s.depth → d.2.2 = { s with current := {}, pending := true }) := by
  intro d
  have haccounts := accounts_deleteSelected g s
  obtain ⟨hnodes, hedges⟩ := haccounts.nodup
  exact ⟨⟨nodeList_deleteSelected g s, edgeList_deleteSelected hg s⟩,
    ⟨hnodes, hedges, haccounts.mem_nodes, haccounts.mem_edges⟩, haccounts.length_add_size,
    Editor.current_deleteSelected g s, fun hs ↦ hs.deleteSelected g,
    fun hs ↦ selection_deleteSelected_of_open hs g⟩

/-- The first call of the fork, one of its two edges, the edge to the other call, and a node and an
edge that do not exist. -/
def forkPart : Selected :=
  ⟨[⟨.ofNat 3⟩, ⟨.ofNat 99⟩], [⟨.ofNat 98⟩, ⟨.ofNat 101⟩, ⟨.ofNat 100⟩]⟩

theorem deletion_exact_forkPart :
    let g := Graph.ofSnapshot Graph.fork
    let s : Selection := { current := forkPart, observers := 2 }
    g.Closed ∧ s.Quiet ∧ 0 < s.openBatch.depth ∧
    (deleteSelected g s).1 = ⟨[⟨.ofNat 3⟩], [⟨.ofNat 100⟩, ⟨.ofNat 102⟩, ⟨.ofNat 101⟩]⟩ ∧
    (deleteSelected g s).1.edges.length + (deleteSelected g s).2.1.edges.size = g.edges.size ∧
    (deleteSelected g s).2.2.notices = [⟨0, {}⟩, ⟨1, {}⟩] ∧
    (deleteSelected g s.openBatch).2.2.notices = [] ∧
    (deleteSelected g s.openBatch).2.2.closeBatch.notices = [⟨0, {}⟩, ⟨1, {}⟩] := by
  intro g s
  have hclosed : g.Closed := (Graph.wellFormed_ofSnapshot Graph.fork).closed
  have hquiet : s.Quiet := ⟨rfl, rfl⟩
  have hopen : 0 < s.openBatch.depth := by decide
  obtain ⟨-, -, hsize, -, htold, -⟩ := deletion_exact g hclosed s
  obtain ⟨-, -, -, -, -, hmarked⟩ := deletion_exact g hclosed s.openBatch
  refine ⟨hclosed, hquiet, hopen, by decide +kernel, hsize.2, ?_, ?_, ?_⟩
  · rw [htold hquiet]
    rfl
  · rw [hmarked hopen]
    rfl
  · rw [hmarked hopen]
    rfl

end PipelineGraph
