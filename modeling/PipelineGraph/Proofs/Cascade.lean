import PipelineGraph.Proofs.Closure
import PipelineGraph.Proofs.ReportDependence

namespace PipelineGraph

/-- The removal lists what the first graph has and the second has not, each identifier once, and the
second graph has nothing else. -/
structure Removal.Accounts (r : Removal) (g h : Graph) : Prop where
  nodes : (r.nodes ++ h.nodes.keys).Perm g.nodes.keys
  edges : (r.edges ++ h.edges.keys).Perm g.edges.keys

namespace Removal

variable {r s : Removal} {g h k : Graph}

theorem accounts_empty (g : Graph) : ({} : Removal).Accounts g g := ⟨.refl _, .refl _⟩

theorem Accounts.append (hr : r.Accounts g h) (hs : s.Accounts h k) :
    (r.append s).Accounts g k where
  nodes := by
    rw [Removal.append, List.append_assoc]
    exact (hs.nodes.append_left r.nodes).trans hr.nodes
  edges := by
    rw [Removal.append, List.append_assoc]
    exact (hs.edges.append_left r.edges).trans hr.edges

theorem Accounts.perm (hr : r.Accounts g h) (hs : s.Accounts g h) :
    r.nodes.Perm s.nodes ∧ r.edges.Perm s.edges :=
  ⟨(List.perm_append_right_iff _).1 (hr.nodes.trans hs.nodes.symm),
    (List.perm_append_right_iff _).1 (hr.edges.trans hs.edges.symm)⟩

theorem nodup_and_mem_iff {α : Type} {removed kept all : List α} (h : (removed ++ kept).Perm all)
    (hall : all.Nodup) : removed.Nodup ∧ ∀ x, x ∈ removed ↔ x ∈ all ∧ x ∉ kept := by
  obtain ⟨hremoved, -, hapart⟩ := List.nodup_append.1 (h.nodup_iff.2 hall)
  refine ⟨hremoved, fun x ↦ ?_⟩
  rw [← h.mem_iff, List.mem_append]
  constructor
  · exact fun hx ↦ ⟨.inl hx, fun hkept ↦ hapart x hx x hkept rfl⟩
  · exact fun hx ↦ hx.1.resolve_right hx.2

theorem Accounts.nodup (hr : r.Accounts g h) : r.nodes.Nodup ∧ r.edges.Nodup :=
  ⟨(nodup_and_mem_iff hr.nodes g.nodes.nodup_keys).1,
    (nodup_and_mem_iff hr.edges g.edges.nodup_keys).1⟩

theorem Accounts.mem_nodes (hr : r.Accounts g h) (id : NodeId) :
    id ∈ r.nodes ↔ id ∈ g.nodes ∧ id ∉ h.nodes :=
  (nodup_and_mem_iff hr.nodes g.nodes.nodup_keys).2 id

theorem Accounts.mem_edges (hr : r.Accounts g h) (id : EdgeId) :
    id ∈ r.edges ↔ id ∈ g.edges ∧ id ∉ h.edges :=
  (nodup_and_mem_iff hr.edges g.edges.nodup_keys).2 id

theorem Accounts.length_add_size (hr : r.Accounts g h) :
    r.nodes.length + h.nodes.size = g.nodes.size ∧
      r.edges.length + h.edges.size = g.edges.size := by
  have hnodes := hr.nodes.length_eq
  have hedges := hr.edges.length_eq
  rw [List.length_append] at hnodes hedges
  simp only [OrderedMap.keys, List.length_map] at hnodes hedges
  exact ⟨hnodes, hedges⟩

end Removal

namespace Graph

variable {g : Graph}

theorem accounts_removeNodes (g : Graph) (ids : List NodeId) :
    (g.removeNodes ids).1.Accounts g (g.removeNodes ids).2 := by
  unfold removeNodes
  dsimp only
  split
  · exact Removal.accounts_empty g
  · exact ⟨g.nodes.keys_filter_mem_append_perm ids, g.edges.keys_filter_append_perm _⟩

theorem accounts_removeEdges (g : Graph) (ids : List EdgeId) :
    (⟨[], (g.removeEdges ids).1⟩ : Removal).Accounts g (g.removeEdges ids).2 :=
  ⟨.refl _, g.edges.keys_filter_mem_append_perm ids⟩

/-- Where no edge hangs in the air, a removal lists the nodes and the edges that touch them in the
order of the graph, whether or not the nodes exist. -/
theorem removal_removeNodes (hg : g.Closed) (ids : List NodeId) :
    (g.removeNodes ids).1 = ⟨(g.nodeList.filter fun n ↦ n.id ∈ ids).map (·.id),
      (g.edgeList.filter fun e ↦ e.source.node ∈ ids ∨ e.target.node ∈ ids).map (·.id)⟩ := by
  by_cases hsome : ∃ id ∈ g.nodes, id ∈ ids
  · obtain ⟨id, hid, hids⟩ := hsome
    exact (removeNodes_of_mem hid hids).1
  · have habsent : ∀ id ∈ g.nodes, id ∉ ids := fun id hid hids ↦ hsome ⟨id, hid, hids⟩
    have hnone : (g.nodes.keys.filter fun id ↦ id ∈ ids).isEmpty = true := by
      rw [List.isEmpty_iff, List.filter_eq_nil_iff]
      exact fun id hid hids ↦ habsent id hid (of_decide_eq_true hids)
    have hnodes : (g.nodeList.filter fun n ↦ n.id ∈ ids) = [] := by
      refine List.filter_eq_nil_iff.2 fun n hn hids ↦ ?_
      exact habsent n.id (mem_nodes_iff.2 ⟨n, hn, rfl⟩) (of_decide_eq_true hids)
    have hedges : (g.edgeList.filter fun e ↦ e.source.node ∈ ids ∨ e.target.node ∈ ids) = [] := by
      refine List.filter_eq_nil_iff.2 fun e he hids ↦ ?_
      rcases of_decide_eq_true hids with hsource | htarget
      · exact habsent _ (hg e he).1 hsource
      · exact habsent _ (hg e he).2 htarget
    rw [removeNodes, if_pos hnone, hnodes, hedges]
    rfl

theorem removeEach_eq (g : Graph) (ids : List NodeId) :
    g.removeEach ids = ids.foldl
      (fun a id ↦ (a.1.append (a.2.removeNode id).1, (a.2.removeNode id).2)) ({}, g) := rfl

theorem removeEach_cons (g : Graph) (id : NodeId) (ids : List NodeId) :
    g.removeEach (id :: ids) =
      ((g.removeNode id).1.append ((g.removeNode id).2.removeEach ids).1,
        ((g.removeNode id).2.removeEach ids).2) := by
  have hmerge (r : Removal) (g : Graph) (ids : List NodeId) :
      ids.foldl (fun a id ↦ (a.1.append (a.2.removeNode id).1, (a.2.removeNode id).2)) (r, g) =
        (r.append (g.removeEach ids).1, (g.removeEach ids).2) := by
    induction ids generalizing r g with
    | nil => simp [removeEach, Removal.append]
    | cons id ids ih =>
      rw [List.foldl_cons, removeEach_eq, List.foldl_cons, ih, ih]
      simp [Removal.append]
  rw [removeEach_eq, List.foldl_cons, hmerge]
  simp [Removal.append]

theorem nodeList_removeEach (g : Graph) (ids : List NodeId) :
    (g.removeEach ids).2.nodeList = g.nodeList.filter fun n ↦ n.id ∉ ids := by
  induction ids generalizing g with
  | nil => simp [removeEach]
  | cons id ids ih =>
    rw [removeEach_cons, ih, removeNode, nodeList_removeNodes, List.filter_filter]
    refine List.filter_congr fun n _ ↦ ?_
    simp [Bool.and_comm]

theorem edgeList_removeEach (hg : g.Closed) (ids : List NodeId) :
    (g.removeEach ids).2.edgeList =
      g.edgeList.filter fun e ↦ e.source.node ∉ ids ∧ e.target.node ∉ ids := by
  induction ids generalizing g with
  | nil => simp [removeEach]
  | cons id ids ih =>
    have hfirst : (g.removeNode id).2.Closed := hg.removeNodes [id]
    rw [removeEach_cons, ih hfirst, removeNode, edgeList_removeNodes hg, List.filter_filter]
    refine List.filter_congr fun e _ ↦ ?_
    simp only [List.mem_cons, List.not_mem_nil, or_false, not_or, ← Bool.decide_and]
    exact decide_eq_decide.2 (by tauto)

theorem accounts_removeEach (g : Graph) (ids : List NodeId) :
    (g.removeEach ids).1.Accounts g (g.removeEach ids).2 := by
  induction ids generalizing g with
  | nil => exact Removal.accounts_empty g
  | cons id ids ih =>
    rw [removeEach_cons]
    exact (g.accounts_removeNodes [id]).append (ih _)

/-- A removal takes out the nodes that are there and the edges that touch them, lists them in the
order of the graph, each once, and leaves all else as it was. Taken out one at a time, in whatever
order, the same nodes leave the same graph behind, and the merged removals list the same. -/
theorem cascade_exact (g : Graph) (hg : g.Closed) (ids : List NodeId) :
    let touching (e : Edge) : Prop := e.source.node ∈ ids ∨ e.target.node ∈ ids
    let r := g.removeNodes ids
    (r.2.nodeList = g.nodeList.filter (fun n ↦ n.id ∉ ids) ∧
      r.2.edgeList = g.edgeList.filter fun e ↦ ¬ touching e) ∧
    (r.1.nodes = (g.nodeList.filter fun n ↦ n.id ∈ ids).map (·.id) ∧
      r.1.edges = (g.edgeList.filter fun e ↦ touching e).map (·.id) ∧
      r.1.nodes.Nodup ∧ r.1.edges.Nodup) ∧
    ∀ order : List NodeId, (∀ id, id ∈ order ↔ id ∈ ids) →
      let each := g.removeEach order
      each.2 = r.2 ∧ each.1.nodes.Perm r.1.nodes ∧ each.1.edges.Perm r.1.edges ∧
        each.1.nodes.Nodup ∧ each.1.edges.Nodup := by
  intro touching r
  have hremoval := removal_removeNodes hg ids
  have hnodup := (g.accounts_removeNodes ids).nodup
  refine ⟨⟨g.nodeList_removeNodes ids, ?_⟩, ?_, fun order horder ↦ ?_⟩
  · simpa only [touching, not_or] using edgeList_removeNodes hg ids
  · exact ⟨congrArg Removal.nodes hremoval, congrArg Removal.edges hremoval, hnodup⟩
  · intro each
    have hsame : each.2 = r.2 := by
      refine eq_of_lists_eq ?_ ?_
      · rw [nodeList_removeEach, nodeList_removeNodes]
        simp only [horder]
      · rw [edgeList_removeEach hg, edgeList_removeNodes hg]
        simp only [horder]
    have heach : each.1.Accounts g r.2 := hsame ▸ g.accounts_removeEach order
    obtain ⟨hnodes, hedges⟩ := heach.perm (g.accounts_removeNodes ids)
    exact ⟨hsame, hnodes, hedges, heach.nodup⟩

theorem cascade_exact_fork :
    let g := ofSnapshot fork
    let ids : List NodeId := [⟨.ofNat 0⟩, ⟨.ofNat 3⟩, ⟨.ofNat 99⟩]
    g.Closed ∧ (∀ id, id ∈ ids.reverse ↔ id ∈ ids) ∧
    (g.removeEach ids.reverse).2 = (g.removeNodes ids).2 ∧
    (g.removeNodes ids).1 = ⟨ids.take 2, [⟨.ofNat 100⟩, ⟨.ofNat 101⟩, ⟨.ofNat 102⟩]⟩ ∧
    (g.removeEach ids.reverse).1 =
      ⟨(ids.take 2).reverse, [⟨.ofNat 100⟩, ⟨.ofNat 102⟩, ⟨.ofNat 101⟩]⟩ := by
  intro g ids
  have hclosed : g.Closed := (wellFormed_ofSnapshot fork).closed
  have hreverse : ∀ id, id ∈ ids.reverse ↔ id ∈ ids := fun _ ↦ List.mem_reverse
  obtain ⟨hsame, -⟩ := (cascade_exact g hclosed ids).2.2 ids.reverse hreverse
  refine ⟨hclosed, hreverse, ?_, by decide +kernel, by decide +kernel⟩
  with_reducible exact hsame

end Graph

end PipelineGraph
