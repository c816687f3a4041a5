import PipelineGraph.Proofs.Graph

namespace PipelineGraph.Graph

variable {g h : Graph}

theorem mem_nodes_removeNodes (g : Graph) (ids : List NodeId) (id : NodeId) :
    id ∈ (g.removeNodes ids).2.nodes ↔ id ∈ g.nodes ∧ id ∉ (g.removeNodes ids).1.nodes := by
  unfold removeNodes
  dsimp only
  split
  · simp
  · have h := OrderedMap.mem_filter_not (m := g.nodes) (k := id) (p := fun id _ ↦ decide (id ∈ ids))
    simp only [← decide_not] at h
    rw [h]
    change _ ↔ _ ∧ ¬ id ∈ g.nodes.keys.filter _
    rw [← OrderedMap.keys_filter]
    rfl

theorem mem_edges_removeNodes (g : Graph) (ids : List NodeId) (id : EdgeId) :
    id ∈ (g.removeNodes ids).2.edges ↔ id ∈ g.edges ∧ id ∉ (g.removeNodes ids).1.edges := by
  unfold removeNodes
  dsimp only
  split
  · simp
  · exact OrderedMap.mem_filter_not

theorem mem_edges_removeEdge (g : Graph) (id id' : EdgeId) :
    id' ∈ (g.removeEdge id).2.edges ↔ id' ∈ g.edges ∧ id' ≠ id := by
  change id' ∈ (g.edges.filter _).keys ↔ id' ∈ g.edges.keys ∧ _
  rw [OrderedMap.keys_filter, List.mem_filter, decide_eq_true_eq]

theorem absent_of_isEmpty {ids : List NodeId}
    (h : (g.nodes.keys.filter fun id ↦ id ∈ ids).isEmpty = true) : ∀ id ∈ g.nodes, id ∉ ids := by
  intro id hid hids
  have hmem : id ∈ g.nodes.keys.filter fun id ↦ id ∈ ids :=
    List.mem_filter.2 ⟨hid, decide_eq_true hids⟩
  rw [List.isEmpty_iff.1 h] at hmem
  exact List.not_mem_nil hmem

theorem nodeList_removeNodes (g : Graph) (ids : List NodeId) :
    (g.removeNodes ids).2.nodeList = g.nodeList.filter fun n ↦ n.id ∉ ids := by
  unfold removeNodes
  dsimp only
  split
  · rename_i hnone
    refine (List.filter_eq_self.2 fun n hn ↦ ?_).symm
    rw [decide_eq_true_eq]
    exact absent_of_isEmpty hnone n.id (mem_nodes_iff.2 ⟨n, hn, rfl⟩)
  · exact g.nodes_keyed.values_filter _

theorem nodeList_removeNodes_subset (g : Graph) (ids : List NodeId) :
    (g.removeNodes ids).2.nodeList ⊆ g.nodeList := by
  rw [nodeList_removeNodes]
  exact List.filter_subset_self _

def Closed (g : Graph) : Prop :=
  ∀ e ∈ g.edgeList, e.source.node ∈ g.nodes ∧ e.target.node ∈ g.nodes

theorem WellFormed.closed (hg : g.WellFormed) : g.Closed := by
  intro e he
  obtain ⟨p, q, hp, hq, -⟩ := hg.joins e he
  obtain ⟨m, hm, -⟩ := port?_eq_some_iff.1 hp
  obtain ⟨n, hn, -⟩ := port?_eq_some_iff.1 hq
  exact ⟨mem_nodes_iff.2 ⟨m, node?_eq_some_iff.1 hm⟩, mem_nodes_iff.2 ⟨n, node?_eq_some_iff.1 hn⟩⟩

theorem edgeList_removeNodes (hg : g.Closed) (ids : List NodeId) :
    (g.removeNodes ids).2.edgeList =
      g.edgeList.filter fun e ↦ e.source.node ∉ ids ∧ e.target.node ∉ ids := by
  unfold removeNodes
  dsimp only
  split
  · rename_i hnone
    have habsent := absent_of_isEmpty hnone
    refine (List.filter_eq_self.2 fun e he ↦ ?_).symm
    rw [decide_eq_true_eq]
    exact ⟨habsent _ (hg e he).1, habsent _ (hg e he).2⟩
  · refine (OrderedMap.values_filter g.edges _).trans (List.filter_congr fun e _ ↦ ?_)
    simp

theorem mem_edgeList_removeNodes {ids : List NodeId} {e : Edge} (hsource : e.source.node ∉ ids)
    (htarget : e.target.node ∉ ids) : e ∈ (g.removeNodes ids).2.edgeList ↔ e ∈ g.edgeList := by
  unfold removeNodes
  dsimp only
  split
  · rfl
  · change e ∈ (g.edges.filter fun _ e ↦ _).values ↔ _
    rw [OrderedMap.values_filter, List.mem_filter]
    simp [hsource, htarget, edgeList]

theorem edgeList_removeEdges (g : Graph) (ids : List EdgeId) :
    (g.removeEdges ids).2.edgeList = g.edgeList.filter fun e ↦ e.id ∉ ids :=
  g.edges_keyed.values_filter _

theorem edgeList_removeEdge (g : Graph) (id : EdgeId) :
    (g.removeEdge id).2.edgeList = g.edgeList.filter fun e ↦ e.id ≠ id :=
  g.edges_keyed.values_filter _

theorem removeEdges_nil (g : Graph) : g.removeEdges [] = ([], g) := by
  refine Prod.ext ?_ (eq_of_lists_eq rfl ?_)
  · simp [removeEdges]
  · simp [edgeList_removeEdges]

theorem removeNodes_nil (g : Graph) : g.removeNodes [] = ({}, g) := by
  simp [removeNodes]

/-- If one of the nodes exists, the removal lists them and the edges that touch them in the order of
the graph. -/
theorem removeNodes_of_mem {ids : List NodeId} {id : NodeId} (hid : id ∈ g.nodes)
    (hids : id ∈ ids) :
    let touching (e : Edge) : Bool := e.source.node ∈ ids ∨ e.target.node ∈ ids
    (g.removeNodes ids).1 = ⟨(g.nodeList.filter fun n ↦ n.id ∈ ids).map (·.id),
      (g.edgeList.filter touching).map (·.id)⟩ ∧
    (g.removeNodes ids).2.edgeList = g.edgeList.filter fun e ↦ !touching e := by
  intro touching
  have hsome : ¬ (g.nodes.keys.filter fun id ↦ id ∈ ids).isEmpty = true := fun hnone ↦
    absent_of_isEmpty hnone id hid hids
  have htouching (e : Edge) :
      (decide (e.source.node ∈ ids) || decide (e.target.node ∈ ids)) = touching e :=
    (Bool.decide_or _ _).symm
  simp only [removeNodes, if_neg hsome, htouching]
  refine ⟨congrArg₂ _ ?_ ?_, ?_⟩
  · rw [g.nodes_keyed.keys_eq, List.filter_map]
    rfl
  · rw [(g.edges_keyed.filter _).keys_eq, OrderedMap.values_filter, edgeList]
  · exact OrderedMap.values_filter _ _

theorem filter_of_append {α : Type} {l u : List α} {p : α → Bool} (hl : ∀ a ∈ l, p a = false)
    (hu : ∀ a ∈ u, p a = true) :
    (l ++ u).filter p = u ∧ (l ++ u).filter (fun a ↦ !p a) = l := by
  simp only [List.filter_append]
  constructor
  · rw [List.filter_eq_nil_iff.2 fun a ha ↦ Bool.eq_false_iff.1 (hl a ha), List.nil_append,
      List.filter_eq_self.2 hu]
  · rw [List.filter_eq_self.2 fun a ha ↦ by rw [hl a ha]; rfl,
      List.filter_eq_nil_iff.2 fun a ha ↦ by simp [hu a ha], List.append_nil]

/-- A removal takes out what was appended last, if the edges that end on the removed nodes are those
that were appended with them. -/
theorem removeNodes_of_append {ns : List Node} {es : List Edge} (hn : h.nodeList = g.nodeList ++ ns)
    (he : h.edgeList = g.edgeList ++ es)
    (hold : ∀ e ∈ g.edgeList, e.source.node ∉ ns.map (·.id) ∧ e.target.node ∉ ns.map (·.id))
    (hnew : ∀ e ∈ es, e.target.node ∈ ns.map (·.id)) :
    h.removeNodes (ns.map (·.id)) = (⟨ns.map (·.id), es.map (·.id)⟩, g) := by
  by_cases hns : ns = []
  · subst hns
    obtain rfl : es = [] := List.eq_nil_iff_forall_not_mem.2 fun e hmem ↦ nomatch hnew e hmem
    rw [List.append_nil] at hn he
    rw [eq_of_lists_eq hn he]
    exact removeNodes_nil g
  · obtain ⟨n, hmem⟩ := List.exists_mem_of_ne_nil ns hns
    have hid : n.id ∈ h.nodes := mem_nodes_iff.2 ⟨n, hn ▸ List.mem_append_right _ hmem, rfl⟩
    obtain ⟨hremoval, hedges⟩ := removeNodes_of_mem hid (List.mem_map_of_mem hmem)
    have hapart : ∀ m ∈ g.nodeList, m.id ∉ ns.map (·.id) := by
      have hnodup := h.nodup_nodeIds
      rw [hn, List.map_append] at hnodup
      exact fun m hm hm' ↦ (List.nodup_append.1 hnodup).2.2 _ (List.mem_map_of_mem hm) _ hm' rfl
    obtain ⟨hgone, hkept⟩ := filter_of_append (p := fun n ↦ n.id ∈ ns.map (·.id))
      (fun m hm ↦ decide_eq_false (hapart m hm)) fun m hm ↦ decide_eq_true (List.mem_map_of_mem hm)
    obtain ⟨hgoneEdges, hkeptEdges⟩ := filter_of_append
      (p := fun e : Edge ↦ e.source.node ∈ ns.map (·.id) ∨ e.target.node ∈ ns.map (·.id))
      (fun e hmem ↦ decide_eq_false (not_or.2 (hold e hmem)))
      fun e hmem ↦ decide_eq_true (.inr (hnew e hmem))
    rw [hn, he, hgone, hgoneEdges] at hremoval
    rw [he, hkeptEdges] at hedges
    refine Prod.ext hremoval (eq_of_lists_eq ?_ hedges)
    rw [nodeList_removeNodes, hn]
    simpa only [decide_not] using hkept

theorem port?_removeNodes {ids : List NodeId} {x : Endpoint} {p : Port} (hx : x.node ∉ ids)
    (hp : g.port? x = some p) : (g.removeNodes ids).2.port? x = some p := by
  obtain ⟨n, hn, hp⟩ := port?_eq_some_iff.1 hp
  refine port?_eq_some_iff.2 ⟨n, node?_eq_some_iff.2 ?_, hp⟩
  obtain ⟨hn, hid⟩ := node?_eq_some_iff.1 hn
  rw [nodeList_removeNodes, List.mem_filter, decide_eq_true_eq]
  exact ⟨⟨hn, hid ▸ hx⟩, hid⟩

theorem WellFormed.removeNodes (hg : g.WellFormed) (ids : List NodeId) :
    (g.removeNodes ids).2.WellFormed := by
  refine wellFormed_iff.2 fun e he ↦ ?_
  rw [edgeList_removeNodes hg.closed, List.mem_filter, decide_eq_true_eq] at he
  obtain ⟨he, hs, ht⟩ := he
  exact (hg.joins e he).mono ⟨rfl, rfl, rfl⟩ (fun _ ↦ port?_removeNodes hs)
    fun _ ↦ port?_removeNodes ht

theorem WellFormed.removeEdges (hg : g.WellFormed) (ids : List EdgeId) :
    (g.removeEdges ids).2.WellFormed := by
  refine hg.mono (fun _ _ hp ↦ hp) fun e he ↦ .inr ⟨e, ?_, rfl, rfl, rfl⟩
  rw [edgeList_removeEdges] at he
  exact List.mem_of_mem_filter he

theorem WellFormed.removeEdge (hg : g.WellFormed) (id : EdgeId) :
    (g.removeEdge id).2.WellFormed := by
  refine hg.mono (fun _ _ hp ↦ hp) fun e he ↦ .inr ⟨e, ?_, rfl, rfl, rfl⟩
  rw [edgeList_removeEdge] at he
  exact List.mem_of_mem_filter he

end PipelineGraph.Graph
