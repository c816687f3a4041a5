import PipelineGraph.Proofs.Integrity
import PipelineGraph.Proofs.LiveSelection

namespace PipelineGraph

namespace Graph

variable {g h : Graph}

theorem closed_empty : empty.Closed := fun _ he ↦ nomatch he

/-- A graph is closed if it has all nodes of a closed graph, and edges that end where one of that
graph does or on nodes of its own. -/
theorem Closed.mono (hg : g.Closed) (hnodes : ∀ id ∈ g.nodes, id ∈ h.nodes)
    (hedges : ∀ e' ∈ h.edgeList, (e'.source.node ∈ h.nodes ∧ e'.target.node ∈ h.nodes) ∨
      ∃ e ∈ g.edgeList, e'.source = e.source ∧ e'.target = e.target) : h.Closed := by
  intro e' he'
  rcases hedges e' he' with hends | ⟨e, he, hsource, htarget⟩
  · exact hends
  · rw [hsource, htarget]
    exact ⟨hnodes _ (hg e he).1, hnodes _ (hg e he).2⟩

theorem Closed.addNode (hg : g.Closed) (n : Node) : (g.addNode n).Closed :=
  hg.mono (fun _ hid ↦ mem_nodes_addNode.2 (.inl hid)) fun e he ↦ .inr ⟨e, he, rfl, rfl⟩

theorem Closed.changeNode (hg : g.Closed) (id : NodeId) (c : NodeChange) :
    (g.changeNode id c).Closed :=
  hg.mono (fun _ ↦ mem_nodes_changeNode.2) fun e he ↦ .inr ⟨e, he, rfl, rfl⟩

theorem Closed.changeEdge (hg : g.Closed) (id : EdgeId) (c : EdgeChange) :
    (g.changeEdge id c).Closed := by
  refine hg.mono (fun _ hid ↦ hid) fun e' he' ↦ ?_
  obtain ⟨e, he, rfl | rfl⟩ := OrderedMap.of_mem_values_adjust he'
  · exact .inr ⟨e', he, rfl, rfl⟩
  · exact .inr ⟨e, he, rfl, rfl⟩

theorem Closed.drag (hg : g.Closed) (d : Drag) (pointer : Point) : (d.update g pointer).2.Closed :=
  d.update_preserves (fun _ _ _ _ hg ↦ hg.changeNode _ _) hg pointer

theorem of_mem_edgeList_addAll {ns : List Node} {es : List Edge} {e : Edge}
    (he : e ∈ (g.addAll ns es).edgeList) : e ∈ g.edgeList ∨ e ∈ es := by
  have hedges : (ns.foldl Graph.addNode g).edgeList = g.edgeList :=
    congrArg OrderedMap.values (edges_foldl_addNode g ns)
  rw [addAll] at he
  rw [← hedges]
  generalize ns.foldl Graph.addNode g = g' at he
  induction es generalizing g' with
  | nil => exact .inl he
  | cons x es ih =>
    rcases ih _ he with he | he
    · rcases OrderedMap.of_mem_values_insert he with he | rfl
      · exact .inl he
      · exact .inr List.mem_cons_self
    · exact .inr (List.mem_cons_of_mem _ he)

theorem Closed.addAll (hg : g.Closed) {ns : List Node} {es : List Edge}
    (hends : ∀ e ∈ es, e.source.node ∈ ns.map (·.id) ∧ e.target.node ∈ ns.map (·.id)) :
    (g.addAll ns es).Closed := by
  refine hg.mono (fun _ hid ↦ mem_nodes_addAll.2 (.inl hid)) fun e he ↦ ?_
  rcases of_mem_edgeList_addAll he with he | he
  · exact .inr ⟨e, he, rfl, rfl⟩
  · obtain ⟨hsource, htarget⟩ := hends e he
    exact .inl ⟨mem_nodes_addAll.2 (.inr hsource), mem_nodes_addAll.2 (.inr htarget)⟩

theorem Closed.connect (hg : g.Closed) (source target : Endpoint) (ids : IdSupply) :
    (g.connect source target ids).2.1.Closed := by
  unfold Graph.connect
  cases hlink : g.link source target with
  | error _ => exact hg
  | ok layer =>
    obtain ⟨p, q, hp, hq, -⟩ := link_eq_ok_iff.1 hlink
    obtain ⟨m, hm, -⟩ := port?_eq_some_iff.1 hp
    obtain ⟨n, hn, -⟩ := port?_eq_some_iff.1 hq
    refine hg.mono (fun _ hid ↦ hid) fun e he ↦ ?_
    rcases OrderedMap.of_mem_values_insert he with he | rfl
    · exact .inr ⟨e, he, rfl, rfl⟩
    · exact .inl ⟨mem_nodes_iff.2 ⟨m, node?_eq_some_iff.1 hm⟩,
        mem_nodes_iff.2 ⟨n, node?_eq_some_iff.1 hn⟩⟩

theorem Closed.removeNodes (hg : g.Closed) (ids : List NodeId) : (g.removeNodes ids).2.Closed := by
  have hkept : ∀ id ∈ g.nodes, id ∉ ids → id ∈ (g.removeNodes ids).2.nodes := by
    intro id hid hids
    obtain ⟨n, hn, rfl⟩ := mem_nodes_iff.1 hid
    refine mem_nodes_iff.2 ⟨n, ?_, rfl⟩
    rw [nodeList_removeNodes]
    exact List.mem_filter.2 ⟨hn, decide_eq_true hids⟩
  intro e he
  rw [edgeList_removeNodes hg, List.mem_filter, decide_eq_true_eq] at he
  obtain ⟨he, hsource, htarget⟩ := he
  exact ⟨hkept _ (hg e he).1 hsource, hkept _ (hg e he).2 htarget⟩

theorem Closed.removeEdges (hg : g.Closed) (ids : List EdgeId) : (g.removeEdges ids).2.Closed := by
  refine hg.mono (fun _ hid ↦ hid) fun e he ↦ .inr ⟨e, ?_, rfl, rfl⟩
  rw [edgeList_removeEdges] at he
  exact List.mem_of_mem_filter he

theorem Closed.removeEdge (hg : g.Closed) (id : EdgeId) : (g.removeEdge id).2.Closed := by
  refine hg.mono (fun _ hid ↦ hid) fun e he ↦ .inr ⟨e, ?_, rfl, rfl⟩
  rw [edgeList_removeEdge] at he
  exact List.mem_of_mem_filter he

end Graph

namespace Clipboard

/-- A paste adds edges between the nodes it adds, even if these overwrite what was there. -/
theorem closed_paste {g : Graph} (hg : g.Closed) (c : Clipboard) (s : Selection)
    (naming : NamingPolicy) (offset : Point) (ids : IdSupply) :
    (c.paste g s naming offset ids).2.1.Closed := by
  cases hne : c.isEmpty with
  | true => rwa [paste, hne]
  | false =>
    obtain ⟨twins, es, dropped, ids', -, hes, -, -, heq⟩ :=
      exists_paste_eq hne g s naming offset ids
    have hplaced : ∀ x y, rewire? twins x = some y →
        y.node ∈ (twins.map Twin.copy).map (·.id) := by
      intro x y hy
      obtain ⟨t, ht, hnode⟩ := exists_twin_of_rewire? hy
      rw [hnode]
      exact List.mem_map_of_mem (List.mem_map_of_mem ht)
    rw [heq]
    refine hg.addAll fun e' he' ↦ ?_
    obtain ⟨e, -, hr⟩ := exists_left_of_forall₂ hes e' he'
    exact ⟨hplaced _ _ hr.source, hplaced _ _ hr.target⟩

end Clipboard

namespace Editor

theorem closed_call {e : Editor} (h : e.graph.Closed) (c : EditorCall) :
    (e.call c).graph.Closed := by
  have heffect : e.Effect c _ _ _ _ := e.becomes_call c
  generalize (e.call c).graph = g', (e.call c).selection = selection,
    (e.call c).clipboard = clipboard, (e.call c).ids = ids at heffect ⊢
  cases heffect with
  | keep | select | copy => exact h
  | addFunction | addStart => exact h.addNode _
  | changeNode id change => exact h.changeNode id change
  | changeEdge id change => exact h.changeEdge id change
  | drag d pointer => exact h.drag d pointer
  | connect source target => exact h.connect source target e.ids
  | deleteNode id => exact h.removeNodes [id]
  | deleteEdge id => exact h.removeEdge id
  | deleteSelected | cut => exact (h.removeNodes _).removeEdges _
  | paste => exact Clipboard.closed_paste h _ _ _ _ _
  | load s => exact (Graph.wellFormed_ofSnapshot s).closed

/-- No edge ever hangs in the air, even where identifiers are used twice. -/
theorem closed_run (settings : Settings) (palette : Palette) (naming : NamingPolicy)
    (ids : IdSupply) (calls : List EditorCall) :
    ((new settings palette naming ids).run calls).graph.Closed := by
  have hall : (new settings palette naming ids).Throughout (fun _ _ ↦ True) calls :=
    throughout_of_forall (fun _ _ ↦ trivial) _
  exact run_preserves (P := fun e ↦ e.graph.Closed) (fun _ c _ h ↦ closed_call h c) hall
    Graph.closed_empty

end Editor

end PipelineGraph
