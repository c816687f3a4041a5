import PipelineGraph.Proofs.Integrity
import PipelineGraph.Proofs.Search

namespace PipelineGraph

namespace Edge

def Between (e : Edge) (m n : NodeId) : Prop :=
  e.source.node = m ∧ e.target.node = n ∨ e.source.node = n ∧ e.target.node = m

instance (e : Edge) (m n : NodeId) : Decidable (e.Between m n) :=
  inferInstanceAs (Decidable (_ ∨ _))

variable {e : Edge} {m n : NodeId}

theorem between_comm : e.Between m n ↔ e.Between n m := or_comm

theorem Between.touches (h : e.Between m n) : e.touches n = true := by
  rcases h with ⟨-, htarget⟩ | ⟨hsource, -⟩
  · simp [Edge.touches, htarget]
  · simp [Edge.touches, hsource]

/-- Although it looks at the source first, the other end is found from both sides. -/
theorem opposite?_eq_some_iff : e.opposite? n = some m ↔ e.Between m n := by
  unfold opposite? Between
  by_cases hsource : e.source.node = n
  · rw [if_pos hsource, Option.some_inj]
    constructor
    · intro htarget
      exact .inr ⟨hsource, htarget⟩
    · intro hbetween
      rcases hbetween with ⟨hm, htarget⟩ | ⟨-, htarget⟩
      · rw [htarget, ← hm, hsource]
      · exact htarget
  · rw [if_neg hsource]
    by_cases htarget : e.target.node = n
    · simp [hsource, htarget]
    · simp [hsource, htarget]

end Edge

namespace Graph

def Adjacent (g : Graph) (m n : NodeId) : Prop := ∃ e ∈ g.edgeList, e.Between m n

instance (g : Graph) (m n : NodeId) : Decidable (g.Adjacent m n) :=
  inferInstanceAs (Decidable (∃ e ∈ g.edgeList, e.Between m n))

variable {g : Graph} {m n : NodeId} {ids : List NodeId}

theorem adjacent_comm : g.Adjacent m n ↔ g.Adjacent n m := by
  simp only [Adjacent, Edge.between_comm]

theorem mem_opposites_iff :
    m ∈ (g.edgesAt n).filterMap (fun e ↦ e.opposite? n) ↔ g.Adjacent m n := by
  simp only [List.mem_filterMap, edgesAt, List.mem_filter, Edge.opposite?_eq_some_iff]
  constructor
  · intro h
    obtain ⟨e, ⟨he, -⟩, hbetween⟩ := h
    exact ⟨e, he, hbetween⟩
  · intro h
    obtain ⟨e, he, hbetween⟩ := h
    exact ⟨e, ⟨he, hbetween.touches⟩, hbetween⟩

theorem neighbours_eq (g : Graph) (n : NodeId) :
    g.neighbours n = g.nodeList.filter fun m ↦ g.Adjacent m.id n := by
  simp only [neighbours, mem_opposites_iff]

theorem mem_neighbours_iff {k : Node} :
    k ∈ g.neighbours n ↔ k ∈ g.nodeList ∧ g.Adjacent k.id n := by
  rw [neighbours_eq, List.mem_filter, decide_eq_true_eq]

theorem adjacent_removeNodes (hm : m ∉ ids) (hn : n ∉ ids) :
    (g.removeNodes ids).2.Adjacent m n ↔ g.Adjacent m n := by
  refine exists_congr fun e ↦ and_congr_left fun hbetween ↦ ?_
  rcases hbetween with ⟨rfl, rfl⟩ | ⟨rfl, rfl⟩
  · exact mem_edgeList_removeNodes hm hn
  · exact mem_edgeList_removeNodes hn hm

theorem neighbours_removeNodes (hn : n ∉ ids) :
    (g.removeNodes ids).2.neighbours n = (g.neighbours n).filter fun k ↦ k.id ∉ ids := by
  rw [neighbours_eq, nodeList_removeNodes, neighbours_eq, List.filter_comm, List.filter_filter,
    List.filter_filter]
  refine List.filter_congr fun k _ ↦ ?_
  by_cases hk : k.id ∈ ids
  · simp [hk]
  · simp [hk, adjacent_removeNodes hk hn]

/-- Every edge of a well-formed graph ends on another node than it starts from. -/
theorem WellFormed.not_adjacent_self (hg : g.WellFormed) (n : NodeId) : ¬ g.Adjacent n n := by
  intro h
  obtain ⟨e, he, hbetween⟩ := h
  obtain ⟨_, _, -, -, -, -, -, hne⟩ := hg.joins e he
  rcases hbetween with ⟨hsource, htarget⟩ | ⟨hsource, htarget⟩
  · exact hne (hsource.trans htarget.symm)
  · exact hne (hsource.trans htarget.symm)

end Graph

/-- Of two nodes of a graph each is a neighbour of the other exactly if some edge joins them, in
whichever direction. The neighbours of a node are listed once each and in the order of the graph,
and when another node is removed it is just taken out of them. In a graph that an editor has come
to, no node is its own neighbour. -/
theorem neighbours_exact :
    (∀ g : Graph,
      (∀ m ∈ g.nodeList, ∀ n ∈ g.nodeList,
        (m ∈ g.neighbours n.id ↔ n ∈ g.neighbours m.id) ∧
        (m ∈ g.neighbours n.id ↔ ∃ e ∈ g.edgeList, e.Between m.id n.id)) ∧
      (∀ n, (g.neighbours n).Nodup ∧ (g.neighbours n).Sublist g.nodeList) ∧
      ∀ m n, m ≠ n →
        (g.removeNode n).2.neighbours m = (g.neighbours m).filter fun k ↦ k.id ≠ n) ∧
    ∀ (settings : Settings) (palette : Palette) (naming : NamingPolicy) (ids : IdSupply)
      (calls : List EditorCall),
      (Editor.new settings palette naming ids).Throughout Editor.FreshCall calls →
      let g := ((Editor.new settings palette naming ids).run calls).graph
      ∀ n ∈ g.nodeList, n ∉ g.neighbours n.id := by
  constructor
  · intro g
    refine ⟨fun m hm n hn ↦ ⟨?_, ?_⟩, fun n ↦ ?_, fun m n hmn ↦ ?_⟩
    · rw [Graph.mem_neighbours_iff, Graph.mem_neighbours_iff, Graph.adjacent_comm]
      exact and_congr_left fun _ ↦ iff_of_true hm hn
    · rw [Graph.mem_neighbours_iff]
      exact and_iff_right hm
    · have hsub : (g.neighbours n).Sublist g.nodeList := List.filter_sublist
      exact ⟨hsub.nodup g.nodup_nodeList, hsub⟩
    · have hm : m ∉ [n] := fun h ↦ hmn (List.mem_singleton.1 h)
      rw [Graph.removeNode, Graph.neighbours_removeNodes hm]
      simp only [List.mem_singleton, ne_eq]
  · intro settings palette naming ids calls hfresh g n _ hself
    have hsound := Editor.run_preserves (fun _ _ ↦ Editor.Sound.call) hfresh
      (Editor.sound_new settings palette naming ids)
    exact hsound.graph.not_adjacent_self n.id (Graph.mem_neighbours_iff.1 hself).2

/-- The round trip with an edge back to its start, one that ends on no node, and a loop. -/
def tangle : Graph :=
  let edge (id m n : Nat) : Edge :=
    { id := ⟨.ofNat id⟩
      layer := .data
      source := ⟨⟨.ofNat m⟩, ⟨.ofNat 0⟩⟩
      target := ⟨⟨.ofNat n⟩, ⟨.ofNat 0⟩⟩ }
  (Graph.ofSnapshot Graph.roundTrip).addAll [] [edge 200 3 0, edge 201 3 99, edge 202 7 7]

/-- The two calls are neighbours, and the second is taken out of the tangle. The editor pastes a pair
of nodes twice. -/
theorem neighbours_exact_tangle :
    let first : NodeId := ⟨.ofNat 3⟩
    let second : NodeId := ⟨.ofNat 7⟩
    let editor := Editor.new {} .empty uniqueName (.ofStream .ofNat)
    let h := (editor.run Editor.session).graph
    (∃ m ∈ tangle.nodeList, ∃ n ∈ tangle.nodeList, m.id = first ∧ n.id = second ∧
      m ∈ tangle.neighbours n.id ∧ n ∈ tangle.neighbours m.id) ∧
    (tangle.neighbours first).map (·.id) = [⟨.ofNat 0⟩, second] ∧
    (tangle.neighbours second).map (·.id) = [second, first] ∧ first ≠ second ∧
    (tangle.removeNode second).2.neighbours first =
      (tangle.neighbours first).filter (fun k ↦ k.id ≠ second) ∧
    ((tangle.removeNode second).2.neighbours first).map (·.id) = [⟨.ofNat 0⟩] ∧
    editor.Throughout Editor.FreshCall Editor.session ∧
    (∀ n ∈ h.nodeList, n ∉ h.neighbours n.id) ∧
    h.nodeList.map (fun n ↦ (h.neighbours n.id).length) = [1, 1] := by
  intro first second editor h
  obtain ⟨hgraph, hrun⟩ := neighbours_exact
  obtain ⟨hsymm, -, hremove⟩ := hgraph tangle
  obtain ⟨m, hm, hfirst⟩ : ∃ m ∈ tangle.nodeList, m.id = first := by decide +kernel
  obtain ⟨n, hn, hsecond⟩ : ∃ n ∈ tangle.nodeList, n.id = second := by decide +kernel
  have hedge : ∃ e ∈ tangle.edgeList, e.Between first second := by decide +kernel
  have hmem : m ∈ tangle.neighbours n.id := (hsymm m hm n hn).2.2 (by rwa [hfirst, hsecond])
  have hne : first ≠ second := by decide +kernel
  have hfresh : editor.Throughout Editor.FreshCall Editor.session := by decide +kernel
  refine ⟨⟨m, hm, n, hn, hfirst, hsecond, hmem, (hsymm m hm n hn).1.1 hmem⟩, by decide +kernel,
    by decide +kernel, hne, hremove first second hne, by decide +kernel, hfresh, ?_,
    by decide +kernel⟩
  with_reducible exact hrun _ _ _ _ _ hfresh

end PipelineGraph
