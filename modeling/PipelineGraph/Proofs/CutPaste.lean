import PipelineGraph.Proofs.Deletion
import PipelineGraph.Proofs.DistinctNames
import PipelineGraph.Proofs.Search

namespace PipelineGraph

namespace Selected

def encloses (s : Selected) (e : Edge) : Bool :=
  e.source.node ∈ s.nodes ∧ e.target.node ∈ s.nodes

def spares (s : Selected) (e : Edge) : Bool :=
  e.id ∉ s.edges ∧ e.source.node ∉ s.nodes ∧ e.target.node ∉ s.nodes

end Selected

namespace Clipboard

variable {g : Graph} {s : Selected}

def cutPaste (c : Clipboard) (g : Graph) (s : Selection) (offset : Point) (ids : IdSupply) :
    PasteOutcome × Graph × Selection × IdSupply :=
  let (c, _, g, s) := c.cut g s
  c.paste g s uniqueName offset ids

/-- Nodes whose names are free and differ from each other keep them: what is added for one leaves
the names of the others free. -/
theorem name_pasteNodes {ns : List Node} (hfree : ∀ n ∈ ns, g.usesName n.name = false)
    (hnames : (ns.map (·.name)).Nodup) (offset : Point) (ids : IdSupply) :
    ∀ t ∈ (pasteNodes uniqueName offset ns g ids).1, t.copy.name = t.source.name := by
  induction ns generalizing g ids with
  | nil => exact fun t ht ↦ nomatch ht
  | cons n ns ih =>
    obtain ⟨hn, hnames⟩ := List.nodup_cons.1 hnames
    have hname : uniqueName n.name g = n.name := uniqueName_of_free (hfree n List.mem_cons_self)
    intro t ht
    rcases List.mem_cons.1 ht with rfl | ht
    · exact hname
    · refine ih ?_ hnames _ t ht
      intro m hm
      apply Graph.usesName_eq_false_iff.2
      intro k hk he
      rcases OrderedMap.of_mem_values_insert hk with hk | rfl
      · exact Graph.usesName_eq_false_iff.1 (hfree m (List.mem_cons_of_mem _ hm)) k hk he
      · exact hn (List.mem_map.2 ⟨m, hm, he.symm.trans hname⟩)

theorem hasNode_copied {id : NodeId} (hid : id ∈ g.nodes) :
    (copied g s).hasNode id = decide (id ∈ s.nodes) := by
  rw [Bool.eq_iff_iff, decide_eq_true_eq, Snapshot.hasNode, List.any_eq_true]
  constructor
  · intro h
    obtain ⟨n, hn, he⟩ := h
    obtain rfl : n.id = id := of_decide_eq_true he
    exact of_decide_eq_true (List.mem_filter.1 hn).2
  · intro h
    obtain ⟨n, hn, rfl⟩ := Graph.mem_nodes_iff.1 hid
    exact ⟨n, List.mem_filter.2 ⟨hn, decide_eq_true h⟩, decide_eq_true rfl⟩

theorem encloses_copied (hg : g.Closed) {e : Edge} (he : e ∈ g.edgeList) :
    (copied g s).encloses e = s.encloses e := by
  obtain ⟨hsource, htarget⟩ := hg e he
  rw [Snapshot.encloses, hasNode_copied hsource, hasNode_copied htarget, ← Bool.decide_and]
  rfl

theorem filter_copied (hg : g.Closed) (p : Bool → Bool) :
    ((copied g s).edges.filter fun e ↦ p ((copied g s).encloses e)) =
      g.edgeList.filter fun e ↦ p (s.encloses e) && (e.id ∈ s.edges || s.encloses e) := by
  have hcopied : (copied g s).edges =
      g.edgeList.filter fun e ↦ e.id ∈ s.edges || s.encloses e := by
    apply List.filter_congr
    intro e _
    exact Bool.decide_or _ _
  rw [hcopied, List.filter_filter]
  apply List.filter_congr
  intro e he
  rw [encloses_copied hg he]

/-- Of the edges that were copied, those between two selected nodes are pasted again. -/
theorem filter_encloses_copied (hg : g.Closed) :
    (copied g s).edges.filter (copied g s).encloses = g.edgeList.filter s.encloses := by
  rw [filter_copied hg fun enclosed ↦ enclosed]
  apply List.filter_congr
  intro e _
  cases s.encloses e with
  | true => simp
  | false => rfl

theorem filter_not_encloses_copied (hg : g.Closed) :
    ((copied g s).edges.filter fun e ↦ !(copied g s).encloses e) =
      g.edgeList.filter fun e ↦ e.id ∈ s.edges ∧ ¬ s.encloses e := by
  rw [filter_copied hg fun enclosed ↦ !enclosed]
  apply List.filter_congr
  intro e _
  cases s.encloses e with
  | true => simp
  | false => simp

/-- How a graph looks when its selected part has been cut and pasted: the rest of the nodes is
followed by copies of the selected ones, which keep all but their identifiers and positions, and the
edges that were spared by copies of those between two selected nodes. The other edges are gone, and
those of them that were selected are counted. -/
structure Moved (g : Graph) (s : Selected) (offset : Point) (twins : List Twin) (es : List Edge)
    (outcome : PasteOutcome) (h : Graph) : Prop where
  sources : twins.map Twin.source = g.nodeList.filter fun n ↦ n.id ∈ s.nodes
  copies : ∀ t ∈ twins, t.source.ports.Alike t.copy.ports ∧ t.copy =
    { t.source with
      id := t.copy.id
      position := t.source.position + offset
      ports := t.copy.ports }
  nodes : h.nodeList = (g.nodeList.filter fun n ↦ n.id ∉ s.nodes) ++ twins.map Twin.copy
  edgeCopies : List.Forall₂ (IsEdgeCopy offset twins) (g.edgeList.filter s.encloses) es
  edges : h.edgeList = g.edgeList.filter s.spares ++ es
  kept : ∀ e ∈ g.edgeList, e.id ∈ h.edges ↔ s.spares e = true
  outcome_nodes : outcome.nodes = twins.map (·.copy.id)
  outcome_edges : outcome.edges = es.map (·.id)
  dropped : outcome.dropped = (g.edgeList.filter fun e ↦ e.id ∈ s.edges ∧ ¬ s.encloses e).length

theorem snapshot_deleteSelected_partOf (hg : g.Closed) (s : Selection) :
    (deleteSelected g s).2.1.snapshot.PartOf g where
  nodes := by
    change (deleteSelected g s).2.1.nodeList.Sublist g.nodeList
    rw [nodeList_deleteSelected]
    exact List.filter_sublist
  edges := by
    change (deleteSelected g s).2.1.edgeList.Sublist g.edgeList
    rw [edgeList_deleteSelected hg]
    exact List.filter_sublist

theorem usesName_deleteSelected (hg : g.Unambiguous) (s : Selection) :
    ∀ n ∈ (copied g s.current).nodes, (deleteSelected g s).2.1.usesName n.name = false := by
  intro n hn
  obtain ⟨hn, hselected⟩ := List.mem_filter.1 hn
  apply Graph.usesName_eq_false_iff.2
  intro m hm hname
  rw [nodeList_deleteSelected] at hm
  obtain ⟨hm, hleft⟩ := List.mem_filter.1 hm
  obtain rfl : m = n := hg m hm n hn hname
  exact of_decide_eq_true hleft (of_decide_eq_true hselected)

theorem fresh_cutPaste (hg : g.Closed) {c : Clipboard} {s : Selection} {offset : Point}
    {ids : IdSupply} (hfresh : ids.Fresh (c.cutPaste g s offset ids).2.2.2 g.snapshot.uuids) :
    ids.Fresh (c.cutPaste g s offset ids).2.2.2 (deleteSelected g s).2.1.snapshot.uuids :=
  hfresh.mono (Graph.uuids_subset_of_partOf (snapshot_deleteSelected_partOf hg s))

/-- The pasted edges have identifiers that no edge had before the cut. -/
theorem notMem_edges_of_cutPaste (hg : g.Closed) {c : Clipboard} {s : Selection} {offset : Point}
    {ids : IdSupply} (hfresh : ids.Fresh (c.cutPaste g s offset ids).2.2.2 g.snapshot.uuids)
    {id : EdgeId} (hid : id ∈ (c.cutPaste g s offset ids).1.edges) : id ∉ g.edges := by
  obtain ⟨ns, es, happended⟩ := exists_appended_paste (c.copy g s.current) (deleteSelected g s).2.1
    (deleteSelected g s).2.2 uniqueName offset ids (fresh_cutPaste hg hfresh)
  intro hold
  exact hfresh.2 _ (happended.edge_uuid_mem_drawn hid) (Graph.uuid_mem_of_mem_edges hold)

/-- Where the edges that were added have new identifiers, an old edge is still there exactly if it is
one of those that were left. -/
theorem mem_edges_iff_of_filter_append {h : Graph} {p : Edge → Bool} {es : List Edge}
    (hedges : h.edgeList = g.edgeList.filter p ++ es) (hnew : ∀ e ∈ es, e.id ∉ g.edges) {e : Edge}
    (he : e ∈ g.edgeList) : e.id ∈ h.edges ↔ p e = true := by
  rw [Graph.mem_edges_iff, hedges]
  constructor
  · intro hid
    obtain ⟨e', he', hid⟩ := hid
    rcases List.mem_append.1 he' with he' | he'
    · obtain ⟨hmem, hleft⟩ := List.mem_filter.1 he'
      have hsame : e' = e := List.inj_on_of_nodup_map g.nodup_edgeIds hmem he hid
      exact hsame ▸ hleft
    · exact absurd (Graph.mem_edges_iff.2 ⟨e, he, hid.symm⟩) (hnew e' he')
  · intro hleft
    exact ⟨e, List.mem_append_left _ (List.mem_filter.2 ⟨he, hleft⟩), rfl⟩

theorem exists_pasted_cutPaste (hg : g.WellFormed) (hnames : (g.nodeList.map (·.name)).Nodup)
    {c : Clipboard} {s : Selection} (hne : (c.copy g s.current).isEmpty = false) {offset : Point}
    {ids : IdSupply} (hfresh : ids.Fresh (c.cutPaste g s offset ids).2.2.2 g.snapshot.uuids) :
    ∃ twins es, (∀ t ∈ twins, t.copy.name = t.source.name) ∧
      Pasted (copied g s.current) offset (deleteSelected g s).2.1 twins es
        (c.cutPaste g s offset ids).1 (c.cutPaste g s offset ids).2.1
        (c.cutPaste g s offset ids).2.2.1.current := by
  have hpart : (c.copy g s.current).contents.PartOf g := copied_partOf g s.current
  obtain ⟨es, -, -, hpasted⟩ := exists_pasted_pasteNodes hpart hg hne (deleteSelected g s).2.2
    uniqueName offset ids (fresh_cutPaste hg.closed hfresh)
  refine ⟨_, es, ?_, hpasted⟩
  apply name_pasteNodes
  · exact usesName_deleteSelected (Graph.unambiguous_iff_nodup.2 hnames) s
  · exact (hpart.nodes.map _).nodup hnames

theorem isEmpty_copy {c : Clipboard} (hs : s.Within g) (hsome : s.nodes ≠ []) :
    (c.copy g s).isEmpty = false := by
  obtain ⟨id, hid⟩ := List.exists_mem_of_ne_nil _ hsome
  obtain ⟨n, hn, rfl⟩ := Graph.mem_nodes_iff.1 (hs.nodes id hid)
  have hmem : n ∈ (c.copy g s).contents.nodes := List.mem_filter.2 ⟨hn, decide_eq_true hid⟩
  exact List.isEmpty_eq_false_iff_exists_mem.2 ⟨n, hmem⟩

/-- In a well-formed graph whose nodes have different names, cutting the selected nodes and pasting
them at once moves them, under their names, with the edges between them. -/
theorem moved_cutPaste (hg : g.WellFormed) (hnames : (g.nodeList.map (·.name)).Nodup)
    (c : Clipboard) (s : Selection) (hs : s.current.Within g) (hsome : s.current.nodes ≠ [])
    (offset : Point) (ids : IdSupply)
    (hfresh : ids.Fresh (c.cutPaste g s offset ids).2.2.2 g.snapshot.uuids) :
    ∃ twins es, Moved g s.current offset twins es (c.cutPaste g s offset ids).1
      (c.cutPaste g s offset ids).2.1 := by
  obtain ⟨twins, es, hname, hp⟩ :=
    exists_pasted_cutPaste hg hnames (isEmpty_copy (c := c) hs hsome) hfresh
  have hrest : (deleteSelected g s).2.1.edgeList = g.edgeList.filter s.current.spares :=
    edgeList_deleteSelected hg.closed s
  have hedges := hp.edges
  rw [hrest] at hedges
  refine ⟨twins, es, hp.sources, ?_, ?_, ?_, hedges, ?_, hp.outcome_nodes, hp.outcome_edges, ?_⟩
  · intro t ht
    obtain ⟨hcopy, hports⟩ := hp.copies t ht
    rw [hname t ht] at hcopy
    exact ⟨hports, hcopy⟩
  · rw [← nodeList_deleteSelected]
    exact hp.nodes
  · rw [← filter_encloses_copied hg.closed]
    exact hp.edgeCopies
  · intro e he
    apply mem_edges_iff_of_filter_append hedges _ he
    intro e' he'
    apply notMem_edges_of_cutPaste hg.closed hfresh
    rw [hp.outcome_edges]
    exact List.mem_map_of_mem he'
  · rw [← filter_not_encloses_copied hg.closed]
    exact hp.dropped

def detour : Snapshot :=
  let arc (id : Nat) : Edge :=
    { id := ⟨.ofNat id⟩
      layer := .control
      source := ⟨⟨.ofNat 0⟩, ⟨.ofNat 2⟩⟩
      target := ⟨⟨.ofNat 10⟩, ⟨.ofNat 11⟩⟩ }
  ⟨Graph.roundTrip.nodes, Graph.roundTrip.edges ++ [arc 104, arc 105]⟩

theorem moved_cutPaste_detour :
    let g := Graph.ofSnapshot detour
    let s : Selection := { current := ⟨[⟨.ofNat 7⟩, ⟨.ofNat 3⟩], [⟨.ofNat 100⟩, ⟨.ofNat 105⟩]⟩ }
    let ids := IdSupply.ofStream fun n ↦ .ofNat (n + 200)
    let r := ({ offset := .zero } : Clipboard).cutPaste g s defaultOffset ids
    g.WellFormed ∧ (g.nodeList.map (·.name)).Nodup ∧ s.current.Within g ∧ s.current.nodes ≠ [] ∧
    ids.Fresh r.2.2.2 g.snapshot.uuids ∧
    r.2.1.nodeList.map (·.name) = ["h", "Start", "g", "f"] ∧
    r.2.1.edges.keys =
      [⟨.ofNat 104⟩, ⟨.ofNat 207⟩, ⟨.ofNat 208⟩, ⟨.ofNat 209⟩] ∧
    r.1.dropped = 2 ∧
    ∃ twins es, Moved g s.current defaultOffset twins es r.1 r.2.1 := by
  intro g s ids r
  have hg : g.WellFormed := Graph.wellFormed_ofSnapshot detour
  have hnames : (g.nodeList.map (·.name)).Nodup := by decide +kernel
  have hwithin : s.current.Within g := ⟨by decide +kernel, by decide +kernel⟩
  have hsome : s.current.nodes ≠ [] := nofun
  have hfresh : ids.Fresh r.2.2.2 g.snapshot.uuids := by decide +kernel
  refine ⟨hg, hnames, hwithin, hsome, hfresh, by decide +kernel, by decide +kernel,
    by decide +kernel, ?_⟩
  with_reducible exact moved_cutPaste hg hnames _ s hwithin hsome defaultOffset ids hfresh

end Clipboard

end PipelineGraph
