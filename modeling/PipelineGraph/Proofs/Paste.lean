import PipelineGraph.Proofs.Clipboard
import PipelineGraph.Proofs.Selection

namespace PipelineGraph

def Edge.uuids (e : Edge) : List Uuid :=
  [e.id.uuid, e.source.node.uuid, e.source.port.uuid, e.target.node.uuid, e.target.port.uuid]

namespace Snapshot

def uuids (c : Snapshot) : List Uuid := c.nodes.flatMap Node.uuids ++ c.edges.flatMap Edge.uuids

def hasNode (c : Snapshot) (id : NodeId) : Bool := c.nodes.any fun n ↦ n.id = id

def encloses (c : Snapshot) (e : Edge) : Bool := c.hasNode e.source.node && c.hasNode e.target.node

end Snapshot

namespace Graph

variable {g : Graph}

theorem uuid_mem_of_mem_nodes {id : NodeId} (h : id ∈ g.nodes) : id.uuid ∈ g.snapshot.uuids := by
  obtain ⟨n, hn, rfl⟩ := mem_nodes_iff.1 h
  exact List.mem_append_left _ (List.mem_flatMap.2 ⟨n, hn, List.mem_cons_self⟩)

theorem uuid_mem_of_mem_edges {id : EdgeId} (h : id ∈ g.edges) : id.uuid ∈ g.snapshot.uuids := by
  obtain ⟨e, he, rfl⟩ := mem_edges_iff.1 h
  exact List.mem_append_right _ (List.mem_flatMap.2 ⟨e, he, List.mem_cons_self⟩)

theorem uuids_subset_of_partOf {c : Snapshot} (hc : c.PartOf g) : c.uuids ⊆ g.snapshot.uuids := by
  intro u hu
  rcases List.mem_append.1 hu with hu | hu
  · obtain ⟨n, hn, hu⟩ := List.mem_flatMap.1 hu
    exact List.mem_append_left _ (List.mem_flatMap.2 ⟨n, hc.nodes.subset hn, hu⟩)
  · obtain ⟨e, he, hu⟩ := List.mem_flatMap.1 hu
    exact List.mem_append_right _ (List.mem_flatMap.2 ⟨e, hc.edges.subset he, hu⟩)

theorem notMem_nodes_of_draws {n : Node} {s t : IdSupply} (hdraws : s.Draws n.uuids t)
    (hfresh : s.Fresh t g.snapshot.uuids) : n.id ∉ g.nodes := fun hmem ↦
  ((hdraws.fresh_iff _).1 hfresh).2 _ List.mem_cons_self (uuid_mem_of_mem_nodes hmem)

end Graph

namespace Clipboard

variable {g g₀ : Graph} {c : Snapshot} {offset : Point} {twins : List Twin}

/-- The second edge joins the copies of the end nodes of the first, at ports of the same numbers. -/
structure IsEdgeCopy (offset : Point) (twins : List Twin) (e e' : Edge) : Prop where
  layer : e'.layer = e.layer
  source : Corresponds twins e.source e'.source
  target : Corresponds twins e.target e'.target
  drawnFrom : e'.drawnFrom = e.drawnFrom + offset
  drawnTo : e'.drawnTo = e.drawnTo + offset

theorem exists_left_of_forall₂ {α β : Type} {R : α → β → Prop} {l : List α} {u : List β}
    (h : List.Forall₂ R l u) : ∀ b ∈ u, ∃ a ∈ l, R a b := by
  induction h with
  | nil => exact fun _ hb ↦ nomatch hb
  | cons hab _ ih =>
    intro b hb
    rcases List.mem_cons.1 hb with rfl | hb
    · exact ⟨_, List.mem_cons_self, hab⟩
    · obtain ⟨a, ha, hab⟩ := ih b hb
      exact ⟨a, List.mem_cons_of_mem _ ha, hab⟩

theorem exists_source (hc : c.PartOf g₀) (hs : twins.map Twin.source = c.nodes) {x : Endpoint}
    {p : Port} (hp : g₀.port? x = some p) (hx : c.hasNode x.node = true) :
    ∃ t ∈ twins, t.source.id = x.node ∧ t.source.ports.find? x.port = some p := by
  obtain ⟨n, hn, hnx⟩ := List.any_eq_true.1 hx
  rw [decide_eq_true_eq] at hnx
  obtain ⟨t, ht, rfl⟩ := List.mem_map.1 (hs ▸ hn)
  obtain ⟨m, hm, hp⟩ := Graph.port?_eq_some_iff.1 hp
  obtain ⟨hm, hmx⟩ := Graph.node?_eq_some_iff.1 hm
  have he := Graph.eq_of_id_eq (hc.nodes.subset hn) hm (hnx.trans hmx.symm)
  exact ⟨t, ht, hnx, he ▸ hp⟩

theorem isSome_rewire? (hc : c.PartOf g₀) (hs : twins.map Twin.source = c.nodes)
    (hf : Faithful offset twins) {x : Endpoint} {p : Port} (hp : g₀.port? x = some p) :
    (rewire? twins x).isSome = c.hasNode x.node := by
  cases hx : c.hasNode x.node with
  | true =>
    obtain ⟨t, ht, htx, htp⟩ := exists_source hc hs hp hx
    obtain ⟨q, hq, -⟩ := hf.rewire?_eq ht htx htp
    rw [hq, Option.isSome_some]
  | false =>
    rw [rewire?_eq_none, Option.isSome_none]
    intro t ht htx
    have hmem : t.source ∈ c.nodes := hs ▸ List.mem_map_of_mem ht
    exact List.any_eq_false.1 hx _ hmem (decide_eq_true htx)

theorem filter_canRewire (hc : c.PartOf g₀) (h₀ : g₀.WellFormed)
    (hs : twins.map Twin.source = c.nodes) (hf : Faithful offset twins) :
    c.edges.filter (canRewire twins) = c.edges.filter c.encloses := by
  refine List.filter_congr fun e he ↦ ?_
  obtain ⟨p, q, hp, hq, -⟩ := h₀.joins e (hc.edges.subset he)
  rw [canRewire, isSome_rewire? hc hs hf hp, isSome_rewire? hc hs hf hq, Snapshot.encloses]

theorem exists_of_rewire? (hc : c.PartOf g₀) (hs : twins.map Twin.source = c.nodes)
    (hf : Faithful offset twins) {x y : Endpoint} {p : Port} (hp : g₀.port? x = some p)
    (hy : rewire? twins x = some y) :
    ∃ t ∈ twins, ∃ q, t.source.id = x.node ∧ y.node = t.copy.id ∧ p.Alike q ∧
      t.copy.ports.find? y.port = some q ∧ Corresponds twins x y := by
  have hx : c.hasNode x.node = true := by rw [← isSome_rewire? hc hs hf hp, hy, Option.isSome_some]
  obtain ⟨t, ht, htx, htp⟩ := exists_source hc hs hp hx
  obtain ⟨q, hq, hpq, hfind, hcorr⟩ := hf.rewire?_eq ht htx htp
  obtain rfl := Option.some.inj (hy.symm.trans hq)
  exact ⟨t, ht, q, htx, rfl, hpq, hfind, hcorr⟩

theorem Rewired.isEdgeCopy (hc : c.PartOf g₀) (h₀ : g₀.WellFormed)
    (hs : twins.map Twin.source = c.nodes) (hf : Faithful offset twins) {e e' : Edge}
    (he : e ∈ c.edges) (h : Rewired twins offset e e') : IsEdgeCopy offset twins e e' := by
  obtain ⟨p, q, hp, hq, -⟩ := h₀.joins e (hc.edges.subset he)
  obtain ⟨_, _, _, _, _, _, _, hsource⟩ := exists_of_rewire? hc hs hf hp h.source
  obtain ⟨_, _, _, _, _, _, _, htarget⟩ := exists_of_rewire? hc hs hf hq h.target
  exact ⟨h.layer, hsource, htarget, h.drawnFrom, h.drawnTo⟩

theorem Rewired.joins (hc : c.PartOf g₀) (h₀ : g₀.WellFormed)
    (hs : twins.map Twin.source = c.nodes) (hf : Faithful offset twins)
    (hplaced : ∀ t ∈ twins, g.node? t.copy.id = some t.copy) {e e' : Edge} (he : e ∈ c.edges)
    (h : Rewired twins offset e e') : g.Joins e' := by
  obtain ⟨p, q, hp, hq, hpq, hlp, hlq, hne⟩ := h₀.joins e (hc.edges.subset he)
  obtain ⟨t, ht, p', hts, hnode, hpp', hfind, -⟩ := exists_of_rewire? hc hs hf hp h.source
  obtain ⟨t', ht', q', hts', hnode', hqq', hfind', -⟩ := exists_of_rewire? hc hs hf hq h.target
  refine ⟨p', q', ?_, ?_, ?_, ?_, ?_, ?_⟩
  · exact Graph.port?_eq_some_iff.2 ⟨t.copy, hnode ▸ hplaced t ht, hfind⟩
  · exact Graph.port?_eq_some_iff.2 ⟨t'.copy, hnode' ▸ hplaced t' ht', hfind'⟩
  · rw [hpp'.canConnect_eq hqq', hpq]
  · rw [h.layer, hpp'.layer_eq, hlp]
  · rw [h.layer, hqq'.layer_eq, hlq]
  · intro hsame
    have htt' : t = t' := hf.eq_of_copy ht ht' (hnode.symm.trans (hsame.trans hnode'))
    exact hne (hts.symm.trans (htt' ▸ hts'))

theorem exists_paste_eq {c : Clipboard} (hne : c.isEmpty = false) (g : Graph) (s : Selection)
    (naming : NamingPolicy) (offset : Point) (ids : IdSupply) :
    ∃ twins es dropped ids',
      twins = (pasteNodes naming offset c.contents.nodes g ids).1 ∧
      List.Forall₂ (Rewired twins offset) (c.contents.edges.filter (canRewire twins)) es ∧
      dropped + es.length = c.contents.edges.length ∧
      ids.Draws (twins.flatMap (·.copy.uuids) ++ (es.map (·.id)).map (·.uuid)) ids' ∧
      c.paste g s naming offset ids =
        ({ nodes := twins.map (·.copy.id), edges := es.map (·.id), dropped },
          g.addAll (twins.map Twin.copy) es,
          s.batch [.selectNodes (twins.map (·.copy.id)) false, .selectEdges (es.map (·.id)) true],
          ids') := by
  have hdraws := draws_pasteNodes naming offset c.contents.nodes g ids
  have hgraph := graph_pasteNodes naming offset c.contents.nodes g ids
  simp only [paste, hne, Bool.false_eq_true, if_false]
  generalize pasteNodes naming offset c.contents.nodes g ids = placed at hdraws hgraph ⊢
  obtain ⟨twins, g₁, ids₁⟩ := placed
  dsimp only at hdraws hgraph ⊢
  obtain ⟨es, hes, hadded, hcount, hgraph', hdraws'⟩ :=
    exists_pasteEdges twins offset c.contents.edges g₁ ids₁
  refine ⟨twins, es, _, _, rfl, hes, hcount, hdraws.trans hdraws', ?_⟩
  rw [hadded, hgraph', hgraph, Graph.addAll]

theorem faithful_pasteNodes (hc : c.PartOf g₀) (naming : NamingPolicy) (offset : Point) (g : Graph)
    (ids : IdSupply)
    (hfresh : ((pasteNodes naming offset c.nodes g ids).1.flatMap (·.copy.uuids)).Nodup) :
    Faithful offset (pasteNodes naming offset c.nodes g ids).1 := by
  refine ⟨?_, isCopy_pasteNodes naming offset c.nodes g ids, hfresh⟩
  have hsub := (hc.nodes.map (·.id)).nodup g₀.nodes_keyed.nodup
  rwa [← map_source_pasteNodes naming offset c.nodes g ids, List.map_map] at hsub

theorem copy_notMem_nodes {t : Twin} (ht : t ∈ twins)
    (hnew : ∀ u ∈ twins.flatMap (·.copy.uuids), u ∉ g.snapshot.uuids) : t.copy.id ∉ g.nodes :=
  fun hmem ↦ hnew t.copy.id.uuid (List.mem_flatMap.2 ⟨t, ht, List.mem_cons_self⟩)
    (Graph.uuid_mem_of_mem_nodes hmem)

theorem lists_addAll {es : List Edge} (htwins : (twins.flatMap (·.copy.uuids)).Nodup)
    (hes : (es.map (·.id)).Nodup)
    (hnew : ∀ u ∈ twins.flatMap (·.copy.uuids) ++ (es.map (·.id)).map (·.uuid),
      u ∉ g.snapshot.uuids) :
    (g.addAll (twins.map Twin.copy) es).nodeList = g.nodeList ++ twins.map Twin.copy ∧
      (g.addAll (twins.map Twin.copy) es).edgeList = g.edgeList ++ es := by
  constructor
  · refine Graph.nodeList_addAll es (by rw [List.map_map]; exact nodup_copies htwins)
      fun n hn hmem ↦ ?_
    obtain ⟨t, ht, rfl⟩ := List.mem_map.1 hn
    exact copy_notMem_nodes ht (fun u hu ↦ hnew u (List.mem_append_left _ hu)) hmem
  · refine Graph.edgeList_addAll _ hes fun e he hmem ↦ ?_
    refine hnew e.id.uuid (List.mem_append_right _ ?_) (Graph.uuid_mem_of_mem_edges hmem)
    exact List.mem_map_of_mem (List.mem_map_of_mem he)

theorem exists_twin_of_rewire? {x y : Endpoint} (h : rewire? twins x = some y) :
    ∃ t ∈ twins, y.node = t.copy.id := by
  obtain ⟨t, ht, i, -, q, -, hy⟩ := rewire?_eq_some_iff.1 h
  exact ⟨t, List.mem_reverse.1 (List.mem_of_find?_eq_some ht), by rw [← hy]⟩

theorem Rewired.exists_target {e e' : Edge} (hr : Rewired twins offset e e') :
    ∃ t ∈ twins, e'.target.node = t.copy.id := exists_twin_of_rewire? hr.target

/-- The nodes and edges that a paste appended are the ones it reports, they take up the identifiers
drawn, and the edges end on the nodes. -/
structure Appended (g : Graph) (drawn : List Uuid) (outcome : PasteOutcome) (g' : Graph)
    (ns : List Node) (es : List Edge) : Prop where
  nodes : g'.nodeList = g.nodeList ++ ns
  edges : g'.edgeList = g.edgeList ++ es
  nodeIds : outcome.nodes = ns.map (·.id)
  edgeIds : outcome.edges = es.map (·.id)
  drawn_eq : drawn = ns.flatMap Node.uuids ++ (es.map (·.id)).map (·.uuid)
  targets : ∀ e ∈ es, ∃ n ∈ ns, e.target.node = n.id

theorem Appended.uuid_mem_drawn {drawn : List Uuid} {outcome : PasteOutcome} {g' : Graph}
    {ns : List Node} {es : List Edge} (h : Appended g drawn outcome g' ns es) {n : Node}
    (hn : n ∈ ns) : n.id.uuid ∈ drawn := by
  rw [h.drawn_eq]
  exact List.mem_append_left _ (List.mem_flatMap.2 ⟨n, hn, List.mem_cons_self⟩)

theorem Appended.edge_uuid_mem_drawn {drawn : List Uuid} {outcome : PasteOutcome} {g' : Graph}
    {ns : List Node} {es : List Edge} (h : Appended g drawn outcome g' ns es) {id : EdgeId}
    (hid : id ∈ outcome.edges) : id.uuid ∈ drawn := by
  rw [h.drawn_eq, ← h.edgeIds]
  exact List.mem_append_right _ (List.mem_map_of_mem hid)

/-- Whatever the clipboard holds, a paste under new identifiers only appends. -/
theorem exists_appended_paste (c : Clipboard) (g : Graph) (s : Selection) (naming : NamingPolicy)
    (offset : Point) (ids : IdSupply)
    (hfresh : ids.Fresh (c.paste g s naming offset ids).2.2.2 g.snapshot.uuids) :
    ∃ ns es, Appended g (ids.drawnUntil (c.paste g s naming offset ids).2.2.2)
      (c.paste g s naming offset ids).1 (c.paste g s naming offset ids).2.1 ns es := by
  cases hne : c.isEmpty with
  | true =>
    rw [paste, hne]
    exact ⟨[], [], (List.append_nil _).symm, (List.append_nil _).symm, rfl, rfl,
      (IdSupply.Draws.nil ids).drawnUntil_eq, nofun⟩
  | false =>
    obtain ⟨twins, es, dropped, ids', -, hes, -, hdraws, heq⟩ :=
      exists_paste_eq hne g s naming offset ids
    rw [heq] at hfresh ⊢
    obtain ⟨hnodup, hnew⟩ := (hdraws.fresh_iff _).1 hfresh
    obtain ⟨htwins, hedges, -⟩ := List.nodup_append.1 hnodup
    obtain ⟨hnodes, hedges⟩ := lists_addAll htwins hedges.of_map hnew
    refine ⟨twins.map Twin.copy, es, hnodes, hedges, by rw [List.map_map]; rfl, rfl, ?_, ?_⟩
    · rw [hdraws.drawnUntil_eq, List.flatMap_map]
    · intro e' he'
      obtain ⟨e, -, hr⟩ := exists_left_of_forall₂ hes e' he'
      obtain ⟨t, ht, htarget⟩ := hr.exists_target
      exact ⟨t.copy, List.mem_map_of_mem ht, htarget⟩

/-- How a graph and a selection look after a paste: copies of all nodes, and of the edges between
two of them, are appended and make up the selection, and the other edges are counted. -/
structure Pasted (c : Snapshot) (offset : Point) (g : Graph) (twins : List Twin) (es : List Edge)
    (outcome : PasteOutcome) (g' : Graph) (selected : Selected) : Prop where
  sources : twins.map Twin.source = c.nodes
  copies : ∀ t ∈ twins, IsCopy offset t.source t.copy
  nodes : g'.nodeList = g.nodeList ++ twins.map Twin.copy
  edgeCopies : List.Forall₂ (IsEdgeCopy offset twins) (c.edges.filter c.encloses) es
  edges : g'.edgeList = g.edgeList ++ es
  outcome_nodes : outcome.nodes = twins.map (·.copy.id)
  outcome_edges : outcome.edges = es.map (·.id)
  dropped : outcome.dropped = (c.edges.filter fun e ↦ !c.encloses e).length
  selected_nodes : selected.nodes = twins.map (·.copy.id)
  selected_edges : selected.edges = es.map (·.id)

theorem exists_pasted_pasteNodes {c : Clipboard} (hc : c.contents.PartOf g₀) (h₀ : g₀.WellFormed)
    (hne : c.isEmpty = false) (s : Selection) (naming : NamingPolicy) (offset : Point)
    (ids : IdSupply)
    (hfresh : ids.Fresh (c.paste g s naming offset ids).2.2.2 g.snapshot.uuids) :
    let twins := (pasteNodes naming offset c.contents.nodes g ids).1
    ∃ es, Faithful offset twins ∧ (∀ e ∈ es, (c.paste g s naming offset ids).2.1.Joins e) ∧
      Pasted c.contents offset g twins es (c.paste g s naming offset ids).1
        (c.paste g s naming offset ids).2.1 (c.paste g s naming offset ids).2.2.1.current := by
  obtain ⟨twins, es, dropped, ids', htwins, hes, hcount, hdraws, heq⟩ :=
    exists_paste_eq hne g s naming offset ids
  rw [heq] at hfresh ⊢
  rw [← htwins]
  obtain ⟨hnodup, hnew⟩ := (hdraws.fresh_iff _).1 hfresh
  obtain ⟨hnodup, hnodup', -⟩ := List.nodup_append.1 hnodup
  replace hnodup' := hnodup'.of_map
  have hs : twins.map Twin.source = c.contents.nodes := htwins ▸ map_source_pasteNodes ..
  have hf : Faithful offset twins :=
    htwins ▸ faithful_pasteNodes hc naming offset g ids (htwins ▸ hnodup)
  obtain ⟨hnodes, hedges⟩ := lists_addAll hf.fresh hnodup' hnew
  have hplaced : ∀ t ∈ twins,
      (g.addAll (twins.map Twin.copy) es).node? t.copy.id = some t.copy := by
    intro t ht
    refine Graph.node?_eq_some_iff.2 ⟨?_, rfl⟩
    rw [hnodes]
    exact List.mem_append_right _ (List.mem_map_of_mem ht)
  have hcopied : List.Forall₂ (fun e e' ↦ e ∈ c.contents.edges ∧ Rewired twins offset e e')
      (c.contents.edges.filter c.contents.encloses) es := by
    rw [← filter_canRewire hc h₀ hs hf]
    exact (List.forall₂_and_left _ _).2 ⟨fun e he ↦ List.mem_of_mem_filter he, hes⟩
  have hdropped : dropped = (c.contents.edges.filter fun e ↦ !c.contents.encloses e).length := by
    have hlength := c.contents.edges.length_eq_length_filter_add c.contents.encloses
    have hsame := hcopied.length_eq
    omega
  refine ⟨es, hf, ?_, hs, hf.copies, hnodes,
    hcopied.imp fun e e' h ↦ h.2.isEdgeCopy hc h₀ hs hf h.1, hedges, rfl, rfl, hdropped, ?_, ?_⟩
  · intro e' he'
    obtain ⟨e, -, he, hr⟩ := exists_left_of_forall₂ hcopied e' he'
    exact hr.joins hc h₀ hs hf hplaced he
  · exact (congrArg _ (Selection.current_batch _ _)).trans
      (Selected.addAll_nil hf.copies_nodup)
  · exact (congrArg _ (Selection.current_batch _ _)).trans
      (Selected.addAll_nil hnodup')

theorem exists_pasted {c : Clipboard} (hc : c.contents.PartOf g₀) (h₀ : g₀.WellFormed)
    (hne : c.isEmpty = false) (s : Selection) (naming : NamingPolicy) (offset : Point)
    (ids : IdSupply)
    (hfresh : ids.Fresh (c.paste g s naming offset ids).2.2.2 g.snapshot.uuids) :
    ∃ twins es, Faithful offset twins ∧
      (∀ e ∈ es, (c.paste g s naming offset ids).2.1.Joins e) ∧
      Pasted c.contents offset g twins es (c.paste g s naming offset ids).1
        (c.paste g s naming offset ids).2.1 (c.paste g s naming offset ids).2.2.1.current :=
  ⟨_, exists_pasted_pasteNodes hc h₀ hne s naming offset ids hfresh⟩

/-- Pasting what was copied from a well-formed graph adds a copy of each node and of exactly those
edges that ran between two of them. -/
theorem paste_copy (h₀ : g₀.WellFormed) (copiedPart : Selected) (c : Clipboard)
    (hne : (c.copy g₀ copiedPart).isEmpty = false) (g : Graph) (s : Selection)
    (naming : NamingPolicy) (offset : Point) (ids : IdSupply)
    (hfresh : ids.Fresh ((c.copy g₀ copiedPart).paste g s naming offset ids).2.2.2
      (g.snapshot.uuids ++ (c.copy g₀ copiedPart).contents.uuids)) :
    let contents := (c.copy g₀ copiedPart).contents
    let r := (c.copy g₀ copiedPart).paste g s naming offset ids
    ∃ twins es, Pasted contents offset g twins es r.1 r.2.1 r.2.2.1.current := by
  obtain ⟨twins, es, -, -, hpasted⟩ := exists_pasted (copied_partOf g₀ copiedPart) h₀ hne s naming
    offset ids (hfresh.mono (List.subset_append_left _ _))
  exact ⟨twins, es, hpasted⟩

def chain : Graph :=
  let (start, ids) := Node.newStart "Start" (.ofStream .ofNat)
  let (first, ids) := Node.newFunction ⟨"f", .ofList [("x", .int32)], .empty⟩ "f" ids
  let (second, ids) := Node.newFunction ⟨"f", .empty, .empty⟩ "f-1" ids
  let g := ((Graph.empty.addNode start).addNode first).addNode second
  let (_, g, ids) := g.connect ⟨start.id, start.ports.controlOutput.id⟩
    ⟨first.id, first.ports.controlInput.id⟩ ids
  (g.connect ⟨first.id, first.ports.controlOutput.id⟩
    ⟨second.id, second.ports.controlInput.id⟩ ids).2.1

theorem wellFormed_chain : chain.WellFormed := by
  refine Graph.wellFormed_iff.2 fun e he ↦ Graph.accepts_iff_joins.1 ?_
  revert e
  decide +kernel

theorem paste_copy_chain :
    let copied : Selected := ⟨chain.nodes.keys.take 2, chain.edges.keys⟩
    let c := ({ offset := .zero } : Clipboard).copy chain copied
    let ids := IdSupply.ofStream fun n ↦ .ofNat (n + 100)
    let r := c.paste chain {} uniqueName .zero ids
    c.isEmpty = false ∧ ids.Fresh r.2.2.2 (chain.snapshot.uuids ++ c.contents.uuids) ∧
      r.1.edges.length = 1 ∧ r.1.dropped = 1 ∧
      ∃ twins es, Pasted c.contents .zero chain twins es r.1 r.2.1 r.2.2.1.current := by
  intro copied c ids r
  have hne : c.isEmpty = false := by decide +kernel
  have hfresh : ids.Fresh r.2.2.2 (chain.snapshot.uuids ++ c.contents.uuids) := by decide +kernel
  exact ⟨hne, hfresh, by decide +kernel, by decide +kernel,
    paste_copy wellFormed_chain copied { offset := .zero } hne chain {} uniqueName .zero ids hfresh⟩

theorem wellFormed_paste {c : Clipboard} (hc : c.contents.PartOf g₀) (h₀ : g₀.WellFormed)
    (hg : g.WellFormed) (s : Selection) (naming : NamingPolicy) (offset : Point) (ids : IdSupply)
    (hfresh : ids.Fresh (c.paste g s naming offset ids).2.2.2 g.snapshot.uuids) :
    (c.paste g s naming offset ids).2.1.WellFormed := by
  cases hne : c.isEmpty with
  | true => rwa [paste, hne]
  | false =>
    obtain ⟨twins, es, -, hjoins, hpasted⟩ := exists_pasted hc h₀ hne s naming offset ids hfresh
    refine hg.mono (fun x p hp ↦ ?_) fun e he ↦ ?_
    · obtain ⟨n, hn, hp⟩ := Graph.port?_eq_some_iff.1 hp
      obtain ⟨hn, hid⟩ := Graph.node?_eq_some_iff.1 hn
      refine Graph.port?_eq_some_iff.2 ⟨n, Graph.node?_eq_some_iff.2 ⟨?_, hid⟩, hp⟩
      rw [hpasted.nodes]
      exact List.mem_append_left _ hn
    · rw [hpasted.edges] at he
      rcases List.mem_append.1 he with he | he
      · exact .inr ⟨e, he, rfl, rfl, rfl⟩
      · exact .inl (hjoins e he)

end Clipboard

end PipelineGraph
