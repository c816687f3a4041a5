import PipelineGraph.Drag
import PipelineGraph.Graph.Removal
import PipelineGraph.Graph.Snapshot
import PipelineGraph.Proofs.OrderedMap

namespace PipelineGraph

theorem Port.layer_eq_of_canConnect {a b : Port} (h : a.canConnect b = true) :
    a.layer = b.layer := by
  simp only [canConnect, Bool.and_eq_true, decide_eq_true_eq] at h
  exact h.2

namespace Graph

variable {g h : Graph} {m n : Node} {e : Edge}

theorem eq_of_lists_eq (hn : g.nodeList = h.nodeList) (he : g.edgeList = h.edgeList) : g = h :=
  ext (g.nodes_keyed.eq_of_values_eq h.nodes_keyed hn)
    (g.edges_keyed.eq_of_values_eq h.edges_keyed he)

theorem nodup_nodeIds (g : Graph) : (g.nodeList.map (·.id)).Nodup := g.nodes_keyed.nodup

theorem nodup_nodeList (g : Graph) : g.nodeList.Nodup := g.nodup_nodeIds.of_map

theorem nodup_edgeIds (g : Graph) : (g.edgeList.map (·.id)).Nodup := g.edges_keyed.nodup

theorem node?_eq_some_iff {id : NodeId} : g.node? id = some n ↔ n ∈ g.nodeList ∧ n.id = id :=
  g.nodes_keyed.get?_eq_some_iff

theorem edge?_eq_some_iff {id : EdgeId} : g.edge? id = some e ↔ e ∈ g.edgeList ∧ e.id = id :=
  g.edges_keyed.get?_eq_some_iff

theorem mem_nodes_iff {id : NodeId} : id ∈ g.nodes ↔ ∃ n ∈ g.nodeList, n.id = id :=
  g.nodes_keyed.mem_iff

theorem mem_edges_iff {id : EdgeId} : id ∈ g.edges ↔ ∃ e ∈ g.edgeList, e.id = id :=
  g.edges_keyed.mem_iff

theorem eq_of_id_eq (hm : m ∈ g.nodeList) (hn : n ∈ g.nodeList) (h : m.id = n.id) : m = n :=
  List.inj_on_of_nodup_map g.nodes_keyed.nodup hm hn h

theorem port?_eq_some_iff {x : Endpoint} {p : Port} :
    g.port? x = some p ↔ ∃ n, g.node? x.node = some n ∧ n.ports.find? x.port = some p :=
  Option.bind_eq_some_iff

/-- The edge runs between two ports that can be connected, on the layer of both and between
different nodes. -/
def Joins (g : Graph) (e : Edge) : Prop :=
  ∃ p q, g.port? e.source = some p ∧ g.port? e.target = some q ∧ p.canConnect q = true ∧
    e.layer = p.layer ∧ e.layer = q.layer ∧ e.source.node ≠ e.target.node

theorem accepts_iff_joins : g.accepts e = true ↔ g.Joins e := by
  unfold accepts Joins
  cases hp : g.port? e.source with
  | none => simp
  | some p =>
    cases hq : g.port? e.target with
    | none => simp
    | some q =>
      simp only [Bool.and_eq_true, decide_eq_true_eq, Option.some.injEq]
      constructor
      · rintro ⟨⟨hc, he⟩, hne⟩
        exact ⟨p, q, rfl, rfl, hc, he.symm, he.symm.trans (Port.layer_eq_of_canConnect hc), hne⟩
      · rintro ⟨_, _, rfl, rfl, hc, he, -, hne⟩
        exact ⟨⟨hc, he.symm⟩, hne⟩

/-- Nodes and edges sit under their own identifiers, and every edge joins two ports. -/
structure WellFormed (g : Graph) : Prop where
  node_id : ∀ id n, g.node? id = some n → n.id = id
  edge_id : ∀ id e, g.edge? id = some e → e.id = id
  joins : ∀ e ∈ g.edgeList, g.Joins e

theorem wellFormed_iff : g.WellFormed ↔ ∀ e ∈ g.edgeList, g.Joins e :=
  ⟨WellFormed.joins, fun h ↦
    ⟨fun _ _ hn ↦ (node?_eq_some_iff.1 hn).2, fun _ _ he ↦ (edge?_eq_some_iff.1 he).2, h⟩⟩

theorem wellFormed_empty : empty.WellFormed := wellFormed_iff.2 fun _ he ↦ nomatch he

theorem Joins.mono {e' : Edge} (he : g.Joins e)
    (hends : e'.layer = e.layer ∧ e'.source = e.source ∧ e'.target = e.target)
    (hs : ∀ p, g.port? e.source = some p → h.port? e.source = some p)
    (ht : ∀ p, g.port? e.target = some p → h.port? e.target = some p) : h.Joins e' := by
  obtain ⟨p, q, hp, hq, hc⟩ := he
  obtain ⟨hl, hs', ht'⟩ := hends
  refine ⟨p, q, ?_, ?_, ?_⟩
  · exact hs' ▸ hs p hp
  · exact ht' ▸ ht q hq
  · rwa [hl, hs', ht']

/-- A graph is well formed if it has all ports of a well-formed graph, and edges that run as one
of that graph does or join ports of their own. -/
theorem WellFormed.mono (hg : g.WellFormed)
    (hports : ∀ x p, g.port? x = some p → h.port? x = some p)
    (hedges : ∀ e' ∈ h.edgeList, h.Joins e' ∨ ∃ e ∈ g.edgeList,
      e'.layer = e.layer ∧ e'.source = e.source ∧ e'.target = e.target) : h.WellFormed := by
  refine wellFormed_iff.2 fun e' he' ↦ ?_
  rcases hedges e' he' with hj | ⟨e, he, hends⟩
  · exact hj
  · exact (hg.joins e he).mono hends (hports _) (hports _)

theorem nodeList_addNode (hn : n.id ∉ g.nodes) : (g.addNode n).nodeList = g.nodeList ++ [n] :=
  OrderedMap.values_insert_of_notMem hn n

/-- A name belongs to a node that comes later only if none of those before has it. -/
theorem nodeNamed?_of_append {ns : List Node} (hlist : h.nodeList = g.nodeList ++ ns)
    (name : String) :
    h.nodeNamed? name = (g.nodeNamed? name).or (ns.find? fun n ↦ n.name = name) := by
  rw [nodeNamed?, hlist, List.find?_append]
  rfl

theorem edgeList_addEdge (he : e.id ∉ g.edges) : (g.addEdge e).edgeList = g.edgeList ++ [e] :=
  OrderedMap.values_insert_of_notMem he e

def addAll (g : Graph) (ns : List Node) (es : List Edge) : Graph :=
  es.foldl addEdge (ns.foldl addNode g)

theorem nodeList_foldl_addNode {ns : List Node} (hd : (ns.map (·.id)).Nodup)
    (hn : ∀ n ∈ ns, n.id ∉ g.nodes) : (ns.foldl addNode g).nodeList = g.nodeList ++ ns := by
  induction ns generalizing g with
  | nil => simp
  | cons n ns ih =>
    obtain ⟨hnew, hd⟩ := List.nodup_cons.1 hd
    rw [List.foldl_cons, ih hd, nodeList_addNode (hn n List.mem_cons_self), List.append_assoc,
      List.singleton_append]
    intro m hm hmem
    rcases OrderedMap.mem_insert.1 hmem with hmem | he
    · exact hn m (List.mem_cons_of_mem _ hm) hmem
    · exact hnew (List.mem_map.2 ⟨m, hm, he⟩)

theorem edges_foldl_addNode (g : Graph) (ns : List Node) :
    (ns.foldl addNode g).edges = g.edges := by
  induction ns generalizing g with
  | nil => rfl
  | cons n ns ih => exact ih _

theorem edgeList_foldl_addEdge {es : List Edge} (hd : (es.map (·.id)).Nodup)
    (he : ∀ e ∈ es, e.id ∉ g.edges) : (es.foldl addEdge g).edgeList = g.edgeList ++ es := by
  induction es generalizing g with
  | nil => simp
  | cons e es ih =>
    obtain ⟨hnew, hd⟩ := List.nodup_cons.1 hd
    rw [List.foldl_cons, ih hd, edgeList_addEdge (he e List.mem_cons_self), List.append_assoc,
      List.singleton_append]
    intro f hf hmem
    rcases OrderedMap.mem_insert.1 hmem with hmem | hid
    · exact he f (List.mem_cons_of_mem _ hf) hmem
    · exact hnew (List.mem_map.2 ⟨f, hf, hid⟩)

theorem nodes_foldl_addEdge (g : Graph) (es : List Edge) :
    (es.foldl addEdge g).nodes = g.nodes := by
  induction es generalizing g with
  | nil => rfl
  | cons e es ih => exact ih _

theorem nodeList_addAll {ns : List Node} (es : List Edge) (hd : (ns.map (·.id)).Nodup)
    (hn : ∀ n ∈ ns, n.id ∉ g.nodes) : (g.addAll ns es).nodeList = g.nodeList ++ ns := by
  rw [addAll, nodeList, nodes_foldl_addEdge]
  exact nodeList_foldl_addNode hd hn

theorem edgeList_addAll (ns : List Node) {es : List Edge} (hd : (es.map (·.id)).Nodup)
    (he : ∀ e ∈ es, e.id ∉ g.edges) : (g.addAll ns es).edgeList = g.edgeList ++ es := by
  have hedges := edges_foldl_addNode g ns
  rw [addAll, edgeList_foldl_addEdge hd fun e hmem ↦ hedges ▸ he e hmem, edgeList, hedges, edgeList]

theorem node?_addNode (g : Graph) (n : Node) (id : NodeId) :
    (g.addNode n).node? id = if id = n.id then some n else g.node? id :=
  OrderedMap.get?_insert g.nodes n.id id n

theorem port?_addNode (hn : n.id ∉ g.nodes) {x : Endpoint} {p : Port} (hp : g.port? x = some p) :
    (g.addNode n).port? x = some p := by
  obtain ⟨m, hm, hp⟩ := port?_eq_some_iff.1 hp
  refine port?_eq_some_iff.2 ⟨m, ?_, hp⟩
  have hx : x.node ≠ n.id := by
    intro hx
    exact hn (mem_nodes_iff.2 ⟨m, hx ▸ node?_eq_some_iff.1 hm⟩)
  rw [node?_addNode, if_neg hx, hm]

theorem WellFormed.addNode (hg : g.WellFormed) (hn : n.id ∉ g.nodes) : (g.addNode n).WellFormed :=
  hg.mono (fun _ _ ↦ port?_addNode hn) fun e he ↦ .inr ⟨e, he, rfl, rfl, rfl⟩

theorem WellFormed.addEdge (hg : g.WellFormed) (he : g.Joins e) : (g.addEdge e).WellFormed := by
  refine hg.mono (fun _ _ hp ↦ hp) fun e' he' ↦ ?_
  rcases OrderedMap.of_mem_values_insert he' with he' | rfl
  · exact .inr ⟨e', he', rfl, rfl, rfl⟩
  · exact .inl he

theorem link_of_ports {source target : Endpoint} {p q : Port} (hp : g.port? source = some p)
    (hq : g.port? target = some q) :
    g.link source target =
      if !p.canConnect q then
        .error (if p.layer = q.layer then .wrongDirection else .layerMismatch)
      else if source.node = target.node then .error .selfLoop
      else .ok p.layer := by
  obtain ⟨m, hm, hp⟩ := port?_eq_some_iff.1 hp
  obtain ⟨n, hn, hq⟩ := port?_eq_some_iff.1 hq
  simp only [link, hm, hn, hp, hq]
  split_ifs <;> rfl

theorem exists_ports_of_link {source target : Endpoint} {layer : Layer}
    (h : g.link source target = .ok layer) :
    ∃ p q, g.port? source = some p ∧ g.port? target = some q := by
  unfold link at h
  cases hm : g.node? source.node with
  | none => simp [hm] at h
  | some m =>
    cases hn : g.node? target.node with
    | none => simp [hm, hn] at h
    | some n =>
      cases hp : m.ports.find? source.port with
      | none => simp [hm, hn, hp] at h
      | some p =>
        cases hq : n.ports.find? target.port with
        | none => simp [hm, hn, hp, hq] at h
        | some q =>
          exact ⟨p, q, port?_eq_some_iff.2 ⟨m, hm, hp⟩, port?_eq_some_iff.2 ⟨n, hn, hq⟩⟩

theorem link_eq_ok_iff {source target : Endpoint} {layer : Layer} :
    g.link source target = .ok layer ↔
      ∃ p q, g.port? source = some p ∧ g.port? target = some q ∧ p.canConnect q = true ∧
        layer = p.layer ∧ source.node ≠ target.node := by
  constructor
  · intro h
    obtain ⟨p, q, hp, hq⟩ := exists_ports_of_link h
    rw [link_of_ports hp hq] at h
    split_ifs at h with hc hne
    rw [Bool.not_eq_true', Bool.not_eq_false] at hc
    exact ⟨p, q, hp, hq, hc, (Except.ok.inj h).symm, hne⟩
  · rintro ⟨p, q, hp, hq, hc, rfl, hne⟩
    simp only [link_of_ports hp hq, hc, Bool.not_true, Bool.false_eq_true, if_false, if_neg hne]

theorem WellFormed.connect (hg : g.WellFormed) (source target : Endpoint) (ids : IdSupply) :
    (g.connect source target ids).2.1.WellFormed := by
  unfold Graph.connect
  cases h : g.link source target with
  | error _ => exact hg
  | ok layer =>
    obtain ⟨p, q, hp, hq, hc, hl, hne⟩ := link_eq_ok_iff.1 h
    exact hg.addEdge ⟨p, q, hp, hq, hc, hl, hl.trans (Port.layer_eq_of_canConnect hc), hne⟩

theorem nodes_connect (g : Graph) (source target : Endpoint) (ids : IdSupply) :
    (g.connect source target ids).2.1.nodes = g.nodes := by
  unfold connect
  split <;> rfl

theorem nodeList_changeNode (g : Graph) (id : NodeId) (c : NodeChange) :
    (g.changeNode id c).nodeList = g.nodeList.map fun n ↦ if n.id = id then c.apply n else n :=
  g.nodes_keyed.values_adjust id c.apply

theorem edgeList_changeEdge (g : Graph) (id : EdgeId) (c : EdgeChange) :
    (g.changeEdge id c).edgeList = g.edgeList.map fun e ↦ if e.id = id then c.apply e else e :=
  g.edges_keyed.values_adjust id c.apply

theorem node?_changeNode (g : Graph) (id id' : NodeId) (c : NodeChange) :
    (g.changeNode id c).node? id' = if id' = id then (g.node? id').map c.apply else g.node? id' :=
  OrderedMap.get?_adjust g.nodes id id' c.apply

theorem port?_changeNode (g : Graph) (id : NodeId) (c : NodeChange) (x : Endpoint) :
    (g.changeNode id c).port? x = g.port? x := by
  unfold port?
  rw [node?_changeNode]
  split
  · cases g.node? x.node <;> rfl
  · rfl

theorem WellFormed.changeNode (hg : g.WellFormed) (id : NodeId) (c : NodeChange) :
    (g.changeNode id c).WellFormed :=
  hg.mono (fun x _ hp ↦ (port?_changeNode g id c x).trans hp) fun e he ↦ .inr ⟨e, he, rfl, rfl, rfl⟩

theorem WellFormed.changeEdge (hg : g.WellFormed) (id : EdgeId) (c : EdgeChange) :
    (g.changeEdge id c).WellFormed := by
  refine hg.mono (fun _ _ hp ↦ hp) fun e' he' ↦ ?_
  obtain ⟨e, he, rfl | rfl⟩ := OrderedMap.of_mem_values_adjust he'
  · exact .inr ⟨e', he, rfl, rfl, rfl⟩
  · exact .inr ⟨e, he, rfl, rfl, rfl⟩

end Graph

/-- A drag preserves what every change of the position of one of its nodes preserves. -/
theorem Drag.update_preserves {P : Graph → Prop} (d : Drag)
    (hstep : ∀ g, ∀ id ∈ d.nodes, ∀ position, P g →
      P (g.changeNode id { position := some position }))
    {g : Graph} (hg : P g) (pointer : Point) : P (d.update g pointer).2 := by
  unfold Drag.update
  unfold Drag.nodes at hstep
  dsimp only
  generalize d.starts = starts at hstep ⊢
  induction starts generalizing g with
  | nil => exact hg
  | cons x starts ih =>
    refine ih (hstep g x.1 List.mem_cons_self _ hg) ?_
    exact fun g id hid ↦ hstep g id (List.mem_cons_of_mem _ hid)

end PipelineGraph
