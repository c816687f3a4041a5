import PipelineGraph.Proofs.Graph

namespace PipelineGraph.Graph

variable {g : Graph} {source target : Endpoint} {layer : Layer} {ids : IdSupply}

/-- An edge can run between the two ends: out of one node and into another, on the layer that both
ports have. -/
structure Linkable (g : Graph) (source target : Endpoint) (layer : Layer) : Prop where
  ports : ∃ p q, g.port? source = some p ∧ g.port? target = some q ∧ p.direction = .output ∧
    q.direction = .input ∧ p.layer = layer ∧ q.layer = layer
  nodes : source.node ≠ target.node

/-- The first condition on the two ends of an edge that is violated. -/
inductive FirstObstacle (g : Graph) (source target : Endpoint) : ConnectError → Prop
  | sourceNode (hs : source.node ∉ g.nodes) :
      FirstObstacle g source target (.nodeNotFound source.node)
  | targetNode (hs : source.node ∈ g.nodes) (ht : target.node ∉ g.nodes) :
      FirstObstacle g source target (.nodeNotFound target.node)
  | sourcePort (hs : source.node ∈ g.nodes) (ht : target.node ∈ g.nodes)
      (hp : g.port? source = none) : FirstObstacle g source target (.portNotFound source.port)
  | targetPort {p : Port} (ht : target.node ∈ g.nodes) (hp : g.port? source = some p)
      (hq : g.port? target = none) : FirstObstacle g source target (.portNotFound target.port)
  | layer {p q : Port} (hp : g.port? source = some p) (hq : g.port? target = some q)
      (hl : p.layer ≠ q.layer) : FirstObstacle g source target .layerMismatch
  | direction {p q : Port} (hp : g.port? source = some p) (hq : g.port? target = some q)
      (hl : p.layer = q.layer) (hd : ¬ (p.direction = .output ∧ q.direction = .input)) :
      FirstObstacle g source target .wrongDirection
  | selfLoop {p q : Port} (hp : g.port? source = some p) (hq : g.port? target = some q)
      (hl : p.layer = q.layer) (hd : p.direction = .output ∧ q.direction = .input)
      (hn : source.node = target.node) : FirstObstacle g source target .selfLoop

theorem canConnect_iff {p q : Port} : p.canConnect q = true ↔
    (p.direction = .output ∧ q.direction = .input) ∧ p.layer = q.layer := by
  simp [Port.canConnect]

theorem link_eq_ok_iff_linkable : g.link source target = .ok layer ↔
    g.Linkable source target layer := by
  rw [link_eq_ok_iff]
  constructor
  · rintro ⟨p, q, hp, hq, hc, rfl, hn⟩
    obtain ⟨⟨hout, hin⟩, hl⟩ := canConnect_iff.1 hc
    exact ⟨⟨p, q, hp, hq, hout, hin, rfl, hl.symm⟩, hn⟩
  · rintro ⟨⟨p, q, hp, hq, hout, hin, hl, hl'⟩, hn⟩
    exact ⟨p, q, hp, hq, canConnect_iff.2 ⟨⟨hout, hin⟩, hl.trans hl'.symm⟩, hl.symm, hn⟩

theorem node?_eq_none {id : NodeId} (h : id ∉ g.nodes) : g.node? id = none :=
  OrderedMap.get?_eq_none_iff.2 h

theorem exists_node? {id : NodeId} (h : id ∈ g.nodes) : ∃ n, g.node? id = some n := by
  obtain ⟨n, hn⟩ := mem_nodes_iff.1 h
  exact ⟨n, node?_eq_some_iff.2 hn⟩

theorem port?_of_node? {n : Node} (hn : g.node? source.node = some n) :
    g.port? source = n.ports.find? source.port := by
  rw [port?, hn]
  rfl

theorem FirstObstacle.link_eq {err : ConnectError} (h : g.FirstObstacle source target err) :
    g.link source target = .error err := by
  cases h with
  | sourceNode hs =>
    simp only [link, node?_eq_none hs]
    rfl
  | targetNode hs ht =>
    obtain ⟨m, hm⟩ := exists_node? hs
    simp only [link, hm, node?_eq_none ht]
    rfl
  | sourcePort hs ht hp =>
    obtain ⟨m, hm⟩ := exists_node? hs
    obtain ⟨n, hn⟩ := exists_node? ht
    rw [port?_of_node? hm] at hp
    simp only [link, hm, hn, hp]
    rfl
  | targetPort ht hp hq =>
    obtain ⟨m, hm, hp⟩ := port?_eq_some_iff.1 hp
    obtain ⟨n, hn⟩ := exists_node? ht
    rw [port?_of_node? hn] at hq
    simp only [link, hm, hn, hp, hq]
    rfl
  | layer hp hq hl =>
    have hc := canConnect_iff.not.2 fun hc ↦ hl hc.2
    rw [link_of_ports hp hq, Bool.eq_false_iff.2 hc, if_neg hl]
    rfl
  | direction hp hq hl hd =>
    have hc := canConnect_iff.not.2 fun hc ↦ hd hc.1
    rw [link_of_ports hp hq, Bool.eq_false_iff.2 hc, if_pos hl]
    rfl
  | selfLoop hp hq hl hd hn =>
    rw [link_of_ports hp hq, canConnect_iff.2 ⟨hd, hl⟩, if_pos hn]
    rfl

/-- Two ends can be linked or something is in the way. -/
theorem linkable_or_firstObstacle (g : Graph) (source target : Endpoint) :
    (∃ layer, g.Linkable source target layer) ∨ ∃ err, g.FirstObstacle source target err := by
  by_cases hs : source.node ∈ g.nodes
  · by_cases ht : target.node ∈ g.nodes
    · cases hp : g.port? source with
      | none => exact .inr ⟨_, .sourcePort hs ht hp⟩
      | some p =>
        cases hq : g.port? target with
        | none => exact .inr ⟨_, .targetPort ht hp hq⟩
        | some q =>
          by_cases hl : p.layer = q.layer
          · by_cases hd : p.direction = .output ∧ q.direction = .input
            · by_cases hn : source.node = target.node
              · exact .inr ⟨_, .selfLoop hp hq hl hd hn⟩
              · exact .inl ⟨_, ⟨p, q, hp, hq, hd.1, hd.2, rfl, hl.symm⟩, hn⟩
            · exact .inr ⟨_, .direction hp hq hl hd⟩
          · exact .inr ⟨_, .layer hp hq hl⟩
    · exact .inr ⟨_, .targetNode hs ht⟩
  · exact .inr ⟨_, .sourceNode hs⟩

theorem Linkable.connect_eq (h : g.Linkable source target layer) (ids : IdSupply) :
    g.connect source target ids = (.ok ids.drawEdge.1,
      g.addEdge { id := ids.drawEdge.1, layer, source, target }, ids.drawEdge.2) := by
  rw [connect, link_eq_ok_iff_linkable.2 h]

theorem FirstObstacle.connect_eq {err : ConnectError} (h : g.FirstObstacle source target err)
    (ids : IdSupply) : g.connect source target ids = (.error err, g, ids) := by
  rw [connect, h.link_eq]

theorem edge?_addEdge (g : Graph) (e : Edge) (id : EdgeId) :
    (g.addEdge e).edge? id = if id = e.id then some e else g.edge? id :=
  OrderedMap.get?_insert g.edges e.id id e

def ConnectsOn (g : Graph) (source target : Endpoint) (layer : Layer) (ids : IdSupply) : Prop :=
  ∃ id e, (g.connect source target ids).1 = .ok id ∧
    (g.connect source target ids).2.1.edge? id = some e ∧ e.layer = layer

theorem connectsOn_iff : g.ConnectsOn source target layer ids ↔ g.Linkable source target layer := by
  unfold ConnectsOn
  constructor
  · rintro ⟨id, e, hok, he, rfl⟩
    rcases linkable_or_firstObstacle g source target with ⟨layer, hlink⟩ | ⟨err, hfirst⟩
    · rw [hlink.connect_eq] at hok he
      cases hok
      rw [edge?_addEdge, if_pos rfl] at he
      cases he
      exact hlink
    · rw [hfirst.connect_eq] at hok
      cases hok
  · intro h
    rw [h.connect_eq]
    exact ⟨_, _, rfl, by rw [edge?_addEdge, if_pos rfl], rfl⟩

theorem accepts_iff_linkable {e : Edge} :
    g.accepts e = true ↔ g.Linkable e.source e.target e.layer := by
  rw [accepts_iff_joins, ← link_eq_ok_iff_linkable, link_eq_ok_iff]
  constructor
  · rintro ⟨p, q, hp, hq, hc, hl, -, hn⟩
    exact ⟨p, q, hp, hq, hc, hl, hn⟩
  · rintro ⟨p, q, hp, hq, hc, hl, hn⟩
    exact ⟨p, q, hp, hq, hc, hl, hl.trans (Port.layer_eq_of_canConnect hc), hn⟩

theorem Linkable.congr_nodes {h : Graph} (hn : g.nodes = h.nodes) :
    g.Linkable source target layer ↔ h.Linkable source target layer := by
  have hport : g.port? = h.port? := by
    funext x
    simp only [port?, node?, hn]
  constructor
  · rintro ⟨hports, hne⟩
    exact ⟨hport ▸ hports, hne⟩
  · rintro ⟨hports, hne⟩
    exact ⟨hport ▸ hports, hne⟩

theorem nodes_ofNodes (ns : List Node) (es : List Edge) :
    (ofSnapshot ⟨ns, es⟩).nodes = (ns.foldl addNode empty).nodes := by
  suffices h : ∀ g : Graph, (ns.foldl addNode g).nodes =
      (ns.map fun n ↦ (n.id, n)).foldl (fun m e ↦ m.insert e.1 e.2) g.nodes from (h empty).symm
  induction ns with
  | nil => exact fun _ ↦ rfl
  | cons n ns ih => exact fun g ↦ ih (g.addNode n)

theorem mem_edgeList_ofSnapshot {s : Snapshot} {e : Edge} :
    e ∈ (ofSnapshot s).edgeList ↔ ∃ earlier later, s.edges = earlier ++ e :: later ∧
      (ofSnapshot s).accepts e = true ∧
        ∀ f ∈ later, f.id = e.id → (ofSnapshot s).accepts f = false := by
  have hmem : e ∈ (ofSnapshot s).edgeList ↔ ∃ earlier later,
      s.edges.filter (ofSnapshot s).accepts = earlier ++ e :: later ∧ ∀ f ∈ later, f.id ≠ e.id :=
    OrderedMap.mem_values_index
  rw [hmem]
  constructor
  · rintro ⟨as, bs, hfilter, hlast⟩
    obtain ⟨l, l', hedges, -, hfilter⟩ := List.filter_eq_append_iff.1 hfilter
    obtain ⟨m, later, rfl, -, he, rfl⟩ := List.filter_eq_cons_iff.1 hfilter
    refine ⟨l ++ m, later, by rw [hedges, List.append_assoc], he, fun f hf hid ↦ ?_⟩
    refine Bool.eq_false_iff.2 fun haccepts ↦ ?_
    exact hlast f (List.mem_filter.2 ⟨hf, haccepts⟩) hid
  · rintro ⟨earlier, later, hedges, he, hlast⟩
    refine ⟨earlier.filter (ofSnapshot s).accepts, later.filter (ofSnapshot s).accepts, ?_,
      fun f hf hid ↦ ?_⟩
    · rw [hedges, List.filter_append, List.filter_cons_of_pos he]
    · obtain ⟨hf, haccepts⟩ := List.mem_filter.1 hf
      rw [hlast f hf hid] at haccepts
      cases haccepts

theorem accepts_ofSnapshot_iff (ns : List Node) (es : List Edge) (ids : IdSupply) (e : Edge) :
    (ofSnapshot ⟨ns, es⟩).accepts e = true ↔
      (ns.foldl addNode empty).ConnectsOn e.source e.target e.layer ids := by
  rw [accepts_iff_linkable, connectsOn_iff, Linkable.congr_nodes (nodes_ofNodes ns es)]

/-- Loading keeps an edge, unless a later one takes its identifier, exactly if its ends can be
connected on its layer where there are only the nodes. Connecting succeeds exactly if both ports
exist, run out of one node and into another and share a layer, and then appends one edge. Otherwise
it changes nothing and tells the first obstacle. -/
theorem load_iff_connect (ns : List Node) (es : List Edge) (g : Graph) (source target : Endpoint)
    (ids : IdSupply) (hfresh : ids.drawEdge.1 ∉ g.edges) :
    (∀ e, e ∈ (ofSnapshot ⟨ns, es⟩).edgeList ↔ ∃ earlier later, es = earlier ++ e :: later ∧
      (ns.foldl addNode empty).ConnectsOn e.source e.target e.layer ids ∧
      ∀ f ∈ later, f.id = e.id →
        ¬ (ns.foldl addNode empty).ConnectsOn f.source f.target f.layer ids) ∧
    ((∃ id, (g.connect source target ids).1 = .ok id) ↔
      ∃ layer, g.Linkable source target layer) ∧
    (∀ layer, g.Linkable source target layer →
      (g.connect source target ids).1 = .ok ids.drawEdge.1 ∧
      (g.connect source target ids).2.1.nodes = g.nodes ∧
      (g.connect source target ids).2.1.edgeList =
        g.edgeList ++ [{ id := ids.drawEdge.1, layer, source, target }]) ∧
    ∀ err, (g.connect source target ids).1 = .error err →
      (g.connect source target ids).2.1 = g ∧ g.FirstObstacle source target err := by
  refine ⟨fun e ↦ ?_, ⟨?_, ?_⟩, fun layer hlink ↦ ?_, fun err herr ↦ ?_⟩
  · rw [mem_edgeList_ofSnapshot]
    simp only [← accepts_ofSnapshot_iff ns es ids, Bool.not_eq_true]
  · rintro ⟨id, hid⟩
    rcases linkable_or_firstObstacle g source target with hlink | ⟨err, hfirst⟩
    · exact hlink
    · rw [hfirst.connect_eq] at hid
      cases hid
  · rintro ⟨layer, hlink⟩
    exact ⟨ids.drawEdge.1, by rw [hlink.connect_eq]⟩
  · rw [hlink.connect_eq]
    exact ⟨rfl, rfl, edgeList_addEdge hfresh⟩
  · rcases linkable_or_firstObstacle g source target with ⟨layer, hlink⟩ | ⟨err', hfirst⟩
    · rw [hlink.connect_eq] at herr
      cases herr
    · rw [hfirst.connect_eq] at herr ⊢
      cases herr
      exact ⟨rfl, hfirst⟩

def startAndCall : List Node :=
  let (start, ids) := Node.newStart "Start" (.ofStream .ofNat)
  let (call, _) := Node.newFunction ⟨"f", .empty, .empty⟩ "f" ids
  [start, call, { call with name := "g" }]

theorem load_iff_connect_startAndCall :
    let g := startAndCall.foldl addNode empty
    let ids := IdSupply.ofStream fun n ↦ .ofNat (n + 100)
    let source : Endpoint := ⟨⟨.ofNat 0⟩, ⟨.ofNat 2⟩⟩
    let target : Endpoint := ⟨⟨.ofNat 3⟩, ⟨.ofNat 4⟩⟩
    let e : Edge := { id := ⟨.ofNat 100⟩, layer := .control, source, target }
    ids.drawEdge.1 ∉ g.edges ∧
      e ∈ (ofSnapshot ⟨startAndCall, [e, { e with layer := .data }]⟩).edgeList ∧
      (g.connect source target ids).2.1.edgeList = [e] ∧
      g.FirstObstacle target source .wrongDirection := by
  intro g ids source target e
  have hfresh : ids.drawEdge.1 ∉ g.edges := by decide
  have hlink : g.Linkable source target .control := ⟨⟨_, _, rfl, rfl, rfl, rfl, rfl, rfl⟩, by decide⟩
  have hdata : ¬ g.Linkable source target .data := by
    rintro ⟨⟨p, q, hp, hq, -, -, hl, -⟩, -⟩
    cases hp
    cases hl
  have h := load_iff_connect startAndCall [e, { e with layer := .data }] g source target ids hfresh
  have hback := load_iff_connect startAndCall [] g target source ids hfresh
  refine ⟨hfresh, (h.1 e).2 ⟨[], _, rfl, connectsOn_iff.2 hlink, fun f hf _ ↦ ?_⟩,
    (h.2.2.1 .control hlink).2.2, (hback.2.2.2 _ rfl).2⟩
  rw [List.mem_singleton.1 hf, connectsOn_iff]
  exact hdata

end PipelineGraph.Graph
