import PipelineGraph.Proofs.Extension

namespace PipelineGraph

def Node.Redrawn (m n : Node) : Prop := n = { m with position := n.position, width := n.width }

namespace Node.Redrawn

variable {m n : Node}

theorem refl (m : Node) : m.Redrawn m := rfl

theorem symm (h : m.Redrawn n) : n.Redrawn m := by
  unfold Node.Redrawn at h ⊢
  rw [h]

theorem id_eq (h : m.Redrawn n) : n.id = m.id := by rw [h]

theorem name_eq (h : m.Redrawn n) : n.name = m.name := by rw [h]

theorem ports_eq (h : m.Redrawn n) : n.ports = m.ports := by rw [h]

theorem bindings_eq (h : m.Redrawn n) : n.bindings = m.bindings := by rw [h]

theorem isStart_eq (h : m.Redrawn n) : n.isStart = m.isStart := by rw [h]; rfl

theorem dataOutput?_eq (h : m.Redrawn n) : n.dataOutput? = m.dataOutput? := by
  funext name
  rw [Node.dataOutput?, h.ports_eq, Node.dataOutput?]

end Node.Redrawn

theorem Node.map_eq_of_redrawn {α : Type} {f k : Node → α} {ns ns' : List Node}
    (h : List.Forall₂ Node.Redrawn ns ns') (hfk : ∀ m n, m.Redrawn n → k n = f m) :
    ns.map f = ns'.map k := by
  rw [← List.forall₂_eq_eq_eq, List.forall₂_map_left_iff, List.forall₂_map_right_iff]
  exact h.imp fun m n hmn ↦ (hfk m n hmn).symm

theorem rel_find?_of_forall₂ {α β : Type} {R : α → β → Prop} {l : List α} {u : List β}
    {p : α → Bool} {q : β → Bool} (h : List.Forall₂ R l u)
    (hpq : ∀ ⦃a b⦄, R a b → (p a = true ↔ q b = true)) :
    Option.Rel R (l.find? p) (u.find? q) := by
  have hkept : List.Forall₂ R (l.filter p) (u.filter q) := List.rel_filter hpq h
  rw [← List.head?_filter, ← List.head?_filter]
  generalize l.filter p = kept, u.filter q = kept' at hkept ⊢
  cases hkept with
  | nil => exact .none
  | cons hab _ => exact .some hab

namespace Graph

theorem nodup_newOnes (known l : List NodeId) : (newOnes known l).Nodup := by
  induction l generalizing known with
  | nil => exact .nil
  | cons n l ih =>
    unfold newOnes
    split
    · exact ih known
    · refine List.nodup_cons.2 ⟨fun hn ↦ ?_, ih _⟩
      exact (mem_newOnes.1 hn).2 List.mem_cons_self

theorem nodup_explore {arcs : List (NodeId × NodeId)} {reached pending : List NodeId}
    (h : reached.Nodup) : (explore arcs reached pending).Nodup := by
  fun_induction explore arcs reached pending with
  | case1 => exact h
  | case2 arcs reached n rest fresh ih =>
    apply ih
    refine List.nodup_append.2 ⟨h, nodup_newOnes _ _, fun a ha b hb hab ↦ ?_⟩
    exact (mem_newOnes.1 hb).2 (hab ▸ ha)

theorem nodup_reachable (g : Graph) : g.reachable.Nodup := nodup_explore (nodup_newOnes _ _)

/-- The graphs have the same nodes but for how they are drawn, and between the same nodes there are
control edges. -/
structure SameFlow (g h : Graph) : Prop where
  nodes : List.Forall₂ Node.Redrawn g.nodeList h.nodeList
  control : ∀ arc, arc ∈ h.controlArcs ↔ arc ∈ g.controlArcs

namespace SameFlow

variable {g h : Graph}

theorem symm (hs : g.SameFlow h) : h.SameFlow g :=
  ⟨.flip (hs.nodes.imp fun _ _ hmn ↦ hmn.symm), fun arc ↦ (hs.control arc).symm⟩

theorem startIds_eq (hs : g.SameFlow h) : h.startIds = g.startIds := by
  have hstarts : List.Forall₂ Node.Redrawn (g.nodeList.filter Node.isStart)
      (h.nodeList.filter Node.isStart) :=
    List.rel_filter (fun m n hmn ↦ by simp only [hmn.isStart_eq]) hs.nodes
  exact (Node.map_eq_of_redrawn hstarts fun m n hmn ↦ hmn.id_eq).symm

theorem onControlPath (hs : g.SameFlow h) {id : NodeId} (hpath : h.OnControlPath id) :
    g.OnControlPath id := by
  apply hpath.mono
  · rw [hs.startIds_eq]
    exact List.Subset.refl _
  · intro m k harc _
    exact (hs.control _).1 harc

theorem mem_reachable_iff (hs : g.SameFlow h) {id : NodeId} :
    id ∈ h.reachable ↔ id ∈ g.reachable := by
  rw [mem_reachable, mem_reachable]
  exact ⟨hs.onControlPath, hs.symm.onControlPath⟩

theorem rel_nodeNamed? (hs : g.SameFlow h) (name : String) :
    Option.Rel Node.Redrawn (g.nodeNamed? name) (h.nodeNamed? name) :=
  rel_find?_of_forall₂ hs.nodes fun m n hmn ↦ by rw [hmn.name_eq]

/-- The check of an input looks at the names, ports and bindings of nodes and at which of them are
reached, and these are the same. -/
theorem bindingFault?_eq (hs : g.SameFlow h) {m n : Node} (hmn : m.Redrawn n) (input : Port) :
    PipelineGraph.bindingFault? h h.reachable n input =
      PipelineGraph.bindingFault? g g.reachable m input := by
  simp only [PipelineGraph.bindingFault?, hmn.bindings_eq]
  generalize Text.trim _ = expr
  have hnamed := hs.rel_nodeNamed? (Expression.splitReference expr).node
  generalize g.nodeNamed? (Expression.splitReference expr).node = source,
    h.nodeNamed? (Expression.splitReference expr).node = source' at hnamed
  cases hnamed with
  | none => rfl
  | some hdrawn => simp only [hdrawn.id_eq, hdrawn.dataOutput?_eq, hs.mem_reachable_iff]

theorem nodeIssues_eq (hs : g.SameFlow h) {m n : Node} (hmn : m.Redrawn n) :
    nodeIssues h h.reachable n = nodeIssues g g.reachable m := by
  simp only [nodeIssues, hmn.ports_eq, hs.bindingFault?_eq hmn]

end SameFlow

end Graph

/-- The same nodes are reached according to both reports, and they list the same issues in the same
order. -/
structure Report.Agrees (r s : Report) : Prop where
  reachable : s.reachable.Perm r.reachable
  issues : s.issues = r.issues

namespace Graph

variable {g h : Graph}

theorem SameFlow.agrees (hs : g.SameFlow h) : g.validate.Agrees h.validate where
  reachable := (List.perm_ext_iff_of_nodup h.nodup_reachable g.nodup_reachable).2 fun _ ↦
    hs.mem_reachable_iff
  issues := by
    have hchecked : List.Forall₂ Node.Redrawn (g.nodeList.filter fun n ↦ n.id ∈ g.reachable)
        (h.nodeList.filter fun n ↦ n.id ∈ h.reachable) :=
      List.rel_filter (fun m n hmn ↦ by simp only [hmn.id_eq, hs.mem_reachable_iff]) hs.nodes
    have hfound := Node.map_eq_of_redrawn hchecked
      (f := fun n ↦ (n.id, nodeIssues g g.reachable n))
      (k := fun n ↦ (n.id, nodeIssues h h.reachable n))
      fun m n hmn ↦ by rw [hmn.id_eq, hs.nodeIssues_eq hmn]
    simp only [validate, hfound]

theorem sameFlow_of_perm (hn : h.nodes = g.nodes) (hc : h.controlArcs.Perm g.controlArcs) :
    g.SameFlow h := by
  refine ⟨?_, fun arc ↦ hc.mem_iff⟩
  rw [nodeList, nodeList, hn]
  exact List.forall₂_same.2 fun n _ ↦ .refl n

theorem sameFlow_addEdge {e : Edge} (hlayer : e.layer = .data) (hnew : e.id ∉ g.edges) :
    g.SameFlow (g.addEdge e) := by
  refine sameFlow_of_perm rfl (.of_eq ?_)
  simp [controlArcs_addEdge hnew, hlayer]

theorem sameFlow_removeEdges {ids : List EdgeId}
    (hdata : ∀ e ∈ g.edgeList, e.id ∈ ids → e.layer = .data) :
    g.SameFlow (g.removeEdges ids).2 := by
  refine sameFlow_of_perm rfl (.of_eq ?_)
  rw [controlArcs, edgeList_removeEdges, List.filter_filter, controlArcs]
  refine congrArg _ (List.filter_congr fun e he ↦ ?_)
  by_cases hid : e.id ∈ ids
  · simp [hdata e he hid]
  · simp [hid]

theorem sameFlow_changeEdge (g : Graph) (id : EdgeId) (c : EdgeChange) :
    g.SameFlow (g.changeEdge id c) := by
  refine sameFlow_of_perm rfl (.of_eq ?_)
  have hends (e : Edge) : ((if e.id = id then c.apply e else e).layer = e.layer ∧
      (if e.id = id then c.apply e else e).source = e.source ∧
      (if e.id = id then c.apply e else e).target = e.target) := by
    split
    · exact ⟨rfl, rfl, rfl⟩
    · exact ⟨rfl, rfl, rfl⟩
  simp only [controlArcs, edgeList_changeEdge, List.filter_map, List.map_map, Function.comp_def,
    hends]

theorem sameFlow_changeNode (g : Graph) (id : NodeId) (position : Option Point)
    (width : Option Float32) : g.SameFlow (g.changeNode id { position, width }) := by
  refine ⟨?_, fun _ ↦ .rfl⟩
  rw [nodeList_changeNode, List.forall₂_map_right_iff]
  refine List.forall₂_same.2 fun n _ ↦ ?_
  split
  · rfl
  · rfl

/-- A report depends on the nodes but for how they are drawn, and on which nodes are joined by
control edges. Data edges, the order and the number of control edges, and all that is only drawn
make no difference. -/
theorem validate_of_sameFlow :
    (∀ g h : Graph, g.SameFlow h → g.validate.Agrees h.validate) ∧
    ∀ g : Graph,
      (∀ e, e.layer = .data → e.id ∉ g.edges → g.validate.Agrees (g.addEdge e).validate) ∧
      (∀ ids, (∀ e ∈ g.edgeList, e.id ∈ ids → e.layer = .data) →
        g.validate.Agrees (g.removeEdges ids).2.validate) ∧
      (∀ h : Graph, h.nodes = g.nodes → h.edgeList.Perm g.edgeList → g.validate.Agrees h.validate) ∧
      (∀ id position width,
        g.validate.Agrees (g.changeNode id { position, width }).validate) ∧
      ∀ id c, g.validate.Agrees (g.changeEdge id c).validate := by
  refine ⟨fun g h ↦ SameFlow.agrees, fun g ↦ ⟨fun e hlayer hnew ↦ ?_, fun ids hdata ↦ ?_,
    fun h hn he ↦ ?_, fun id position width ↦ ?_, fun id c ↦ ?_⟩⟩
  · exact (sameFlow_addEdge hlayer hnew).agrees
  · exact (sameFlow_removeEdges hdata).agrees
  · exact (sameFlow_of_perm hn ((he.filter _).map _)).agrees
  · exact (sameFlow_changeNode g id position width).agrees
  · exact (sameFlow_changeEdge g id c).agrees

/-- A start node with control edges to two calls, of which the first lacks a value. -/
def fork : Snapshot :=
  let (start, ids) := Node.newStart "Start" (.ofStream .ofNat)
  let (first, ids) := Node.newFunction ⟨"f", .ofList [("x", .int32)], .empty⟩ "f" ids
  let (second, _) := Node.newFunction ⟨"g", .empty, .empty⟩ "g" ids
  let arc (id : Nat) (n : Node) : Edge :=
    { id := ⟨.ofNat id⟩
      layer := .control
      source := ⟨start.id, start.ports.controlOutput.id⟩
      target := ⟨n.id, n.ports.controlInput.id⟩ }
  ⟨[start, first, second], [arc 100 first, arc 101 second, arc 102 first]⟩

def redrawnFork : Graph :=
  (ofSnapshot ⟨fork.nodes, (fork.edges.take 2).reverse⟩).changeNode ⟨.ofNat 0⟩
    { position := some ⟨9, 9⟩ }

theorem validate_of_sameFlow_fork :
    (ofSnapshot fork).SameFlow redrawnFork ∧
    (ofSnapshot fork).validate.Agrees redrawnFork.validate ∧
    (ofSnapshot fork).validate.reachable = [⟨.ofNat 0⟩, ⟨.ofNat 3⟩, ⟨.ofNat 7⟩] ∧
    redrawnFork.validate.reachable = [⟨.ofNat 0⟩, ⟨.ofNat 7⟩, ⟨.ofNat 3⟩] ∧
    redrawnFork.validate.issues.entries =
      [(⟨.ofNat 3⟩, [{ input := "x", fault := .unbound }])] := by
  have hflow : (ofSnapshot fork).SameFlow redrawnFork := by
    refine ⟨(sameFlow_changeNode (ofSnapshot fork) ⟨.ofNat 0⟩ (some ⟨9, 9⟩) none).nodes, ?_⟩
    have hmore : ∀ arc ∈ redrawnFork.controlArcs, arc ∈ (ofSnapshot fork).controlArcs := by
      decide +kernel
    have hless : ∀ arc ∈ (ofSnapshot fork).controlArcs, arc ∈ redrawnFork.controlArcs := by
      decide +kernel
    exact fun arc ↦ ⟨hmore arc, hless arc⟩
  exact ⟨hflow, validate_of_sameFlow.1 _ _ hflow, by decide +kernel, by decide +kernel,
    by decide +kernel⟩

end Graph

end PipelineGraph
