import PipelineGraph.Clipboard
import PipelineGraph.Proofs.Graph
import PipelineGraph.Proofs.Ports

namespace PipelineGraph

/-- Some nodes and edges of a graph, in its order. -/
structure Snapshot.PartOf (c : Snapshot) (g : Graph) : Prop where
  nodes : c.nodes.Sublist g.nodeList
  edges : c.edges.Sublist g.edgeList

namespace Clipboard

variable {g g₀ : Graph} {c : Snapshot} {offset : Point} {twins : List Twin}

theorem copied_partOf (g : Graph) (s : Selected) : (copied g s).PartOf g :=
  ⟨List.filter_sublist, List.filter_sublist⟩

/-- A copy keeps all of a node but the identifiers, the name and the position, which is moved. -/
def IsCopy (offset : Point) (n m : Node) : Prop :=
  m = { n with id := m.id, name := m.name, position := n.position + offset, ports := m.ports } ∧
    n.ports.Alike m.ports

/-- The two ends lie on a node and on its copy, at ports of the same number. -/
def Corresponds (twins : List Twin) (x y : Endpoint) : Prop :=
  ∃ t ∈ twins, t.source.id = x.node ∧ t.copy.id = y.node ∧
    ∃ i, t.source.ports.index? x.port = some i ∧ t.copy.ports.index? y.port = some i

theorem isCopy_duplicate (n : Node) (name : String) (offset : Point) (ids : IdSupply) :
    IsCopy offset n (duplicate n name offset ids).1 :=
  ⟨rfl, NodePorts.alike_renew _ _⟩

theorem draws_duplicate (n : Node) (name : String) (offset : Point) (ids : IdSupply) :
    ids.Draws (duplicate n name offset ids).1.uuids (duplicate n name offset ids).2 :=
  .cons (NodePorts.draws_renew _ _)

section pasteNodes

variable (naming : NamingPolicy) (offset : Point) (ns : List Node) (g : Graph) (ids : IdSupply)

theorem map_source_pasteNodes : (pasteNodes naming offset ns g ids).1.map Twin.source = ns := by
  induction ns generalizing g ids with
  | nil => rfl
  | cons n ns ih => exact congrArg (n :: ·) (ih _ _)

theorem isCopy_pasteNodes :
    ∀ t ∈ (pasteNodes naming offset ns g ids).1, IsCopy offset t.source t.copy := by
  induction ns generalizing g ids with
  | nil => exact fun t ht ↦ nomatch ht
  | cons n ns ih =>
    intro t ht
    rcases List.mem_cons.1 ht with rfl | ht
    · exact isCopy_duplicate _ _ _ _
    · exact ih _ _ t ht

theorem graph_pasteNodes : (pasteNodes naming offset ns g ids).2.1 =
    ((pasteNodes naming offset ns g ids).1.map Twin.copy).foldl Graph.addNode g := by
  induction ns generalizing g ids with
  | nil => rfl
  | cons n ns ih => exact ih _ _

theorem draws_pasteNodes : ids.Draws
    ((pasteNodes naming offset ns g ids).1.flatMap fun t ↦ t.copy.uuids)
    (pasteNodes naming offset ns g ids).2.2 := by
  induction ns generalizing g ids with
  | nil => exact .nil ids
  | cons n ns ih => exact (draws_duplicate _ _ _ _).trans (ih _ _)

end pasteNodes

/-- The second edge runs between the rewired ends of the first. -/
structure Rewired (twins : List Twin) (offset : Point) (e e' : Edge) : Prop where
  layer : e'.layer = e.layer
  source : rewire? twins e.source = some e'.source
  target : rewire? twins e.target = some e'.target
  drawnFrom : e'.drawnFrom = e.drawnFrom + offset
  drawnTo : e'.drawnTo = e.drawnTo + offset

def canRewire (twins : List Twin) (e : Edge) : Bool :=
  (rewire? twins e.source).isSome && (rewire? twins e.target).isSome

theorem pasteEdges_cons_of_not {e : Edge} (h : canRewire twins e = false) (offset : Point)
    (es : List Edge) (g : Graph) (ids : IdSupply) :
    pasteEdges twins offset (e :: es) g ids =
      let r := pasteEdges twins offset es g ids
      (r.1, r.2.1 + 1, r.2.2) := by
  unfold canRewire at h
  cases hs : rewire? twins e.source with
  | none => simp only [pasteEdges, hs]
  | some source =>
    cases ht : rewire? twins e.target with
    | none => simp only [pasteEdges, hs, ht]
    | some target => simp [hs, ht] at h

def edgeCopy (e : Edge) (id : EdgeId) (source target : Endpoint) (offset : Point) : Edge :=
  { id, layer := e.layer, source, target
    drawnFrom := e.drawnFrom + offset
    drawnTo := e.drawnTo + offset }

theorem pasteEdges_cons {e : Edge} {source target : Endpoint}
    (hs : rewire? twins e.source = some source) (ht : rewire? twins e.target = some target)
    (offset : Point) (es : List Edge) (g : Graph) (ids : IdSupply) :
    pasteEdges twins offset (e :: es) g ids =
      let id := ids.drawEdge.1
      let r := pasteEdges twins offset es (g.addEdge (edgeCopy e id source target offset))
        ids.drawEdge.2
      (id :: r.1, r.2) := by
  simp only [pasteEdges, hs, ht, edgeCopy]

theorem exists_pasteEdges (twins : List Twin) (offset : Point) (es : List Edge) (g : Graph)
    (ids : IdSupply) : ∃ copies : List Edge,
      List.Forall₂ (Rewired twins offset) (es.filter (canRewire twins)) copies ∧
      (pasteEdges twins offset es g ids).1 = copies.map (·.id) ∧
      (pasteEdges twins offset es g ids).2.1 + copies.length = es.length ∧
      (pasteEdges twins offset es g ids).2.2.1 = copies.foldl Graph.addEdge g ∧
      ids.Draws ((copies.map (·.id)).map (·.uuid)) (pasteEdges twins offset es g ids).2.2.2 := by
  induction es generalizing g ids with
  | nil => exact ⟨[], .nil, rfl, rfl, rfl, .nil ids⟩
  | cons e es ih =>
    cases h : canRewire twins e with
    | false =>
      obtain ⟨copies, hcopies, hids, hcount, hgraph, hdraws⟩ := ih g ids
      rw [pasteEdges_cons_of_not h, List.filter_cons_of_neg (by simp [h]), List.length_cons,
        ← hcount]
      exact ⟨copies, hcopies, hids, Nat.add_right_comm _ _ _, hgraph, hdraws⟩
    | true =>
      obtain ⟨hs, ht⟩ := Bool.and_eq_true_iff.1 h
      obtain ⟨source, hs⟩ := Option.isSome_iff_exists.1 hs
      obtain ⟨target, ht⟩ := Option.isSome_iff_exists.1 ht
      obtain ⟨copies, hcopies, hids, hcount, hgraph, hdraws⟩ :=
        ih (g.addEdge (edgeCopy e ids.drawEdge.1 source target offset)) ids.drawEdge.2
      rw [pasteEdges_cons hs ht, List.filter_cons_of_pos h, List.length_cons, ← hcount]
      exact ⟨edgeCopy e ids.drawEdge.1 source target offset :: copies,
        .cons ⟨rfl, hs, ht, rfl, rfl⟩ hcopies, congrArg (ids.drawEdge.1 :: ·) hids, rfl, hgraph,
        .cons hdraws⟩

theorem rewire?_eq_some_iff {x y : Endpoint} : rewire? twins x = some y ↔
    ∃ t, twins.reverse.find? (fun t ↦ t.source.id = x.node) = some t ∧
      ∃ i, t.source.ports.index? x.port = some i ∧
        ∃ q, t.copy.ports.get? i = some q ∧ (⟨t.copy.id, q.id⟩ : Endpoint) = y := by
  simp only [rewire?, Option.bind_eq_bind, Option.bind_eq_some_iff, Option.pure_def,
    Option.some.injEq]

theorem nodup_copies (h : (twins.flatMap (·.copy.uuids)).Nodup) :
    (twins.map (·.copy.id)).Nodup := by
  have hsub : ((twins.map (·.copy.id)).map (·.uuid)).Sublist (twins.flatMap (·.copy.uuids)) := by
    clear h
    induction twins with
    | nil => exact .slnil
    | cons t twins ih =>
      rw [List.flatMap_cons, Node.uuids, List.cons_append]
      exact .cons_cons _ (ih.trans (List.sublist_append_right _ _))
  exact (h.sublist hsub).of_map

/-- Nodes with distinct identifiers, each with a copy, and no identifier twice in the copies. -/
structure Faithful (offset : Point) (twins : List Twin) : Prop where
  sources : (twins.map (·.source.id)).Nodup
  copies : ∀ t ∈ twins, IsCopy offset t.source t.copy
  fresh : (twins.flatMap (·.copy.uuids)).Nodup

namespace Faithful

variable {t t' : Twin} {x y : Endpoint} {p : Port}

theorem eq_of_source (h : Faithful offset twins) (ht : t ∈ twins) (ht' : t' ∈ twins)
    (he : t.source.id = t'.source.id) : t = t' :=
  List.inj_on_of_nodup_map h.sources ht ht' he

theorem copies_nodup (h : Faithful offset twins) : (twins.map (·.copy.id)).Nodup :=
  nodup_copies h.fresh

theorem eq_of_copy (h : Faithful offset twins) (ht : t ∈ twins) (ht' : t' ∈ twins)
    (he : t.copy.id = t'.copy.id) : t = t' :=
  List.inj_on_of_nodup_map h.copies_nodup ht ht' he

theorem ports_nodup (h : Faithful offset twins) (ht : t ∈ twins) : t.copy.ports.uuids.Nodup := by
  have hn : t.copy.uuids.Nodup := (List.nodup_flatMap.1 h.fresh).1 t ht
  exact (List.nodup_cons.1 hn).2

theorem rewire?_eq (h : Faithful offset twins) (ht : t ∈ twins) (hx : t.source.id = x.node)
    (hp : t.source.ports.find? x.port = some p) :
    ∃ q, rewire? twins x = some ⟨t.copy.id, q.id⟩ ∧ p.Alike q ∧
      t.copy.ports.find? q.id = some q ∧ Corresponds twins x ⟨t.copy.id, q.id⟩ := by
  obtain ⟨i, q, hi, hq, hpq⟩ := (h.copies t ht).2.exists_port hp
  have hindex := NodePorts.index?_of_nodup (h.ports_nodup ht) hq
  have hfound : twins.reverse.find? (fun t ↦ t.source.id = x.node) = some t := by
    have hsome : (twins.reverse.find? fun t ↦ t.source.id = x.node).isSome :=
      List.find?_isSome.2 ⟨t, List.mem_reverse.2 ht, by simpa using hx⟩
    obtain ⟨u, hu⟩ := Option.isSome_iff_exists.1 hsome
    have hux := List.find?_some hu
    rw [decide_eq_true_eq] at hux
    rw [hu, h.eq_of_source (List.mem_reverse.1 (List.mem_of_find?_eq_some hu)) ht
      (hux.trans hx.symm)]
  refine ⟨q, rewire?_eq_some_iff.2 ⟨t, hfound, i, hi, q, hq, rfl⟩, hpq, ?_,
    t, ht, hx, rfl, i, hi, hindex⟩
  · rw [NodePorts.find?_eq_bind, hindex]
    exact hq

end Faithful

theorem rewire?_eq_none {x : Endpoint} (hx : ∀ t ∈ twins, t.source.id ≠ x.node) :
    rewire? twins x = none := by
  refine Option.eq_none_iff_forall_ne_some.2 fun y hy ↦ ?_
  obtain ⟨t, ht, -⟩ := rewire?_eq_some_iff.1 hy
  have he := List.find?_some ht
  rw [decide_eq_true_eq] at he
  exact hx t (List.mem_reverse.1 (List.mem_of_find?_eq_some ht)) he

end Clipboard

end PipelineGraph
