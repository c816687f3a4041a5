import PipelineGraph.Payload.Text
import PipelineGraph.Proofs.Closure
import PipelineGraph.Proofs.JsonDocument

namespace PipelineGraph

open Json

namespace PayloadNode

def fields (n : PayloadNode) : List (String × Json) :=
  [("id", n.id.toJson), ("title", .ofString n.title), ("type", .ofString n.kind),
    ("inputVariables", .ofMap Json.ofString n.bindings)] ++
  Record.optional "function_name" (n.functionName.map ofString)

theorem toJson_eq (n : PayloadNode) : n.toJson = ofFields n.fields := by
  rw [toJson, fields]
  cases n.functionName <;> rfl

theorem names_fields (n : PayloadNode) : (n.fields.map Prod.fst).Sublist fieldNames := by
  rw [fields, List.map_append]
  exact (List.Sublist.refl _).append (Record.optional_sublist _ _)

theorem lookup_functionName (n : PayloadNode) :
    n.fields.lookup "function_name" = n.functionName.map ofString := by
  simp [fields, List.lookup_cons, Record.lookup_optional]

theorem encodesJson (n : PayloadNode) : Encodes ofJson? n.toJson n := by
  have hplain : Plain fieldNames := by decide
  have hid := n.id.encodesJson
  have htitle := encodes_ofString n.title
  have hkind := encodes_ofString n.kind
  have hbindings := encodes_ofMap encodes_ofString n.bindings
  rw [toJson_eq]
  constructor
  · refine legible_ofFields hplain n.names_fields (List.forall_mem_append.2 ⟨?_, ?_⟩)
    · simp [hid.legible, htitle.legible, hkind.legible, hbindings.legible]
    · refine Record.forall_mem_optional fun j hj ↦ ?_
      obtain ⟨name, -, rfl⟩ := Option.map_eq_some_iff.1 hj
      exact (encodes_ofString name).legible
  · have hname := Record.getOr?_optional n.lookup_functionName
      fun name _ ↦ ((encodes_ofString name).present nofun).reads
    rw [ofJson?, asRecord?_ofFields hplain n.names_fields]
    simp only [Option.bind_eq_bind, Option.bind_some, hname]
    simp [fields, Record.get?, List.lookup_cons, hid.reads, htitle.reads, hkind.reads,
      hbindings.reads]

end PayloadNode

theorem PayloadEdge.encodesJson (e : PayloadEdge) : Encodes ofJson? e.toJson e := by
  have hplain : Plain fieldNames := by decide
  have hsource := e.source.node.encodesJson
  have hsourcePort := e.source.port.encodesJson
  have htarget := e.target.node.encodesJson
  have htargetPort := e.target.port.encodesJson
  constructor
  · refine legible_ofFields hplain (List.Sublist.refl _) ?_
    simp [hsource.legible, hsourcePort.legible, htarget.legible, htargetPort.legible]
  · rw [ofJson?, toJson, asRecord?_ofFields hplain (List.Sublist.refl _)]
    simp [Record.get?, List.lookup_cons, hsource.reads, hsourcePort.reads, htarget.reads,
      htargetPort.reads]

namespace Payload

theorem encodesJson (p : Payload) : Encodes ofJson? p.toJson p := by
  have hplain : Plain fieldNames := by decide
  have hnodes := encodes_array fun n (_ : n ∈ p.nodes) ↦ n.encodesJson
  have hedges := encodes_array fun e (_ : e ∈ p.edges) ↦ e.encodesJson
  constructor
  · refine legible_ofFields hplain (List.Sublist.refl _) ?_
    simp [hnodes.legible, hedges.legible]
  · rw [ofJson?, toJson, asRecord?_ofFields hplain (List.Sublist.refl _)]
    simp [Record.get?, List.lookup_cons, hnodes.reads, hedges.reads]

theorem decode?_encode (p : Payload) : decode? p.encode = some p := by
  have htree : Json.parse? p.toJson.toString = some p.toJson := parse?_toString p.encodesJson.legible
  rw [decode?, encode, htree, Option.bind_eq_bind, Option.bind_some, p.encodesJson.reads]

end Payload

/-- What the backend is told of a node: everything but how it is drawn and what its ports are. Only
a call has the name of a function. -/
structure PayloadNode.Describes (p : PayloadNode) (n : Node) : Prop where
  id : p.id = n.id
  title : p.title = n.name
  bindings : p.bindings = n.bindings
  kind : (n.kind = .start ∧ p.kind = "start" ∧ p.functionName = none) ∨
    ∃ f, n.kind = .function f ∧ p.kind = "function" ∧ p.functionName = some f.name

namespace PayloadNode

theorem describes_ofNode (n : Node) : (ofNode n).Describes n := by
  refine ⟨rfl, rfl, rfl, ?_⟩
  cases hkind : n.kind with
  | start => simp [ofNode, hkind, NodeKind.tag, NodeKind.signature?]
  | function f => simp [ofNode, hkind, NodeKind.tag, NodeKind.signature?]

theorem Describes.isSome_functionName_iff {p : PayloadNode} {n : Node} (h : p.Describes n) :
    p.functionName.isSome = true ↔ p.kind = "function" := by
  rcases h.kind with ⟨-, hkind, hname⟩ | ⟨f, -, hkind, hname⟩
  · simp [hkind, hname]
  · simp [hkind, hname]

end PayloadNode

namespace Graph

variable {g : Graph}

theorem nodeIds_payload (g : Graph) :
    g.payload.nodes.map (·.id) = g.nodeList.map (·.id) := List.map_map

theorem describes_payload (g : Graph) :
    List.Forall₂ PayloadNode.Describes g.payload.nodes g.nodeList :=
  List.forall₂_map_left_iff.2 (List.forall₂_same.2 fun n _ ↦ PayloadNode.describes_ofNode n)

theorem Closed.mem_nodeIds_payload (hg : g.Closed) {x : PayloadEdge} (hx : x ∈ g.payload.edges) :
    x.source.node ∈ g.payload.nodes.map (·.id) ∧ x.target.node ∈ g.payload.nodes.map (·.id) := by
  obtain ⟨e, he, rfl⟩ := List.mem_map.1 hx
  obtain ⟨hsource, htarget⟩ := hg e he
  rw [nodeIds_payload]
  exact ⟨List.mem_map.2 (mem_nodes_iff.1 hsource), List.mem_map.2 (mem_nodes_iff.1 htarget)⟩

end Graph

/-- Every payload is read back from its text. The payload of a graph that an editor can arrive at
has one node for each node and one edge for each edge, in the order of the graph. No two of its
nodes are called the same, and its edges end on nodes that it has. -/
theorem Payload.reads_back_and_closed :
    (∀ p : Payload, decode? p.encode = some p) ∧
    ∀ settings palette naming ids (calls : List EditorCall),
      let g := ((Editor.new settings palette naming ids).run calls).graph
      List.Forall₂ PayloadNode.Describes g.payload.nodes g.nodeList ∧
      g.payload.edges = g.edgeList.map (fun e ↦ ⟨e.source, e.target⟩) ∧
      (g.payload.nodes.map (·.id)).Nodup ∧
      (∀ x ∈ g.payload.edges, x.source.node ∈ g.payload.nodes.map (·.id) ∧
        x.target.node ∈ g.payload.nodes.map (·.id)) ∧
      ∀ p ∈ g.payload.nodes, p.functionName.isSome = true ↔ p.kind = "function" := by
  refine ⟨decode?_encode, fun settings palette naming ids calls ↦ ?_⟩
  have hclosed := Editor.closed_run settings palette naming ids calls
  generalize ((Editor.new settings palette naming ids).run calls).graph = g at hclosed
  refine ⟨g.describes_payload, rfl, ?_, fun x ↦ hclosed.mem_nodeIds_payload, fun p hp ↦ ?_⟩
  · rw [g.nodeIds_payload]
    exact g.nodup_nodeIds
  · obtain ⟨n, -, rfl⟩ := List.mem_map.1 hp
    exact (PayloadNode.describes_ofNode n).isSome_functionName_iff

end PipelineGraph
