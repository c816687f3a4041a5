import PipelineGraph.Document.Text
import PipelineGraph.Proofs.Document
import PipelineGraph.Proofs.JsonNumber
import PipelineGraph.Proofs.JsonTree
import PipelineGraph.Proofs.Uuid

namespace PipelineGraph

open Json Number

namespace Json

/-- A tree has a text, and a value is read from it. -/
structure Encodes {α : Type} (read : Json → Option α) (j : Json) (x : α) : Prop where
  legible : Legible j
  reads : read j = some x

variable {α : Type} {read : Json → Option α} {write : α → Json}

theorem text?_escape (s : String) : text? (escape s.toList) = some s := by
  rw [text?, unescape?_escape, Option.map_some, String.ofList_toList]

theorem encodes_ofString (s : String) : Encodes asString? (ofString s) s :=
  ⟨.string _, text?_escape s⟩

theorem legible_ofFloat32 (x : Float32) : Legible (ofFloat32 x) := by
  unfold ofFloat32
  split
  · exact .number (literal_finiteText _ _)
  · exact .null

theorem encodes_ofFloat32 {x : Float32} (hfinite : x.isFinite) (hread : ReadsBack x) :
    Encodes asFloat32? (ofFloat32 x) x := by
  refine ⟨legible_ofFloat32 x, ?_⟩
  exact asFloat32?_ofFloat32_eq_some_iff.2 ⟨hfinite, hread⟩

theorem Encodes.present {j : Json} {x : α} (h : Encodes read j x) (hne : j ≠ null) :
    Encodes (asOption? read) j (some x) := by
  refine ⟨h.legible, ?_⟩
  rw [asOption?, h.reads, Option.map_some]
  exact hne

theorem Encodes.optional {x : Float32} {j : Json} (h : Encodes asFloat32? j x) :
    Encodes (asOption? asFloat32?) j (some x) := by
  refine h.present ?_
  rintro rfl
  cases h.reads

theorem encodes_array {xs : List α} (h : ∀ x ∈ xs, Encodes read (write x) x) :
    Encodes (asList? read) (.array (xs.map write)) xs := by
  refine ⟨.array fun j hj ↦ ?_, mapM_map_eq_some fun x hx ↦ (h x hx).reads⟩
  obtain ⟨x, hx, rfl⟩ := List.mem_map.1 hj
  exact (h x hx).legible

theorem encodes_ofMap (h : ∀ x, Encodes read (write x) x) (m : OrderedMap String α) :
    Encodes (asMap? read) (ofMap write m) m := by
  constructor
  · refine .object (fun e he ↦ ?_) fun e he ↦ ?_
    · obtain ⟨x, -, rfl⟩ := List.mem_map.1 he
      exact ⟨_, rfl⟩
    · obtain ⟨x, -, rfl⟩ := List.mem_map.1 he
      exact (h x.2).legible
  · rw [ofMap, asMap?, mapM_map_eq_some fun e _ ↦ ?_]
    · exact congrArg some m.ofList_entries
    · simp only [text?_escape, (h e.2).reads]
      rfl

theorem asVariant?_ofString (name : String) : asVariant? (ofString name) = some (name, null) := by
  rw [ofString, asVariant?, text?_escape, Option.map_some]

theorem asVariant?_ofFields {name : String} (hplain : escape name.toList = name.toList) (j : Json) :
    asVariant? (ofFields [(name, j)]) = some (name, j) := by
  have htext := text?_escape name
  rw [hplain] at htext
  simp only [ofFields, List.map_cons, List.map_nil, asVariant?, htext, Option.map_some]

theorem encodes_tag {ofTag? : String → Option α} {tag : String} {x : α} (h : ofTag? tag = some x) :
    Encodes (asTag? ofTag?) (ofString tag) x := by
  refine ⟨.string _, ?_⟩
  simp only [asTag?, asVariant?_ofString, h]

def Plain (names : List String) : Prop :=
  names.Nodup ∧ ∀ name ∈ names, escape name.toList = name.toList

instance (names : List String) : Decidable (Plain names) := inferInstanceAs (Decidable (_ ∧ _))

section Fields

variable {names : List String} {fields : List (String × Json)}

theorem legible_ofFields (hplain : Plain names) (hnames : (fields.map Prod.fst).Sublist names)
    (h : ∀ f ∈ fields, Legible f.2) : Legible (ofFields fields) := by
  refine .object (fun m hm ↦ ?_) fun m hm ↦ ?_
  · obtain ⟨f, hf, rfl⟩ := List.mem_map.1 hm
    exact ⟨f.1.toList, (hplain.2 _ (hnames.subset (List.mem_map_of_mem hf))).symm⟩
  · obtain ⟨f, hf, rfl⟩ := List.mem_map.1 hm
    exact h f hf

theorem asRecord?_ofFields (hplain : Plain names)
    (hnames : (fields.map Prod.fst).Sublist names) :
    (ofFields fields).asRecord? names = some ⟨fields⟩ := by
  have hkeys : ∀ f ∈ fields, (do return (← text? f.1.toList, f.2) : Option (String × Json)) =
      some f := by
    intro f hf
    have htext := text?_escape f.1
    rw [hplain.2 _ (hnames.subset (List.mem_map_of_mem hf))] at htext
    rw [htext]
    rfl
  rw [ofFields, asRecord?, mapM_map_eq_some hkeys]
  exact Record.ofFields?_of_subset (hplain.1.sublist hnames) hnames.subset

end Fields

end Json

theorem Uuid.encodesJson (u : Uuid) : Encodes Uuid.ofJson? u.toJson u := by
  have htext := encodes_ofString u.toString
  refine ⟨htext.legible, ?_⟩
  rw [ofJson?, toJson, htext.reads, Option.bind_eq_bind, Option.bind_some, ofString?_toString]

theorem NodeId.encodesJson (id : NodeId) : Encodes NodeId.ofJson? id.toJson id :=
  ⟨id.uuid.encodesJson.legible, by rw [ofJson?, toJson, id.uuid.encodesJson.reads]; rfl⟩

theorem PortId.encodesJson (id : PortId) : Encodes PortId.ofJson? id.toJson id :=
  ⟨id.uuid.encodesJson.legible, by rw [ofJson?, toJson, id.uuid.encodesJson.reads]; rfl⟩

theorem EdgeId.encodesJson (id : EdgeId) : Encodes EdgeId.ofJson? id.toJson id :=
  ⟨id.uuid.encodesJson.legible, by rw [ofJson?, toJson, id.uuid.encodesJson.reads]; rfl⟩

theorem Direction.encodesJson (d : Direction) : Encodes Direction.ofJson? d.toJson d :=
  encodes_tag (by cases d <;> decide)

theorem Layer.encodesJson (l : Layer) : Encodes Layer.ofJson? l.toJson l :=
  encodes_tag (by cases l <;> decide)

theorem ValueType.encodesJson (t : ValueType) : Encodes ValueType.ofJson? t.toJson t :=
  encodes_tag (by cases t <;> decide)

theorem Port.encodesJson (p : Port) : Encodes Port.ofJson? p.toJson p := by
  have hplain : Plain fieldNames := by decide
  have hid := p.id.encodesJson
  have hname := encodes_ofString p.name
  have hdirection := p.direction.encodesJson
  have hlayer := p.layer.encodesJson
  have htype := p.valueType.encodesJson
  constructor
  · refine legible_ofFields hplain (List.Sublist.refl _) ?_
    simp [hid.legible, hname.legible, hdirection.legible, hlayer.legible, htype.legible]
  · rw [ofJson?, toJson, asRecord?_ofFields hplain (List.Sublist.refl _)]
    simp [Record.get?, List.lookup_cons, hid.reads, hname.reads, hdirection.reads, hlayer.reads,
      htype.reads]

theorem FunctionSignature.encodesJson (f : FunctionSignature) :
    Encodes FunctionSignature.ofJson? f.toJson f := by
  have hplain : Plain fieldNames := by decide
  have hname := encodes_ofString f.name
  have hinputs := encodes_ofMap ValueType.encodesJson f.inputs
  have houtputs := encodes_ofMap ValueType.encodesJson f.outputs
  constructor
  · refine legible_ofFields hplain (List.Sublist.refl _) ?_
    simp [hname.legible, hinputs.legible, houtputs.legible]
  · rw [ofJson?, toJson, asRecord?_ofFields hplain (List.Sublist.refl _)]
    simp [Record.get?, List.lookup_cons, hname.reads, hinputs.reads, houtputs.reads]

theorem NodeKind.encodesJson (k : NodeKind) : Encodes NodeKind.ofJson? k.toJson k := by
  cases k with
  | start =>
    refine ⟨(encodes_ofString _).legible, ?_⟩
    simp only [ofJson?, toJson, asVariant?_ofString]
  | function f =>
    have hplain : Plain ["function"] := by decide
    have hsignature := f.encodesJson
    constructor
    · refine legible_ofFields hplain (List.Sublist.refl _) ?_
      simp [hsignature.legible]
    · rw [ofJson?, toJson, asVariant?_ofFields (by decide)]
      simp only [hsignature.reads, Option.map_some]

theorem NodePorts.encodesJson (ps : NodePorts) : Encodes NodePorts.ofJson? ps.toJson ps := by
  have hplain : Plain fieldNames := by decide
  have hcontrolInput := ps.controlInput.encodesJson
  have hcontrolOutput := ps.controlOutput.encodesJson
  have hports : ∀ l : List Port, Encodes (asList? Port.ofJson?) (.array (l.map Port.toJson)) l :=
    fun l ↦ encodes_array fun p _ ↦ p.encodesJson
  have hdataInputs := hports ps.dataInputs
  have hdataOutputs := hports ps.dataOutputs
  constructor
  · refine legible_ofFields hplain (List.Sublist.refl _) ?_
    simp [hcontrolInput.legible, hcontrolOutput.legible, hdataInputs.legible,
      hdataOutputs.legible]
  · rw [ofJson?, toJson, asRecord?_ofFields hplain (List.Sublist.refl _)]
    simp [Record.get?, List.lookup_cons, hcontrolInput.reads, hcontrolOutput.reads,
      hdataInputs.reads, hdataOutputs.reads]

theorem Point.legible_toJson (p : Point) : Legible p.toJson :=
  .array (by simp [legible_ofFloat32])

namespace Node

theorem legible_toJson (n : Node) : Legible n.toJson := by
  refine legible_ofFields (by decide : Plain fieldNames) (List.Sublist.refl _) ?_
  simp [n.id.encodesJson.legible, (encodes_ofString n.name).legible, n.position.legible_toJson,
    legible_ofFloat32, n.ports.encodesJson.legible, n.kind.encodesJson.legible,
    (encodes_ofMap encodes_ofString n.bindings).legible]

/-- A node is read back up to the numbers, which are what is read from their own texts. -/
theorem ofJson?_toJson (n : Node) : ofJson? n.toJson = do
    let x ← (ofFloat32 n.position.x).asFloat32?
    let y ← (ofFloat32 n.position.y).asFloat32?
    let width ← (ofFloat32 n.width).asFloat32?
    return { n with position := ⟨x, y⟩, width } := by
  have hplain : Plain fieldNames := by decide
  have hid := n.id.encodesJson
  have hname := encodes_ofString n.name
  have hports := n.ports.encodesJson
  have hkind := n.kind.encodesJson
  have hbindings := encodes_ofMap encodes_ofString n.bindings
  rw [ofJson?, toJson, asRecord?_ofFields hplain (List.Sublist.refl _)]
  simp [Record.get?, Record.getOr?, List.lookup_cons, hid.reads, hname.reads, hports.reads,
    hkind.reads, hbindings.reads, Point.ofJson?, Point.toJson, Option.bind_assoc]

theorem encodesJson {n : Node} (h : ∀ x ∈ n.numbers, Encodes asFloat32? (ofFloat32 x) x) :
    Encodes ofJson? n.toJson n := by
  simp only [numbers, List.forall_mem_cons] at h
  refine ⟨n.legible_toJson, ?_⟩
  simp [ofJson?_toJson, h.1.reads, h.2.1.reads, h.2.2.1.reads]

end Node

theorem Edge.encodesJson {e : Edge} (h : ∀ x ∈ e.numbers, Encodes asFloat32? (ofFloat32 x) x) :
    Encodes Edge.ofJson? e.toJson e := by
  have hplain : Plain fieldNames := by decide
  simp only [numbers, List.forall_mem_cons] at h
  obtain ⟨hx1, hy1, hx2, hy2, -⟩ := h
  have hid := e.id.encodesJson
  have hlayer := e.layer.encodesJson
  have hsource := e.source.node.encodesJson
  have hsourcePort := e.source.port.encodesJson
  have htarget := e.target.node.encodesJson
  have htargetPort := e.target.port.encodesJson
  constructor
  · refine legible_ofFields hplain (List.Sublist.refl _) ?_
    simp [hid.legible, hlayer.legible, hsource.legible, hsourcePort.legible, htarget.legible,
      htargetPort.legible, hx1.legible, hy1.legible, hx2.legible, hy2.legible]
  · rw [ofJson?, toJson, asRecord?_ofFields hplain (List.Sublist.refl _)]
    simp [Record.get?, Record.getOr?, List.lookup_cons, hid.reads, hlayer.reads, hsource.reads,
      hsourcePort.reads, htarget.reads, htargetPort.reads, hx1.reads, hy1.reads, hx2.reads,
      hy2.reads]

namespace ViewTransform

variable {t : ViewTransform}

theorem toJson_eq (t : ViewTransform) :
    t.toJson = ofFields (fields (ofFloat32 t.scale) (t.panX.map ofFloat32)
      (t.panY.map ofFloat32)) := by
  have hpan : ∀ name pan, panField name pan = Record.optional name (pan.map ofFloat32) := by
    intro name pan
    cases pan <;> rfl
  rw [toJson, hpan, hpan, fields]

theorem encodesJson (h : ∀ x ∈ t.numbers, Encodes asFloat32? (ofFloat32 x) x) :
    Encodes ofJson? t.toJson t := by
  have hplain : Plain fieldNames := by decide
  obtain ⟨hscale, hpanX, hpanY⟩ := forall_numbers_iff.1 h
  have hlegible : ∀ pan : Option Float32, (∀ x ∈ pan, Encodes asFloat32? (ofFloat32 x) x) →
      ∀ j ∈ pan.map ofFloat32, Legible j := by
    intro pan hpan j hj
    obtain ⟨x, hx, rfl⟩ := Option.map_eq_some_iff.1 hj
    exact (hpan x hx).legible
  rw [toJson_eq]
  constructor
  · exact legible_ofFields hplain (names_fields _ _ _)
      (forall_mem_fields hscale.legible (hlegible _ hpanX) (hlegible _ hpanY))
  · have hx := Record.getOr?_optional (lookup_panX (ofFloat32 t.scale) _ (t.panY.map ofFloat32))
      fun x hx ↦ (hpanX x hx).optional.reads
    have hy := Record.getOr?_optional (lookup_panY (ofFloat32 t.scale) (t.panX.map ofFloat32) _)
      fun y hy ↦ (hpanY y hy).optional.reads
    rw [ofJson?, asRecord?_ofFields hplain (names_fields _ _ _)]
    simp [Record.get?, lookup_scale, hscale.reads, hx, hy]

end ViewTransform

namespace Document

theorem encodesJson {d : Document} (h : ∀ x ∈ d.numbers, Encodes asFloat32? (ofFloat32 x) x) :
    Encodes ofJson? d.toJson d := by
  have hplain : Plain fieldNames := by decide
  obtain ⟨hnodes, hedges, htransform⟩ := forall_numbers_iff.1 h
  have hnodes := encodes_array fun n hn ↦ Node.encodesJson (hnodes n hn)
  have hedges := encodes_array fun e he ↦ Edge.encodesJson (hedges e he)
  have htransform := ViewTransform.encodesJson htransform
  constructor
  · refine legible_ofFields hplain (List.Sublist.refl _) ?_
    simp [hnodes.legible, hedges.legible, htransform.legible]
  · rw [ofJson?, toJson, asRecord?_ofFields hplain (List.Sublist.refl _)]
    simp [Record.get?, Record.getOr?, List.lookup_cons, hnodes.reads, hedges.reads,
      htransform.reads]

/-- A document is read back from its JSON text, whatever its names, bindings and sizes are. -/
theorem parse_encode_json (d : Document) (hfinite : ∀ x ∈ d.numbers, x.isFinite)
    (hread : ∀ x ∈ d.numbers, ReadsBack x) : parse (d.encode .json) .json = .ok d := by
  have hencodes := encodesJson fun x hx ↦ encodes_ofFloat32 (hfinite x hx) (hread x hx)
  have htree : parse? d.toJson.toString = some d.toJson := parse?_toString hencodes.legible
  simp only [parse, encode, htree, Option.bind_some, hencodes.reads]

theorem parse_encode_json_sample :
    ((∀ x ∈ sample.numbers, x.isFinite) ∧ ∀ x ∈ sample.numbers, ReadsBack x) ∧
      parse (sample.encode .json) .json = .ok sample := by
  have hfinite : ∀ x ∈ sample.numbers, x.isFinite := by decide +kernel
  have hread : ∀ x ∈ sample.numbers, ReadsBack x := by decide +kernel
  exact ⟨⟨hfinite, hread⟩, parse_encode_json sample hfinite hread⟩

end Document

end PipelineGraph
