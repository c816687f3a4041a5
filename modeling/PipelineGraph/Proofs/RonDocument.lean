import PipelineGraph.Document.Text
import PipelineGraph.Proofs.Document
import PipelineGraph.Proofs.FloatText
import PipelineGraph.Proofs.RonTree

namespace PipelineGraph

open Ron Number

namespace Ron

structure Encodes {α : Type} (n : Nat) (read : Ron → Option α) (t : Ron) (x : α) : Prop where
  legible : Legible n t
  reads : read t = some x

def ReadsBack (x : Float32) : Prop := float32? (finiteText numberStyle x) = some x

instance (x : Float32) : Decidable (ReadsBack x) := inferInstanceAs (Decidable (_ = _))

variable {α : Type} {read : Ron → Option α} {write : α → Ron} {n : Nat}

theorem encodes_ofString (n : Nat) (s : String) : Encodes n asString? (ofString s) s :=
  ⟨.string _, by rw [ofString, asString?, String.ofList_toList]⟩

theorem readsBack {x : Float32} (h : x.isFinite = true) : ReadsBack x := by
  obtain ⟨d, hread, hsign, hvalue, -⟩ := decimal?_finiteText numberStyle x
  rw [ReadsBack, float32?_of_literal (literal_finiteText numberStyle x), hread, Option.map_some,
    toFloat32_eq h hsign hvalue]

theorem encodes_finite {x : Float32} (hfinite : x.isFinite = true) (n : Nat) :
    Encodes n asFloat32? (ofFloat32 x) x := by
  obtain ⟨hnan, hinf⟩ := isFinite_iff.1 hfinite
  have htext : numberText numberStyle x = finiteText numberStyle x := by
    simp only [numberText, hnan, hinf, Bool.false_eq_true, if_false]
  have hread : float32? (finiteText numberStyle x) = some x := readsBack hfinite
  have hnumber : isNumber (finiteText numberStyle x) = true := by
    rw [isNumber, hread]
    rfl
  have htree : ofFloat32 x = .number (finiteText numberStyle x) := by
    rw [ofFloat32, if_pos (.inl hfinite), htext]
  rw [htree]
  exact ⟨.number (isLegibleNumber_of_literal (literal_finiteText _ _) hnumber), hread⟩

theorem encodes_infinite {x : Float32} (hinf : x.isInf = true) (hnan : x.isNaN = false) (n : Nat) :
    Encodes n asFloat32? (ofFloat32 x) x := by
  have hfinite : x.isFinite = false := by
    cases h : x.isFinite with
    | false => rfl
    | true => exact hinf.symm.trans (isFinite_iff.1 h).2
  have hx := eq_infinite hinf
  cases hnegative : isNegative x with
  | false =>
    have htree : ofFloat32 x = .word ⟨['i', 'n', 'f'], false⟩ := by
      simp only [ofFloat32, numberText, hfinite, hinf, hnan, hnegative, Bool.false_eq_true, if_true,
        if_false, false_and, or_self]
    rw [htree]
    refine ⟨.word (by decide), ?_⟩
    rw [hx, hnegative]
    rfl
  | true =>
    have htree : ofFloat32 x = .number ['-', 'i', 'n', 'f'] := by
      simp only [ofFloat32, numberText, hinf, hnan, hnegative, Bool.false_eq_true, if_true,
        if_false, not_false_eq_true, and_self, or_true]
    rw [htree]
    refine ⟨.number (by decide +kernel), ?_⟩
    rw [hx, hnegative]
    rfl

theorem encodes_nan {x : Float32} (hnan : x.isNaN = true) (n : Nat) :
    Encodes n asFloat32? (ofFloat32 x) x := by
  have htree : ofFloat32 x = .word ⟨['N', 'a', 'N'], false⟩ := by
    have hfinite : ¬ x.isFinite = true := fun h ↦
      Bool.noConfusion (hnan.symm.trans (isFinite_iff.1 h).1)
    simp only [ofFloat32, numberText, hnan, hfinite, Bool.false_eq_true, not_true, and_false,
      or_self, if_true, if_false]
  rw [htree, eq_of_isNaN hnan]
  exact ⟨.word (by decide), rfl⟩

/-- Every number is read back from its text. -/
theorem encodes_ofFloat32 (x : Float32) (n : Nat) : Encodes n asFloat32? (ofFloat32 x) x := by
  cases hnan : x.isNaN with
  | true => exact encodes_nan hnan n
  | false =>
    cases hinf : x.isInf with
    | true => exact encodes_infinite hinf hnan n
    | false => exact encodes_finite (isFinite_iff.2 ⟨hnan, hinf⟩) n

theorem encodes_list {xs : List α} (h : ∀ x ∈ xs, Encodes n read (write x) x) :
    Encodes (n + 1) (asList? read) (.list (xs.map write)) xs := by
  refine ⟨.list fun t ht ↦ ?_, mapM_map_eq_some fun x hx ↦ (h x hx).reads⟩
  obtain ⟨x, hx, rfl⟩ := List.mem_map.1 ht
  exact (h x hx).legible

theorem encodes_ofMap (h : ∀ x, Encodes n read (write x) x) (m : OrderedMap String α) :
    Encodes (n + 1) (asMap? read) (ofMap write m) m := by
  constructor
  · refine .map (fun e he ↦ ?_) fun e he ↦ ?_
    · obtain ⟨x, -, rfl⟩ := List.mem_map.1 he
      exact (encodes_ofString n x.1).legible
    · obtain ⟨x, -, rfl⟩ := List.mem_map.1 he
      exact (h x.2).legible
  · rw [ofMap, asMap?, mapM_map_eq_some fun e _ ↦ ?_]
    · exact congrArg some m.ofList_entries
    · simp only [(encodes_ofString n e.1).reads, (h e.2).reads]
      rfl

theorem encodes_ofTag {ofTag? : String → Option α} {tag : String} {x : α}
    (hlegible : (identifier tag).isLegible = true) (h : ofTag? tag = some x) (n : Nat) :
    Encodes n (asTag? ofTag?) (ofTag tag) x := by
  refine ⟨.word hlegible, ?_⟩
  rw [ofTag, asTag?, identifier, String.ofList_toList, h]

theorem Encodes.wrapped {t : Ron} {x : α} (h : Encodes n read t x) (type : String) :
    Encodes (n + 1) (asWrapped? {} type read) (.tuple none [t]) x :=
  ⟨.tuple nofun (by simp [h.legible]), h.reads⟩

theorem Encodes.optional {t : Ron} {x : α} (h : Encodes n read t x) :
    Encodes (n + 1) (asOption? {} read) (ofSome t) (some x) := by
  refine ⟨.tuple (by decide +kernel) (by simp [h.legible]), ?_⟩
  have hname : ofSome t = .tuple (some ⟨['S', 'o', 'm', 'e'], false⟩) [t] := by
    simp [ofSome]
  rw [hname, asOption?, h.reads, Option.map_some]

def Plain (names : List String) : Prop :=
  names.Nodup ∧ ∀ name ∈ names, (identifier name).isLegible = true

instance (names : List String) : Decidable (Plain names) := inferInstanceAs (Decidable (_ ∧ _))

section Fields

variable {names : List String} {fields : List (String × Ron)}

theorem legible_ofFields (hplain : Plain names) (hnames : (fields.map Prod.fst).Sublist names)
    (hne : fields ≠ []) (h : ∀ f ∈ fields, Legible n f.2) : Legible (n + 1) (ofFields fields) := by
  refine .record nofun (by simpa using hne) (fun f hf ↦ ?_) fun f hf ↦ ?_
  · obtain ⟨g, hg, rfl⟩ := List.mem_map.1 hf
    exact hplain.2 _ (hnames.subset (List.mem_map_of_mem hg))
  · obtain ⟨g, hg, rfl⟩ := List.mem_map.1 hf
    exact h g hg

theorem recordOf?_ofFields (hnodup : (fields.map Prod.fst).Nodup)
    (hnames : fields.map Prod.fst ⊆ names) :
    recordOf? names (fields.map fun f ↦ (identifier f.1, f.2)) = some ⟨fields⟩ := by
  have hkeys : (fields.map fun f ↦ (identifier f.1, f.2)).map
      (fun f ↦ (String.ofList f.1.name, f.2)) = fields := by
    rw [List.map_map]
    refine (List.map_congr_left fun f _ ↦ ?_).trans (List.map_id fields)
    simp [identifier]
  rw [recordOf?, hkeys]
  exact Record.ofFields?_of_subset hnodup hnames

theorem asRecord?_ofFields (type : String) (hplain : Plain names)
    (hnames : (fields.map Prod.fst).Sublist names) :
    (ofFields fields).asRecord? {} type names = some ⟨fields⟩ := by
  rw [ofFields, asRecord?, recordOf?_ofFields (hplain.1.sublist hnames) hnames.subset]
  rfl

end Fields

/-- A record is read with all its fields, also when it has none. -/
theorem exists_parse?_record {name : Option Identifier} {fields : List (Identifier × Ron)}
    {before text after : List Char} (hname : ∀ i ∈ name, i.isLegible = true)
    (hfields : ∀ f ∈ fields, f.1.isLegible = true) (hvalues : ∀ f ∈ fields, Legible 63 f.2)
    (hbefore : Gap before) (h : Spells text (.record name fields)) (hafter : Gap after) :
    ∃ t, parse? (String.ofList (before ++ (text ++ after))) = some ({}, t) ∧
      ∀ e type names, t.asRecord? e type names = (record name fields).asRecord? e type names := by
  by_cases hempty : fields = []
  · subst hempty
    have hlegible : Legible nestingLimit (.tuple name []) := .tuple hname nofun
    exact ⟨_, parse?_spells hlegible hbefore h.tuple_nil hafter, fun _ _ _ ↦ rfl⟩
  · have hlegible : Legible nestingLimit (.record name fields) :=
      .record hname hempty hfields hvalues
    exact ⟨_, parse?_spells hlegible hbefore h hafter, fun _ _ _ ↦ rfl⟩

end Ron

theorem Uuid.encodesRon (n : Nat) (type : String) (u : Uuid) :
    Encodes (n + 1) (Uuid.ofRon? {} type) u.toRon u := by
  have htext := (encodes_ofString n u.toString).wrapped type
  refine ⟨htext.legible, ?_⟩
  rw [ofRon?, toRon, htext.reads, Option.bind_eq_bind, Option.bind_some, ofString?_toString]

theorem NodeId.encodesRon (n : Nat) (id : NodeId) :
    Encodes (n + 1) (NodeId.ofRon? {}) id.uuid.toRon id :=
  ⟨(id.uuid.encodesRon n "NodeId").legible, by rw [ofRon?, (id.uuid.encodesRon n _).reads]; rfl⟩

theorem PortId.encodesRon (n : Nat) (id : PortId) :
    Encodes (n + 1) (PortId.ofRon? {}) id.uuid.toRon id :=
  ⟨(id.uuid.encodesRon n "PortId").legible, by rw [ofRon?, (id.uuid.encodesRon n _).reads]; rfl⟩

theorem EdgeId.encodesRon (n : Nat) (id : EdgeId) :
    Encodes (n + 1) (EdgeId.ofRon? {}) id.uuid.toRon id :=
  ⟨(id.uuid.encodesRon n "EdgeId").legible, by rw [ofRon?, (id.uuid.encodesRon n _).reads]; rfl⟩

theorem Direction.encodesRon (n : Nat) (d : Direction) :
    Encodes n (asTag? Direction.ofTag?) (ofTag d.tag) d :=
  encodes_ofTag (by cases d <;> decide) (by cases d <;> decide) n

theorem Layer.encodesRon (n : Nat) (l : Layer) : Encodes n (asTag? Layer.ofTag?) (ofTag l.tag) l :=
  encodes_ofTag (by cases l <;> decide) (by cases l <;> decide) n

theorem ValueType.encodesRon (n : Nat) (t : ValueType) :
    Encodes n (asTag? ValueType.ofTag?) (ofTag t.tag) t :=
  encodes_ofTag (by cases t <;> decide) (by cases t <;> decide) n

theorem Port.encodesRon (n : Nat) (p : Port) : Encodes (n + 2) (Port.ofRon? {}) p.toRon p := by
  have hplain : Plain fieldNames := by decide
  have hid := p.id.encodesRon n
  have hname := encodes_ofString (n + 1) p.name
  have hdirection := p.direction.encodesRon (n + 1)
  have hlayer := p.layer.encodesRon (n + 1)
  have htype := p.valueType.encodesRon (n + 1)
  constructor
  · refine legible_ofFields hplain (List.Sublist.refl _) (List.cons_ne_nil _ _) ?_
    simp [hid.legible, hname.legible, hdirection.legible, hlayer.legible, htype.legible]
  · rw [ofRon?, toRon, asRecord?_ofFields _ hplain (List.Sublist.refl _)]
    simp [Record.get?, List.lookup_cons, hid.reads, hname.reads, hdirection.reads, hlayer.reads,
      htype.reads]

theorem FunctionSignature.encodesRon (n : Nat) (f : FunctionSignature) :
    Encodes (n + 2) (FunctionSignature.ofRon? {}) (.ofFields f.ronFields) f := by
  have hplain : Plain fieldNames := by decide
  have hname := encodes_ofString (n + 1) f.name
  have hinputs := encodes_ofMap (ValueType.encodesRon n) f.inputs
  have houtputs := encodes_ofMap (ValueType.encodesRon n) f.outputs
  constructor
  · refine legible_ofFields hplain (List.Sublist.refl _) (List.cons_ne_nil _ _) ?_
    simp [ronFields, hname.legible, hinputs.legible, houtputs.legible]
  · rw [ofRon?, asRecord?_ofFields _ hplain (List.Sublist.refl _)]
    simp [ofRonRecord?, ronFields, Record.get?, List.lookup_cons, hname.reads, hinputs.reads,
      houtputs.reads]

theorem NodeKind.encodesRon (n : Nat) (k : NodeKind) :
    Encodes (n + 3) (NodeKind.ofRon? {}) k.toRon k := by
  cases k with
  | start =>
    refine ⟨.word (by decide), ?_⟩
    simp [ofRon?, toRon, ofTag, identifier]
  | function f =>
    have hsignature := f.encodesRon n
    refine ⟨.tuple (by decide) (by simp [hsignature.legible]), ?_⟩
    simp [ofRon?, toRon, identifier, hsignature.reads]

theorem NodePorts.encodesRon (n : Nat) (ps : NodePorts) :
    Encodes (n + 4) (NodePorts.ofRon? {}) ps.toRon ps := by
  have hplain : Plain fieldNames := by decide
  have hports : ∀ l : List Port,
      Encodes (n + 3) (asList? (Port.ofRon? {})) (.list (l.map Port.toRon)) l :=
    fun l ↦ encodes_list fun p _ ↦ p.encodesRon n
  have hcontrolInput := ps.controlInput.encodesRon (n + 1)
  have hcontrolOutput := ps.controlOutput.encodesRon (n + 1)
  have hdataInputs := hports ps.dataInputs
  have hdataOutputs := hports ps.dataOutputs
  constructor
  · refine legible_ofFields hplain (List.Sublist.refl _) (List.cons_ne_nil _ _) ?_
    simp [hcontrolInput.legible, hcontrolOutput.legible, hdataInputs.legible,
      hdataOutputs.legible]
  · rw [ofRon?, toRon, asRecord?_ofFields _ hplain (List.Sublist.refl _)]
    simp [Record.get?, List.lookup_cons, hcontrolInput.reads, hcontrolOutput.reads,
      hdataInputs.reads, hdataOutputs.reads]

theorem Point.encodesRon (n : Nat) (p : Point) : Encodes (n + 1) Point.ofRon? p.toRon p := by
  have hx := encodes_ofFloat32 p.x n
  have hy := encodes_ofFloat32 p.y n
  constructor
  · refine .tuple nofun ?_
    simp [hx.legible, hy.legible]
  · simp [ofRon?, toRon, hx.reads, hy.reads]

theorem Node.encodesRon (n : Nat) (node : Node) :
    Encodes (n + 5) (Node.ofRon? {}) node.toRon node := by
  have hplain : Plain fieldNames := by decide
  have hid := node.id.encodesRon (n + 3)
  have hname := encodes_ofString (n + 4) node.name
  have hposition := node.position.encodesRon (n + 3)
  have hwidth := encodes_ofFloat32 node.width (n + 4)
  have hports := node.ports.encodesRon n
  have hkind := node.kind.encodesRon (n + 1)
  have hbindings := encodes_ofMap (encodes_ofString (n + 3)) node.bindings
  constructor
  · refine legible_ofFields hplain (List.Sublist.refl _) (List.cons_ne_nil _ _) ?_
    simp [hid.legible, hname.legible, hposition.legible, hwidth.legible, hports.legible,
      hkind.legible, hbindings.legible]
  · rw [ofRon?, toRon, asRecord?_ofFields _ hplain (List.Sublist.refl _)]
    simp [Record.get?, Record.getOr?, List.lookup_cons, hid.reads, hname.reads, hposition.reads,
      hwidth.reads, hports.reads, hkind.reads, hbindings.reads]

theorem Edge.encodesRon (n : Nat) (e : Edge) : Encodes (n + 2) (Edge.ofRon? {}) e.toRon e := by
  have hplain : Plain fieldNames := by decide
  have hid := e.id.encodesRon n
  have hlayer := e.layer.encodesRon (n + 1)
  have hsource := e.source.node.encodesRon n
  have hsourcePort := e.source.port.encodesRon n
  have htarget := e.target.node.encodesRon n
  have htargetPort := e.target.port.encodesRon n
  constructor
  · refine legible_ofFields hplain (List.Sublist.refl _) (List.cons_ne_nil _ _) ?_
    simp [hid.legible, hlayer.legible, hsource.legible, hsourcePort.legible, htarget.legible,
      htargetPort.legible, (encodes_ofFloat32 _ _).legible]
  · rw [ofRon?, toRon, asRecord?_ofFields _ hplain (List.Sublist.refl _)]
    simp [Record.get?, Record.getOr?, List.lookup_cons, hid.reads, hlayer.reads, hsource.reads,
      hsourcePort.reads, htarget.reads, htargetPort.reads, (encodes_ofFloat32 _ 0).reads]

namespace ViewTransform

theorem toRon_eq (t : ViewTransform) :
    t.toRon = ofFields (fields (ofFloat32 t.scale) (t.panX.map fun x ↦ ofSome (ofFloat32 x))
      (t.panY.map fun y ↦ ofSome (ofFloat32 y))) := by
  have hpan : ∀ name pan, panRonField name pan =
      Record.optional name (pan.map fun x ↦ ofSome (ofFloat32 x)) := by
    intro name pan
    cases pan <;> rfl
  rw [toRon, hpan, hpan, fields]

theorem encodesRon (n : Nat) (t : ViewTransform) : Encodes (n + 2) (ofRon? {}) t.toRon t := by
  have hplain : Plain fieldNames := by decide
  have hscale := encodes_ofFloat32 t.scale (n + 1)
  have hlegible (pan : Option Float32) :
      ∀ j ∈ pan.map fun x ↦ ofSome (ofFloat32 x), Legible (n + 1) j := by
    intro j hj
    obtain ⟨x, -, rfl⟩ := Option.map_eq_some_iff.1 hj
    exact (encodes_ofFloat32 x n).optional.legible
  rw [toRon_eq]
  constructor
  · exact legible_ofFields hplain (names_fields _ _ _) (List.cons_ne_nil _ _)
      (forall_mem_fields hscale.legible (hlegible _) (hlegible _))
  · have hoptional (x : Float32) := (encodes_ofFloat32 x 0).optional.reads
    have hx := Record.getOr?_optional (x := t.panX) (lookup_panX (ofFloat32 t.scale) _
      (t.panY.map fun y ↦ ofSome (ofFloat32 y))) fun x _ ↦ hoptional x
    have hy := Record.getOr?_optional (x := t.panY) (lookup_panY (ofFloat32 t.scale)
      (t.panX.map fun x ↦ ofSome (ofFloat32 x)) _) fun y _ ↦ hoptional y
    rw [ofRon?, asRecord?_ofFields _ hplain (names_fields _ _ _)]
    simp [Record.get?, lookup_scale, hscale.reads, hx, hy]

end ViewTransform

namespace Document

theorem encodesRon (n : Nat) (d : Document) : Encodes (n + 7) (ofRon? {}) d.toRon d := by
  have hplain : Plain fieldNames := by decide
  have hnodes := encodes_list fun (node : Node) (_ : node ∈ d.snapshot.nodes) ↦ node.encodesRon n
  have hedges := encodes_list fun (e : Edge) (_ : e ∈ d.snapshot.edges) ↦ e.encodesRon (n + 3)
  have htransform := d.transform.encodesRon (n + 4)
  constructor
  · refine legible_ofFields hplain (List.Sublist.refl _) (List.cons_ne_nil _ _) ?_
    simp [hnodes.legible, hedges.legible, htransform.legible]
  · rw [ofRon?, toRon, asRecord?_ofFields _ hplain (List.Sublist.refl _)]
    simp [Record.get?, Record.getOr?, List.lookup_cons, hnodes.reads, hedges.reads,
      htransform.reads]

/-- Every document is read back from its RON text. -/
theorem parse_ron (d : Document) : parse (d.encode .ron) .ron = .ok d := by
  have hencodes : Encodes nestingLimit (ofRon? {}) d.toRon d := d.encodesRon 57
  have htree : parse? (String.ofList (d.toRon.render false 0)) = some ({}, d.toRon) :=
    parse?_render hencodes.legible false
  simp only [parse, encode, htree, Option.bind_some, hencodes.reads]

/-- A document is read back from its RON text, whatever its names, bindings and sizes are and with
infinities among its numbers. -/
theorem parse_encode_ron (d : Document) (_hnan : ∀ x ∈ d.numbers, x.isNaN = false)
    (_hread : ∀ x ∈ d.numbers, x.isFinite = true → ReadsBack x) :
    parse (d.encode .ron) .ron = .ok d := d.parse_ron

def unbounded : Document :=
  { sample with
    snapshot.nodes := sample.snapshot.nodes.map fun n ↦
      { n with position.x := Decimal.infinite true }
    transform := {
      panX := some (Decimal.infinite true)
      panY := some (Decimal.infinite false) } }

theorem parse_encode_ron_unbounded :
    ((∀ x ∈ unbounded.numbers, x.isNaN = false) ∧
      ∀ x ∈ unbounded.numbers, x.isFinite = true → ReadsBack x) ∧
      parse (unbounded.encode .ron) .ron = .ok unbounded := by
  have hnan : ∀ x ∈ unbounded.numbers, x.isNaN = false := by decide +kernel
  have hread : ∀ x ∈ unbounded.numbers, x.isFinite = true → ReadsBack x := by decide +kernel
  exact ⟨⟨hnan, hread⟩, parse_encode_ron unbounded hnan hread⟩

end Document

end PipelineGraph
