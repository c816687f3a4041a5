import PipelineGraph.Document.Fields
import PipelineGraph.Proofs.OrderedMap
import PipelineGraph.Record

namespace PipelineGraph

variable {α τ : Type}

theorem mapM_map_eq_some {read : τ → Option α} {write : α → τ} {xs : List α}
    (h : ∀ x ∈ xs, read (write x) = some x) : (xs.map write).mapM read = some xs := by
  induction xs with
  | nil => rfl
  | cons x xs ih =>
    obtain ⟨hx, hxs⟩ := List.forall_mem_cons.1 h
    rw [List.map_cons, List.mapM_cons, hx, ih hxs]
    rfl

theorem OrderedMap.ofList_entries {κ : Type} [DecidableEq κ] (m : OrderedMap κ α) :
    ofList m.entries = m := OrderedMap.ext (entries_ofList m.nodup_keys)

namespace Record

theorem ofFields?_of_subset {names : List String} {fields : List (String × τ)}
    (hnodup : (fields.map Prod.fst).Nodup) (h : fields.map Prod.fst ⊆ names) :
    ofFields? names fields = some ⟨fields⟩ := by
  have hall : fields.filter (fun f ↦ f.1 ∈ names) = fields := by
    refine List.filter_eq_self.2 fun f hf ↦ ?_
    exact decide_eq_true (h (List.mem_map_of_mem hf))
  rw [ofFields?]
  simp only [hall]
  exact if_pos hnodup

def optional (name : String) (t : Option τ) : List (String × τ) := t.toList.map fun t ↦ (name, t)

theorem optional_sublist (name : String) (t : Option τ) :
    ((optional name t).map Prod.fst).Sublist [name] := by
  cases t with
  | none => exact List.nil_sublist _
  | some t => exact List.Sublist.refl _

theorem forall_mem_optional {name : String} {t : Option τ} {P : τ → Prop} (h : ∀ x ∈ t, P x) :
    ∀ f ∈ optional name t, P f.2 := by
  cases t with
  | none => exact nofun
  | some x => exact List.forall_mem_singleton.2 (h x rfl)

theorem lookup_optional (key name : String) (t : Option τ) :
    (optional name t).lookup key = if key = name then t else none := by
  cases t with
  | none => exact (ite_self none).symm
  | some t =>
    rw [optional, Option.toList_some, List.map_singleton, List.lookup_cons, List.lookup_nil]
    by_cases h : key = name
    · rw [if_pos h, beq_iff_eq.2 h]
    · rw [if_neg h, beq_eq_false_iff_ne.2 h]

theorem getOr?_optional {fields : List (String × τ)} {name : String} {x : Option α}
    {write : α → τ} {read : τ → Option (Option α)}
    (hlookup : fields.lookup name = x.map write)
    (h : ∀ a ∈ x, read (write a) = some (some a)) :
    (Record.mk fields).getOr? name read none = some x := by
  rw [getOr?, hlookup]
  cases x with
  | none => rfl
  | some a => exact h a rfl

end Record

namespace ViewTransform

def fields (scale : τ) (panX panY : Option τ) : List (String × τ) :=
  ("scale", scale) :: (Record.optional "panX" panX ++ Record.optional "panY" panY)

variable (scale : τ) (panX panY : Option τ)

theorem names_fields : ((fields scale panX panY).map Prod.fst).Sublist fieldNames := by
  rw [fields, List.map_cons, List.map_append]
  exact ((Record.optional_sublist _ _).append (Record.optional_sublist _ _)).cons_cons _

theorem lookup_scale : (fields scale panX panY).lookup "scale" = some scale := rfl

theorem lookup_panX : (fields scale panX panY).lookup "panX" = panX := by
  simp [fields, List.lookup_cons, List.lookup_append, Record.lookup_optional]

theorem lookup_panY : (fields scale panX panY).lookup "panY" = panY := by
  simp [fields, List.lookup_cons, List.lookup_append, Record.lookup_optional]

variable {scale panX panY}

theorem forall_mem_fields {P : τ → Prop} (hscale : P scale) (hpanX : ∀ x ∈ panX, P x)
    (hpanY : ∀ y ∈ panY, P y) : ∀ f ∈ fields scale panX panY, P f.2 := by
  refine List.forall_mem_cons.2 ⟨hscale, List.forall_mem_append.2 ⟨?_, ?_⟩⟩
  · exact Record.forall_mem_optional hpanX
  · exact Record.forall_mem_optional hpanY

end ViewTransform

def Node.numbers (n : Node) : List Float32 := [n.position.x, n.position.y, n.width]

def Edge.numbers (e : Edge) : List Float32 :=
  [e.drawnFrom.x, e.drawnFrom.y, e.drawnTo.x, e.drawnTo.y]

def ViewTransform.numbers (t : ViewTransform) : List Float32 :=
  t.scale :: (t.panX.toList ++ t.panY.toList)

/-- Every number that a document holds. -/
def Document.numbers (d : Document) : List Float32 :=
  d.snapshot.nodes.flatMap Node.numbers ++
    (d.snapshot.edges.flatMap Edge.numbers ++ d.transform.numbers)

theorem ViewTransform.forall_numbers_iff {P : Float32 → Prop} {t : ViewTransform} :
    (∀ x ∈ t.numbers, P x) ↔ P t.scale ∧ (∀ x ∈ t.panX, P x) ∧ ∀ y ∈ t.panY, P y := by
  simp only [numbers, List.forall_mem_cons, List.forall_mem_append, Option.mem_toList,
    Option.mem_def]

theorem Document.forall_numbers_iff {P : Float32 → Prop} {d : Document} :
    (∀ x ∈ d.numbers, P x) ↔ (∀ n ∈ d.snapshot.nodes, ∀ x ∈ n.numbers, P x) ∧
      (∀ e ∈ d.snapshot.edges, ∀ x ∈ e.numbers, P x) ∧ ∀ x ∈ d.transform.numbers, P x := by
  simp only [numbers, List.forall_mem_append, List.forall_mem_flatMap]

/-- Two connected nodes with names that need escapes, values of the type without values, and
negative zero, the least and the greatest positive number among the coordinates. -/
def Document.sample : Document :=
  let f : FunctionSignature := {
    name := "π 😀 \"quoted\""
    inputs := .ofList [("", .none), ("a\n\tb", .int64)]
    outputs := .ofList [("None", .none)] }
  let (n, ids) := Node.newStart "\u0000\\ \'\u007f" (.ofStream .ofRandom)
  let (m, ids) := Node.newFunction f "😀.r#None" ids
  let id := ids.drawEdge.1
  { snapshot := {
      nodes := [
        { n with position := ⟨.ofBits 0x3eaaaaab, .ofBits 1⟩, width := .ofBits 0x7f7fffff },
        { m with bindings := .ofList [("a\n\tb", "\"x\""), ("", "\u2028")] }]
      edges := [{
        id
        layer := .control
        source := ⟨n.id, n.ports.controlOutput.id⟩
        target := ⟨m.id, m.ports.controlInput.id⟩
        drawnFrom := ⟨.ofBits 0x3dcccccd, .ofBits 0xc2f6e979⟩
        drawnTo := ⟨.ofBits 0x80000000, .ofBits 0x00800000⟩ }] }
    transform := { panY := some (.ofBits 0x4b18967f) } }

end PipelineGraph
