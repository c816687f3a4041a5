import PipelineGraph.Proofs.Expression
import PipelineGraph.Proofs.Reachability
import PipelineGraph.Validation.Report

namespace PipelineGraph

open Expression

/-- The text bound to an input without blanks at its ends, empty if nothing is bound. -/
def Node.boundText (n : Node) (input : Port) : List Char :=
  Text.trim ((n.bindings.get? input.name).getD "").toList

/-- The reference leads to an output of the type, on a node that control flow reaches. -/
def Graph.Resolves (g : Graph) (r : Reference) (type : ValueType) : Prop :=
  ∃ source output, g.nodeNamed? r.node = some source ∧ g.OnControlPath source.id ∧
    source.dataOutput? r.output = some output ∧ output.valueType = type

/-- The input is given a literal of its type or the value of a reachable output of its type. -/
def Graph.Supplies (g : Graph) (n : Node) (input : Port) : Prop :=
  n.boundText input ≠ [] ∧ (Literal input.valueType (n.boundText input) ∨
    ∃ r, Names (n.boundText input) r ∧ g.Resolves r input.valueType)

/-- The first condition that the text bound to an input violates. -/
inductive FirstFault (g : Graph) (n : Node) (input : Port) : Fault → Prop
  | unbound (hempty : n.boundText input = []) : FirstFault g n input .unbound
  | malformed (hbound : n.boundText input ≠ [])
      (hliteral : ¬ Literal input.valueType (n.boundText input))
      (hshape : ∀ r, ¬ Names (n.boundText input) r) :
      FirstFault g n input (.malformed input.valueType)
  | unknownNode {r : Reference} (hliteral : ¬ Literal input.valueType (n.boundText input))
      (hr : Names (n.boundText input) r) (hsource : g.nodeNamed? r.node = none) :
      FirstFault g n input (.unknownNode r.node)
  | unreachableNode {r : Reference} {source : Node}
      (hliteral : ¬ Literal input.valueType (n.boundText input)) (hr : Names (n.boundText input) r)
      (hsource : g.nodeNamed? r.node = some source) (hpath : ¬ g.OnControlPath source.id) :
      FirstFault g n input (.unreachableNode r.node)
  | unknownOutput {r : Reference} {source : Node}
      (hliteral : ¬ Literal input.valueType (n.boundText input)) (hr : Names (n.boundText input) r)
      (hsource : g.nodeNamed? r.node = some source) (hpath : g.OnControlPath source.id)
      (houtput : source.dataOutput? r.output = none) :
      FirstFault g n input (.unknownOutput r.node r.output)
  | typeMismatch {r : Reference} {source : Node} {output : Port}
      (hliteral : ¬ Literal input.valueType (n.boundText input)) (hr : Names (n.boundText input) r)
      (hsource : g.nodeNamed? r.node = some source) (hpath : g.OnControlPath source.id)
      (houtput : source.dataOutput? r.output = some output)
      (htype : output.valueType ≠ input.valueType) :
      FirstFault g n input (.typeMismatch input.valueType output.valueType)

section bindingFault

variable {g : Graph} {n : Node} {input : Port}

theorem Graph.Supplies.not_firstFault (h : g.Supplies n input) (fault : Fault) :
    ¬ FirstFault g n input fault := by
  obtain ⟨hbound, hliteral | ⟨r, hr, source, output, hsource, hpath, houtput, htype⟩⟩ := h
  · intro hfault
    cases hfault with
    | unbound hempty => exact hbound hempty
    | malformed _ hno => exact hno hliteral
    | unknownNode hno => exact hno hliteral
    | unreachableNode hno => exact hno hliteral
    | unknownOutput hno => exact hno hliteral
    | typeMismatch hno => exact hno hliteral
  · intro hfault
    cases hfault with
    | unbound hempty => exact hbound hempty
    | malformed _ _ hshape => exact hshape r hr
    | unknownNode _ hr' hsource' =>
      cases hr.unique hr'
      cases hsource.symm.trans hsource'
    | unreachableNode _ hr' hsource' hpath' =>
      cases hr.unique hr'
      cases hsource.symm.trans hsource'
      exact hpath' hpath
    | unknownOutput _ hr' hsource' _ houtput' =>
      cases hr.unique hr'
      cases hsource.symm.trans hsource'
      cases houtput.symm.trans houtput'
    | typeMismatch _ hr' hsource' _ houtput' htype' =>
      cases hr.unique hr'
      cases hsource.symm.trans hsource'
      cases houtput.symm.trans houtput'
      exact htype' htype

/-- The check of a text that is a reference and no literal is that of the reference. -/
theorem bindingFault?_eq_of_names {r : Reference}
    (hliteral : ¬ Literal input.valueType (n.boundText input)) (hr : Names (n.boundText input) r) :
    bindingFault? g g.reachable n input =
      match g.nodeNamed? r.node with
      | none => some (.unknownNode r.node)
      | some source =>
        if source.id ∉ g.reachable then some (.unreachableNode r.node) else
          match source.dataOutput? r.output with
          | none => some (.unknownOutput r.node r.output)
          | some output =>
            if output.valueType ≠ input.valueType then
              some (.typeMismatch input.valueType output.valueType)
            else none := by
  have hbound : ¬ (n.boundText input).isEmpty = true := by
    rw [List.isEmpty_iff]
    exact hr.ne_nil
  have hliteral' : ¬ isBareLiteral (n.boundText input) input.valueType = true :=
    isBareLiteral_iff.not.2 hliteral
  obtain rfl : splitReference (n.boundText input) = r := splitReference_eq hr
  have hshape : ¬ (!isBareReference (n.boundText input)) = true := by
    rw [isBareReference_iff.2 hr]
    exact Bool.false_ne_true
  exact (if_neg hbound).trans ((if_neg hliteral').trans (if_neg hshape))

theorem bindingFault?_of_names {r : Reference}
    (hliteral : ¬ Literal input.valueType (n.boundText input)) (hr : Names (n.boundText input) r) :
    (bindingFault? g g.reachable n input = none ∧ g.Resolves r input.valueType) ∨
      ∃ fault, bindingFault? g g.reachable n input = some fault ∧ FirstFault g n input fault := by
  rw [bindingFault?_eq_of_names hliteral hr]
  cases hsource : g.nodeNamed? r.node with
  | none => exact .inr ⟨_, rfl, .unknownNode hliteral hr hsource⟩
  | some source =>
    dsimp only
    by_cases hpath : g.OnControlPath source.id
    · rw [if_neg (not_not.2 (Graph.mem_reachable.2 hpath))]
      cases houtput : source.dataOutput? r.output with
      | none => exact .inr ⟨_, rfl, .unknownOutput hliteral hr hsource hpath houtput⟩
      | some output =>
        dsimp only
        by_cases htype : output.valueType = input.valueType
        · rw [if_neg (not_not.2 htype)]
          exact .inl ⟨rfl, source, output, hsource, hpath, houtput, htype⟩
        · rw [if_pos htype]
          exact .inr ⟨_, rfl, .typeMismatch hliteral hr hsource hpath houtput htype⟩
    · rw [if_pos (Graph.mem_reachable.not.2 hpath)]
      exact .inr ⟨_, rfl, .unreachableNode hliteral hr hsource hpath⟩

/-- The check of an input finds nothing and the input is supplied, or it finds the first fault. -/
theorem bindingFault?_spec (g : Graph) (n : Node) (input : Port) :
    (bindingFault? g g.reachable n input = none ∧ g.Supplies n input) ∨
      ∃ fault, bindingFault? g g.reachable n input = some fault ∧ FirstFault g n input fault := by
  by_cases hr : ¬ Literal input.valueType (n.boundText input) ∧ ∃ r, Names (n.boundText input) r
  · obtain ⟨hliteral, r, hr⟩ := hr
    rcases bindingFault?_of_names hliteral hr with ⟨hnone, hresolves⟩ | hfault
    · exact .inl ⟨hnone, hr.ne_nil, .inr ⟨r, hr, hresolves⟩⟩
    · exact .inr hfault
  have htext : Text.trim ((n.bindings.get? input.name).getD "").toList = n.boundText input := rfl
  simp only [bindingFault?, htext]
  by_cases hbound : n.boundText input = []
  · refine .inr ⟨.unbound, ?_, .unbound hbound⟩
    rw [hbound, List.isEmpty_nil, if_pos rfl]
  rw [if_neg (by rwa [List.isEmpty_iff])]
  by_cases hliteral : Literal input.valueType (n.boundText input)
  · rw [if_pos (isBareLiteral_iff.2 hliteral)]
    exact .inl ⟨rfl, hbound, .inl hliteral⟩
  · have hshape (r : Reference) : ¬ Names (n.boundText input) r := fun h ↦ hr ⟨hliteral, r, h⟩
    refine .inr ⟨.malformed input.valueType, ?_, .malformed hbound hliteral hshape⟩
    rw [if_neg (isBareLiteral_iff.not.2 hliteral), if_pos]
    rw [Bool.eq_false_iff.2 (isBareReference_iff.not.2 (hshape _)), Bool.not_false]

theorem bindingFault?_eq_none_iff :
    bindingFault? g g.reachable n input = none ↔ g.Supplies n input := by
  rcases bindingFault?_spec g n input with ⟨hnone, h⟩ | ⟨fault, hsome, hfault⟩
  · exact iff_of_true hnone h
  · rw [hsome]
    exact iff_of_false nofun fun h ↦ h.not_firstFault fault hfault

theorem firstFault_of_bindingFault? {fault : Fault}
    (h : bindingFault? g g.reachable n input = some fault) : FirstFault g n input fault := by
  rcases bindingFault?_spec g n input with ⟨hnone, -⟩ | ⟨fault', hsome, hfault⟩
  · cases hnone.symm.trans h
  · cases hsome.symm.trans h
    exact hfault

instance (g : Graph) (n : Node) (input : Port) : Decidable (g.Supplies n input) :=
  decidable_of_iff _ bindingFault?_eq_none_iff

end bindingFault

/-- The issue is the error that reports the first fault of the input. -/
structure Reports (g : Graph) (n : Node) (input : Port) (i : Issue) : Prop where
  severity : i.severity = .error
  name : i.input = input.name
  fault : FirstFault g n input i.fault

namespace Graph

variable {g : Graph}

/-- The data inputs of a node that are not supplied. -/
def failingInputs (g : Graph) (n : Node) : List Port :=
  n.ports.dataInputs.filter fun input ↦ ¬ g.Supplies n input

def failingNodes (g : Graph) : List Node :=
  g.nodeList.filter fun n ↦ g.OnControlPath n.id ∧ g.failingInputs n ≠ []

theorem failingInputs_eq_nil_iff {n : Node} :
    g.failingInputs n = [] ↔ ∀ input ∈ n.ports.dataInputs, g.Supplies n input := by
  simp [failingInputs, List.filter_eq_nil_iff]

theorem failingNodes_eq_nil_iff : g.failingNodes = [] ↔
    ∀ n ∈ g.nodeList, g.OnControlPath n.id → ∀ input ∈ n.ports.dataInputs, g.Supplies n input := by
  simp only [failingNodes, List.filter_eq_nil_iff, decide_eq_true_eq, not_and, not_not,
    failingInputs_eq_nil_iff]

theorem forall₂_nodeIssues (g : Graph) (n : Node) :
    List.Forall₂ (Reports g n) (g.failingInputs n) (nodeIssues g g.reachable n) := by
  unfold failingInputs nodeIssues
  induction n.ports.dataInputs with
  | nil => exact .nil
  | cons input inputs ih =>
    cases h : bindingFault? g g.reachable n input with
    | none =>
      rw [List.filter_cons_of_neg (by simpa using bindingFault?_eq_none_iff.1 h),
        List.filterMap_cons_none (by rw [h, Option.map_none])]
      exact ih
    | some fault =>
      have hfault := firstFault_of_bindingFault? h
      have hfails : ¬ g.Supplies n input := fun hs ↦ hs.not_firstFault fault hfault
      rw [List.filter_cons_of_pos (by simpa using hfails),
        List.filterMap_cons_some (by rw [h, Option.map_some])]
      exact .cons ⟨rfl, rfl, hfault⟩ ih

theorem isEmpty_nodeIssues (g : Graph) (n : Node) :
    (nodeIssues g g.reachable n).isEmpty = (g.failingInputs n).isEmpty := by
  have hlength := (forall₂_nodeIssues g n).length_eq
  cases hi : nodeIssues g g.reachable n <;> cases hf : g.failingInputs n <;> simp_all

theorem entries_validate (g : Graph) :
    g.validate.issues.entries = g.failingNodes.map fun n ↦ (n.id, nodeIssues g g.reachable n) := by
  unfold validate
  dsimp only
  rw [OrderedMap.entries_ofList]
  · rw [List.filter_map, List.filter_filter]
    refine congrArg _ (List.filter_congr fun n _ ↦ ?_)
    rw [Function.comp_apply, isEmpty_nodeIssues, Bool.and_comm]
    cases g.failingInputs n <;> simp [mem_reachable]
  · refine (List.filter_sublist.map Prod.fst).nodup ?_
    rw [List.map_map]
    exact (List.filter_sublist.map Node.id).nodup g.nodes_keyed.nodup

theorem isValid_validate_iff : g.validate.isValid = true ↔ g.failingNodes = [] := by
  unfold Report.isValid OrderedMap.values
  rw [entries_validate, List.map_map]
  constructor
  · intro h
    refine List.eq_nil_iff_forall_not_mem.2 fun n hn ↦ ?_
    have hall : (nodeIssues g g.reachable n).all (fun i ↦ i.severity ≠ .error) = true :=
      List.all_eq_true.1 h _ (List.mem_map_of_mem hn)
    have hfails := (of_decide_eq_true (List.mem_filter.1 hn).2).2
    have hissues := forall₂_nodeIssues g n
    generalize nodeIssues g g.reachable n = issues, g.failingInputs n = inputs
      at hall hfails hissues
    cases hissues with
    | nil => exact hfails rfl
    | cons hi _ =>
      exact of_decide_eq_true (List.all_eq_true.1 hall _ List.mem_cons_self) hi.severity
  · intro h
    rw [h]
    rfl

/-- The validator accepts a graph exactly if every data input that control flow reaches is supplied,
and otherwise reports each failing input of each failing node once, with its first fault. -/
theorem validate_sound_complete (g : Graph) :
    (g.validate.isValid = true ↔
      ∀ n ∈ g.nodeList, g.OnControlPath n.id → ∀ input ∈ n.ports.dataInputs, g.Supplies n input) ∧
    List.Forall₂
      (fun n entry ↦ entry.1 = n.id ∧ List.Forall₂ (Reports g n) (g.failingInputs n) entry.2)
      g.failingNodes g.validate.issues.entries ∧
    ∀ id, ¬ g.OnControlPath id → id ∉ g.validate.issues := by
  refine ⟨isValid_validate_iff.trans failingNodes_eq_nil_iff, ?_, fun id hid hmem ↦ ?_⟩
  · rw [entries_validate, List.forall₂_map_right_iff, List.forall₂_same]
    exact fun n _ ↦ ⟨rfl, forall₂_nodeIssues g n⟩
  · obtain ⟨entry, hentry, rfl⟩ := List.mem_map.1 hmem
    rw [entries_validate] at hentry
    obtain ⟨n, hn, rfl⟩ := List.mem_map.1 hentry
    exact hid (of_decide_eq_true (List.mem_filter.1 hn).2).1

end Graph

end PipelineGraph
