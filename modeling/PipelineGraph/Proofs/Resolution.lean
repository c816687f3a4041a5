import PipelineGraph.Proofs.Validation

namespace PipelineGraph

open Expression

variable {g h : Graph} {n : Node} {input : Port}

theorem FirstFault.bindingFault?_eq {fault : Fault} (h : FirstFault g n input fault) :
    bindingFault? g g.reachable n input = some fault := by
  have htext : Text.trim ((n.bindings.get? input.name).getD "").toList = n.boundText input := rfl
  cases h with
  | unbound hempty => simp only [bindingFault?, htext, hempty, List.isEmpty_nil, if_true]
  | malformed hbound hliteral hshape =>
    have hliteral' := Bool.eq_false_iff.2 (isBareLiteral_iff.not.2 hliteral)
    have hshape' := Bool.eq_false_iff.2 (isBareReference_iff.not.2 (hshape _))
    simp [bindingFault?, htext, hbound, hliteral', hshape']
  | unknownNode hliteral hr hsource => simp only [bindingFault?_eq_of_names hliteral hr, hsource]
  | unreachableNode hliteral hr hsource hpath =>
    simp [bindingFault?_eq_of_names hliteral hr, hsource, Graph.mem_reachable, hpath]
  | unknownOutput hliteral hr hsource hpath houtput =>
    simp [bindingFault?_eq_of_names hliteral hr, hsource, Graph.mem_reachable, hpath, houtput]
  | typeMismatch hliteral hr hsource hpath houtput htype =>
    simp [bindingFault?_eq_of_names hliteral hr, hsource, Graph.mem_reachable, hpath, houtput, htype]

theorem bindingFault?_eq_some_iff {fault : Fault} :
    bindingFault? g g.reachable n input = some fault ↔ FirstFault g n input fault :=
  ⟨firstFault_of_bindingFault?, FirstFault.bindingFault?_eq⟩

namespace Graph

/-- In both graphs the name belongs to the same node or to none, and control flow reaches that node
in both or in neither. -/
structure AgreesOn (g h : Graph) (name : String) : Prop where
  node : h.nodeNamed? name = g.nodeNamed? name
  reached : ∀ source, g.nodeNamed? name = some source →
    (h.OnControlPath source.id ↔ g.OnControlPath source.id)

end Graph

/-- The fault of an input depends on the graph only through the node that the input refers to. -/
theorem bindingFault?_congr
    (hagree : ¬ Literal input.valueType (n.boundText input) →
      ∀ r, Names (n.boundText input) r → g.AgreesOn h r.node) :
    bindingFault? h h.reachable n input = bindingFault? g g.reachable n input := by
  have htext : Text.trim ((n.bindings.get? input.name).getD "").toList = n.boundText input := rfl
  simp only [bindingFault?, htext]
  by_cases hliteral : Literal input.valueType (n.boundText input)
  · rw [if_pos (isBareLiteral_iff.2 hliteral), if_pos (isBareLiteral_iff.2 hliteral)]
  by_cases hshape : isBareReference (n.boundText input) = true
  · obtain ⟨hnode, hreached⟩ := hagree hliteral _ (isBareReference_iff.1 hshape)
    rw [hnode]
    cases hsource : g.nodeNamed? (splitReference (n.boundText input)).node with
    | none => rfl
    | some source =>
      have hmem : source.id ∈ h.reachable ↔ source.id ∈ g.reachable := by
        rw [Graph.mem_reachable, Graph.mem_reachable]
        exact hreached source hsource
      simp only [hmem]
  · rw [Bool.not_eq_true] at hshape
    simp only [hshape, Bool.not_false, if_true]

namespace Graph

theorem mem_entries_validate (hn : n ∈ g.nodeList) {issues : List Issue} :
    (n.id, issues) ∈ g.validate.issues.entries ↔
      n ∈ g.failingNodes ∧ nodeIssues g g.reachable n = issues := by
  rw [entries_validate, List.mem_map]
  constructor
  · rintro ⟨m, hm, he⟩
    obtain ⟨hid, hissues⟩ := Prod.mk.inj he
    cases eq_of_id_eq (List.mem_of_mem_filter hm) hn hid
    exact ⟨hm, hissues⟩
  · rintro ⟨hm, rfl⟩
    exact ⟨n, hm, rfl⟩

theorem issuesOf_of_not_failing (hn : n ∈ g.nodeList) (hfine : n ∉ g.failingNodes) :
    g.validate.issuesOf n.id = [] := by
  have hnone : g.validate.issues.get? n.id = none := by
    refine Option.eq_none_iff_forall_ne_some.2 fun issues hissues ↦ hfine ?_
    exact ((mem_entries_validate hn).1 (OrderedMap.get?_eq_some_iff.1 hissues)).1
  rw [Report.issuesOf, hnone, Option.getD_none]

theorem issuesOf_validate (hn : n ∈ g.nodeList) :
    g.validate.issuesOf n.id =
      if g.OnControlPath n.id then nodeIssues g g.reachable n else [] := by
  by_cases hfails : n ∈ g.failingNodes
  · have hpath := (of_decide_eq_true (List.mem_filter.1 hfails).2).1
    rw [Report.issuesOf, OrderedMap.get?_eq_some_iff.2 ((mem_entries_validate hn).2 ⟨hfails, rfl⟩),
      Option.getD_some, if_pos hpath]
  · rw [issuesOf_of_not_failing hn hfails]
    split
    · rename_i hpath
      have hinputs : g.failingInputs n = [] := by
        by_contra hne
        exact hfails (List.mem_filter.2 ⟨hn, decide_eq_true ⟨hpath, hne⟩⟩)
      have hempty := isEmpty_nodeIssues g n
      rw [hinputs, List.isEmpty_nil, List.isEmpty_iff] at hempty
      exact hempty.symm
    · rfl

def issueAt? (g : Graph) (n : Node) (input : Port) : Option Issue :=
  (bindingFault? g g.reachable n input).map fun fault ↦ { input := input.name, fault }

theorem issuesOf_validate_of_reached (hn : n ∈ g.nodeList) (hpath : g.OnControlPath n.id) :
    g.validate.issuesOf n.id = n.ports.dataInputs.filterMap (g.issueAt? n) := by
  rw [issuesOf_validate hn, if_pos hpath]
  rfl

theorem isValid_iff_supplies : g.validate.isValid = true ↔
    ∀ n ∈ g.nodeList, g.OnControlPath n.id → ∀ input ∈ n.ports.dataInputs, g.Supplies n input :=
  isValid_validate_iff.trans failingNodes_eq_nil_iff

end Graph

end PipelineGraph
