import PipelineGraph.Proofs.ConnectReport
import PipelineGraph.Proofs.DistinctNames
import PipelineGraph.Proofs.Integrity

namespace PipelineGraph

open Expression

/-- The fault when the nodes of these names do not exist: of a node that only was not reached, the
name is unknown now. -/
def Fault.forget (gone : List String) : Fault → Fault
  | .unreachableNode name => if name ∈ gone then .unknownNode name else .unreachableNode name
  | fault => fault

def Issue.forget (gone : List String) (i : Issue) : Issue := { i with fault := i.fault.forget gone }

theorem IssueCounts.ofList_map_forget (gone : List String) (issues : List Issue) :
    ofList (issues.map (Issue.forget gone)) = ofList issues := by
  rw [ofList, List.foldl_map]
  rfl

namespace Report

/-- The second report lists the issues of the first for the same nodes, but for what has been
forgotten. -/
def Forgets (r s : Report) (gone : List String) : Prop :=
  s.issues.entries = r.issues.entries.map fun e ↦ (e.1, e.2.map (Issue.forget gone))

namespace Forgets

variable {r s : Report} {gone : List String}

theorem keys_eq (h : r.Forgets s gone) : s.issues.keys = r.issues.keys := by
  rw [OrderedMap.keys, h, List.map_map]
  rfl

theorem issuesOf_eq (h : r.Forgets s gone) (id : NodeId) :
    s.issuesOf id = (r.issuesOf id).map (Issue.forget gone) := by
  rw [issuesOf, OrderedMap.get?, h, List.find?_map, issuesOf, OrderedMap.get?]
  change ((Option.map _ (r.issues.entries.find? fun e ↦ e.1 = id)).map Prod.snd).getD [] = _
  cases r.issues.entries.find? fun e ↦ e.1 = id with
  | none => rfl
  | some e => rfl

theorem counts_eq (h : r.Forgets s gone) (id : NodeId) : s.counts id = r.counts id := by
  rw [counts, h.issuesOf_eq, IssueCounts.ofList_map_forget, counts]

theorem total_eq (h : r.Forgets s gone) : s.total = r.total := by
  have hcounts : s.counts = r.counts := funext h.counts_eq
  rw [total, h.keys_eq, hcounts, total]

theorem isValid_eq (h : r.Forgets s gone) : s.isValid = r.isValid := by
  have hvalues : s.issues.values = r.issues.values.map (List.map (Issue.forget gone)) := by
    rw [OrderedMap.values, h, List.map_map, OrderedMap.values, List.map_map]
    rfl
  rw [isValid, hvalues, List.all_map, isValid]
  apply congrArg r.issues.values.all
  funext issues
  rw [Function.comp_apply, List.all_map]
  rfl

end Forgets

end Report

namespace Graph

section explore

variable {arcs : List (NodeId × NodeId)} {reached pending : List NodeId} {n : NodeId}
  {p : NodeId × NodeId → Bool} {S : NodeId → Prop}

theorem targetsOf_filter (h : ∀ a ∈ arcs, a.1 = n → p a = true) :
    targetsOf (arcs.filter p) n = targetsOf arcs n := by
  rw [targetsOf, List.filter_filter, targetsOf]
  apply congrArg (List.map Prod.snd)
  apply List.filter_congr
  intro a ha
  by_cases hn : a.1 = n
  · simp [hn, h a ha hn]
  · simp [hn]

/-- Arcs that start outside of all that can be reached make no difference to the search. -/
theorem explore_filter (hkept : ∀ a ∈ arcs, S a.1 → p a = true ∧ S a.2)
    (hpending : ∀ n ∈ pending, S n) :
    explore (arcs.filter p) reached pending = explore arcs reached pending := by
  fun_induction explore arcs reached pending with
  | case1 arcs reached => rw [explore]
  | case2 arcs reached n rest fresh ih =>
    have hn : S n := hpending n List.mem_cons_self
    have htargets : targetsOf (arcs.filter p) n = targetsOf arcs n :=
      targetsOf_filter fun a ha he ↦ (hkept a ha (he ▸ hn)).1
    have hrest : arcsNotFrom (arcs.filter p) n = (arcsNotFrom arcs n).filter p :=
      List.filter_comm _ _ _
    rw [explore, htargets, hrest]
    apply ih
    · intro a ha
      exact hkept a (List.mem_of_mem_filter ha)
    · intro k hk
      rcases List.mem_append.1 hk with hk | hk
      · exact hpending k (List.mem_cons_of_mem _ hk)
      · have harc : (n, k) ∈ arcs := mem_targetsOf.1 (mem_newOnes.1 hk).1
        exact (hkept _ harc hn).2

end explore

variable {g : Graph} {ids : List NodeId}

theorem controlArcs_removeNodes (hg : g.Closed) (ids : List NodeId) :
    (g.removeNodes ids).2.controlArcs = g.controlArcs.filter fun a ↦ a.1 ∉ ids ∧ a.2 ∉ ids := by
  rw [controlArcs, edgeList_removeNodes hg, controlArcs, List.filter_map, List.filter_filter,
    List.filter_filter]
  apply congrArg (List.map _)
  apply List.filter_congr
  intro e _
  exact Bool.and_comm _ _

/-- What is not reached is neither a start node nor on the way of the search. -/
theorem reachable_removeNodes (hg : g.Closed) (hdead : ∀ id ∈ ids, ¬ g.OnControlPath id) :
    (g.removeNodes ids).2.reachable = g.reachable := by
  have hlive {n : NodeId} (hn : g.OnControlPath n) : n ∉ ids := fun hid ↦ hdead n hid hn
  have hstarts : (g.removeNodes ids).2.startIds = g.startIds := by
    rw [startIds, nodeList_removeNodes, List.filter_filter, startIds]
    apply congrArg (List.map _)
    apply List.filter_congr
    intro n hn
    cases hkind : n.isStart with
    | false => rfl
    | true =>
      have hreached : g.OnControlPath n.id := ⟨n, hn, hkind, .refl _⟩
      simp [hlive hreached]
  rw [reachable, hstarts, controlArcs_removeNodes hg, reachable]
  apply explore_filter (S := g.OnControlPath)
  · intro a ha hsource
    have htarget : g.OnControlPath a.2 := hsource.step ha
    exact ⟨decide_eq_true ⟨hlive hsource, hlive htarget⟩, htarget⟩
  · intro n hn
    obtain ⟨hstart, -⟩ := mem_newOnes.1 hn
    exact onControlPath_iff_startIds.2 ⟨n, hstart, .refl n⟩

theorem nodeNamed?_removeNodes (hg : g.Unambiguous) (ids : List NodeId) (name : String) :
    (g.removeNodes ids).2.nodeNamed? name = (g.nodeNamed? name).filter fun n ↦ n.id ∉ ids := by
  have hleft := hg.of_subset (nodeList_removeNodes_subset g ids)
  ext n
  rw [hleft.nodeNamed?_eq_some_iff, nodeList_removeNodes, List.mem_filter,
    Option.filter_eq_some_iff, hg.nodeNamed?_eq_some_iff]
  exact and_right_comm

def namesOf (g : Graph) (ids : List NodeId) : List String :=
  (g.nodeList.filter fun n ↦ n.id ∈ ids).map (·.name)

theorem mem_namesOf {name : String} :
    name ∈ g.namesOf ids ↔ ∃ n ∈ g.nodeList, n.id ∈ ids ∧ n.name = name := by
  simp [namesOf, and_assoc]

theorem bindingFault?_removeNodes (hclosed : g.Closed) (hnames : g.Unambiguous)
    (hdead : ∀ id ∈ ids, ¬ g.OnControlPath id) (n : Node) (input : Port) :
    bindingFault? (g.removeNodes ids).2 (g.removeNodes ids).2.reachable n input =
      (bindingFault? g g.reachable n input).map (Fault.forget (g.namesOf ids)) := by
  have hnamed := nodeNamed?_removeNodes hnames ids
  by_cases hgone : ∃ r source, ¬ Literal input.valueType (n.boundText input) ∧
      Names (n.boundText input) r ∧ g.nodeNamed? r.node = some source ∧ source.id ∈ ids
  · obtain ⟨r, source, hliteral, hr, hsource, hid⟩ := hgone
    have hbefore := FirstFault.unreachableNode hliteral hr hsource (hdead _ hid)
    have hmissing : (g.removeNodes ids).2.nodeNamed? r.node = none := by
      rw [hnamed, hsource]
      exact Option.filter_some_neg (by simpa using hid)
    have hafter := FirstFault.unknownNode hliteral hr hmissing
    obtain ⟨hmem, hsourceName⟩ := of_nodeNamed?_eq_some hsource
    have hname : r.node ∈ g.namesOf ids := mem_namesOf.2 ⟨source, hmem, hid, hsourceName⟩
    rw [hbefore.bindingFault?_eq, hafter.bindingFault?_eq, Option.map_some, Fault.forget,
      if_pos hname]
  · have hkept : bindingFault? (g.removeNodes ids).2 (g.removeNodes ids).2.reachable n input =
        bindingFault? g g.reachable n input := by
      apply bindingFault?_congr
      intro hliteral r hr
      refine ⟨?_, ?_⟩
      · rw [hnamed]
        cases hsource : g.nodeNamed? r.node with
        | none => rfl
        | some source =>
          have hid : source.id ∉ ids := fun hid ↦ hgone ⟨r, source, hliteral, hr, hsource, hid⟩
          exact Option.filter_some_pos (by simpa using hid)
      · intro source _
        rw [← mem_reachable, ← mem_reachable, reachable_removeNodes hclosed hdead]
    rw [hkept]
    cases hfault : bindingFault? g g.reachable n input with
    | none => rfl
    | some fault =>
      apply congrArg some
      cases bindingFault?_eq_some_iff.1 hfault with
      | unreachableNode hliteral hr hsource hpath =>
        refine (if_neg fun hname ↦ ?_).symm
        obtain ⟨m, hm, hid, hname⟩ := mem_namesOf.1 hname
        exact hgone ⟨_, m, hliteral, hr, hnames.nodeNamed?_eq_some_iff.2 ⟨hm, hname⟩, hid⟩
      | _ => rfl

theorem nodeIssues_removeNodes (hclosed : g.Closed) (hnames : g.Unambiguous)
    (hdead : ∀ id ∈ ids, ¬ g.OnControlPath id) (n : Node) :
    nodeIssues (g.removeNodes ids).2 (g.removeNodes ids).2.reachable n =
      (nodeIssues g g.reachable n).map (Issue.forget (g.namesOf ids)) := by
  rw [nodeIssues, nodeIssues, List.map_filterMap]
  apply List.filterMap_congr
  intro input _
  rw [bindingFault?_removeNodes hclosed hnames hdead, Option.map_map, Option.map_map]
  rfl

theorem failingNodes_removeNodes (hclosed : g.Closed) (hnames : g.Unambiguous)
    (hdead : ∀ id ∈ ids, ¬ g.OnControlPath id) :
    (g.removeNodes ids).2.failingNodes = g.failingNodes := by
  have hsupplies (n : Node) (input : Port) :
      (g.removeNodes ids).2.Supplies n input ↔ g.Supplies n input := by
    rw [← bindingFault?_eq_none_iff, bindingFault?_removeNodes hclosed hnames hdead,
      Option.map_eq_none_iff, bindingFault?_eq_none_iff]
  have hinputs (n : Node) : (g.removeNodes ids).2.failingInputs n = g.failingInputs n := by
    simp only [failingInputs, hsupplies]
  rw [failingNodes, nodeList_removeNodes, List.filter_filter, failingNodes]
  apply List.filter_congr
  intro n _
  rw [hinputs, ← Bool.decide_and]
  apply decide_eq_decide.2
  rw [← mem_reachable, reachable_removeNodes hclosed hdead, mem_reachable]
  constructor
  · intro h
    exact h.1
  · intro h
    exact ⟨h, fun hid ↦ hdead n.id hid h.1⟩

theorem forgets_removeNodes (hclosed : g.Closed) (hnames : g.Unambiguous)
    (hdead : ∀ id ∈ ids, ¬ g.OnControlPath id) :
    g.validate.Forgets (g.removeNodes ids).2.validate (g.namesOf ids) := by
  rw [Report.Forgets, entries_validate, failingNodes_removeNodes hclosed hnames hdead,
    entries_validate, List.map_map]
  apply List.map_congr_left
  intro n _
  rw [nodeIssues_removeNodes hclosed hnames hdead, Function.comp_apply]

/-- If the edges end on nodes and no two nodes share a name, taking out nodes that control flow does
not reach, with the edges that touch them, leaves the same nodes reached, in the same order. The
same nodes have issues, in the same order, and their issues are the same for the same inputs, except
that a source which was not reached and is gone is unknown by its name. Hence the counts stay, and
so does whether the graph is valid. -/
theorem validate_without_dead (g : Graph) (hclosed : g.Closed)
    (hnames : (g.nodeList.map (·.name)).Nodup) (ids : List NodeId)
    (hdead : ∀ id ∈ ids, id ∉ g.validate.reachable) :
    let r := g.validate
    let r' := (g.removeNodes ids).2.validate
    r'.reachable = r.reachable ∧
    r'.issues.entries =
      r.issues.entries.map (fun e ↦ (e.1, e.2.map (Issue.forget (g.namesOf ids)))) ∧
    r'.issues.keys = r.issues.keys ∧
    (∀ id, r'.issuesOf id = (r.issuesOf id).map (Issue.forget (g.namesOf ids))) ∧
    (∀ id, r'.counts id = r.counts id) ∧ r'.total = r.total ∧ r'.isValid = r.isValid := by
  intro r r'
  have hunambiguous : g.Unambiguous := unambiguous_iff_nodup.2 hnames
  have hunreached : ∀ id ∈ ids, ¬ g.OnControlPath id :=
    fun id hid ↦ mem_reachable.not.1 (hdead id hid)
  have hforgets := forgets_removeNodes hclosed hunambiguous hunreached
  exact ⟨reachable_removeNodes hclosed hunreached, hforgets, hforgets.keys_eq, hforgets.issuesOf_eq,
    hforgets.counts_eq, hforgets.total_eq, hforgets.isValid_eq⟩

theorem validate_without_dead_detached :
    let g := ofSnapshot detached
    let dead : List NodeId := [⟨.ofNat 9⟩, ⟨.ofNat 99⟩]
    let r' := (g.removeNodes dead).2.validate
    g.Closed ∧ (g.nodeList.map (·.name)).Nodup ∧ (∀ id ∈ dead, id ∉ g.validate.reachable) ∧
    (g.removeNodes dead).1 = ⟨[⟨.ofNat 9⟩], [⟨.ofNat 101⟩]⟩ ∧
    r'.reachable = g.validate.reachable ∧ r'.total = g.validate.total ∧
    g.validate.issuesOf ⟨.ofNat 3⟩ = [
      { input := "x", fault := .unreachableNode "supplier" },
      { input := "flag", fault := .unreachableNode "supplier" },
      { input := "z", fault := .unreachableNode "last" }] ∧
    r'.issuesOf ⟨.ofNat 3⟩ = [
      { input := "x", fault := .unknownNode "supplier" },
      { input := "flag", fault := .unknownNode "supplier" },
      { input := "z", fault := .unreachableNode "last" }] := by
  intro g dead r'
  have hclosed : g.Closed := (wellFormed_ofSnapshot detached).closed
  have hnames : (g.nodeList.map (·.name)).Nodup := by decide +kernel
  have hdead : ∀ id ∈ dead, id ∉ g.validate.reachable := by decide +kernel
  obtain ⟨hreachable, -, -, hissues, -, htotal, -⟩ :=
    validate_without_dead g hclosed hnames dead hdead
  refine ⟨hclosed, hnames, hdead, by decide +kernel, ?_, ?_, issuesOf_detached, ?_⟩
  · with_reducible exact hreachable
  · with_reducible exact htotal
  · with_reducible rw [hissues, issuesOf_detached]
    decide +kernel

end Graph

end PipelineGraph
