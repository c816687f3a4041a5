import Mathlib.Algebra.GroupWithZero.Nat
import PipelineGraph.Proofs.ConnectReport
import PipelineGraph.Proofs.Search

namespace PipelineGraph

namespace IssueCounts

theorem ofList_eq (issues : List Issue) : ofList issues =
    { errors := issues.countP fun i ↦ i.severity = .error
      warnings := issues.countP fun i ↦ i.severity = .warning
      infos := issues.countP fun i ↦ i.severity = .info } := by
  have hadd (a b : IssueCounts) : a + b =
      ⟨a.errors + b.errors, a.warnings + b.warnings, a.infos + b.infos⟩ := rfl
  suffices h : ∀ c : IssueCounts, issues.foldl (fun c i ↦ c + ofSeverity i.severity) c =
      c + ⟨issues.countP fun i ↦ i.severity = .error, issues.countP fun i ↦ i.severity = .warning,
        issues.countP fun i ↦ i.severity = .info⟩ by
    rw [ofList, h, hadd]
    simp
  induction issues with
  | nil => exact fun c ↦ rfl
  | cons i issues ih =>
    intro c
    rw [List.foldl_cons, ih]
    cases hi : i.severity <;> simp [hadd, ofSeverity, hi] <;> omega

theorem ofList_append (l l' : List Issue) : ofList (l ++ l') = ofList l + ofList l' := by
  simp only [ofList_eq, List.countP_append]
  rfl

theorem ofList_of_errors {issues : List Issue} (h : ∀ i ∈ issues, i.severity = .error) :
    ofList issues = { errors := issues.length } := by
  have hnone {s : Severity} (hs : s ≠ .error) :
      (issues.countP fun i ↦ i.severity = s) = 0 := by
    refine List.countP_eq_zero.2 fun i hi ↦ ?_
    rw [h i hi, decide_eq_true_eq]
    exact hs.symm
  rw [ofList_eq, hnone (s := .warning) nofun, hnone (s := .info) nofun]
  rw [List.countP_eq_length.2 fun i hi ↦ decide_eq_true (h i hi)]

end IssueCounts

namespace Report

variable {r : Report}

theorem counts_of_mem {e : NodeId × List Issue} (he : e ∈ r.issues.entries) :
    r.counts e.1 = .ofList e.2 := by
  rw [counts, issuesOf, OrderedMap.get?_eq_some_iff.2 he, Option.getD_some]

theorem total_eq (r : Report) : r.total = .ofList r.issues.values.flatten := by
  suffices h : ∀ l ⊆ r.issues.entries, ∀ before : List Issue,
      l.foldl (fun sum e ↦ sum + r.counts e.1) (.ofList before) =
        .ofList (before ++ (l.map Prod.snd).flatten) by
    rw [total, OrderedMap.keys, List.foldl_map]
    exact h _ (List.Subset.refl _) []
  intro l hl
  induction l with
  | nil => simp
  | cons e l ih =>
    intro before
    obtain ⟨he, hl⟩ := List.cons_subset.1 hl
    rw [List.foldl_cons, counts_of_mem he, ← IssueCounts.ofList_append, ih hl, List.map_cons,
      List.flatten_cons, List.append_assoc]

theorem isValid_iff_errors : r.isValid = true ↔ r.total.errors = 0 := by
  rw [total_eq, IssueCounts.ofList_eq, List.countP_eq_zero]
  simp only [isValid, List.all_eq_true, decide_eq_true_eq, List.mem_flatten]
  constructor
  · intro h i hi
    obtain ⟨issues, hissues, hi⟩ := hi
    exact h issues hissues i hi
  · intro h issues hissues i hi
    exact h i ⟨issues, hissues, hi⟩

theorem skippedLines_eq (r : Report) (g : Graph) : r.skippedLines g =
    if r.skipped g = [] then []
    else ["skipped (not reachable): " ++ ", ".intercalate (r.skipped g)] := by
  unfold skippedLines
  cases hnames : r.skipped g with
  | nil => rfl
  | cons name names => rw [if_neg (List.cons_ne_nil _ _)]

end Report

theorem flatMap_filter_of_nil {α β : Type} {l : List α} {p : α → Bool} {f : α → List β}
    (h : ∀ a ∈ l, ¬ p a = true → f a = []) : (l.filter p).flatMap f = l.flatMap f := by
  induction l with
  | nil => rfl
  | cons a l ih =>
    obtain ⟨ha, hl⟩ := List.forall_mem_cons.1 h
    by_cases hp : p a = true
    · rw [List.filter_cons_of_pos hp, List.flatMap_cons, ih hl, List.flatMap_cons]
    · rw [List.filter_cons_of_neg hp, ih hl, List.flatMap_cons, ha hp, List.nil_append]

namespace Graph

variable {g : Graph} {n : Node}

/-- What is put together from the entries of the report can as well be put together from the nodes
of the graph, since those without an entry have no issues. -/
theorem flatMap_entries_validate {α : Type} (f : NodeId → List Issue → List α)
    (hf : ∀ id, f id [] = []) :
    g.validate.issues.entries.flatMap (fun e ↦ f e.1 e.2) =
      g.nodeList.flatMap fun n ↦ f n.id (g.validate.issuesOf n.id) := by
  have hissues : ∀ n ∈ g.failingNodes, nodeIssues g g.reachable n = g.validate.issuesOf n.id := by
    intro n hn
    obtain ⟨hmem, hfails⟩ := List.mem_filter.1 hn
    rw [issuesOf_validate hmem, if_pos (of_decide_eq_true hfails).1]
  calc g.validate.issues.entries.flatMap (fun e ↦ f e.1 e.2)
      = g.failingNodes.flatMap fun n ↦ f n.id (nodeIssues g g.reachable n) := by
        rw [entries_validate, List.flatMap_map]
    _ = g.failingNodes.flatMap fun n ↦ f n.id (g.validate.issuesOf n.id) :=
        List.flatMap_congr fun n hn ↦ by rw [hissues n hn]
    _ = g.nodeList.flatMap fun n ↦ f n.id (g.validate.issuesOf n.id) :=
        flatMap_filter_of_nil fun n hn hfine ↦ by
          have hmem : n ∉ g.failingNodes := fun h ↦ hfine (List.mem_filter.1 h).2
          rw [issuesOf_of_not_failing hn hmem, hf]

theorem severity_of_mem_issuesOf (hn : n ∈ g.nodeList) {i : Issue}
    (hi : i ∈ g.validate.issuesOf n.id) : i.severity = .error := by
  rw [issuesOf_validate hn] at hi
  split at hi
  · obtain ⟨input, -, hi⟩ := List.mem_filterMap.1 hi
    obtain ⟨fault, -, rfl⟩ := Option.map_eq_some_iff.1 hi
    rfl
  · exact nomatch hi

theorem counts_validate (hn : n ∈ g.nodeList) :
    g.validate.counts n.id = { errors := (g.validate.issuesOf n.id).length } :=
  IssueCounts.ofList_of_errors fun _ ↦ severity_of_mem_issuesOf hn

theorem flatten_values_validate (g : Graph) :
    g.validate.issues.values.flatten = g.nodeList.flatMap fun n ↦ g.validate.issuesOf n.id :=
  flatMap_entries_validate (fun _ issues ↦ issues) fun _ ↦ rfl

theorem total_validate (g : Graph) :
    g.validate.total = { errors := (g.nodeList.flatMap fun n ↦ g.validate.issuesOf n.id).length } := by
  rw [Report.total_eq, flatten_values_validate]
  refine IssueCounts.ofList_of_errors fun i hi ↦ ?_
  obtain ⟨n, hn, hi⟩ := List.mem_flatMap.1 hi
  exact severity_of_mem_issuesOf hn hi

theorem issueLines_validate (g : Graph) :
    g.validate.issueLines g = g.nodeList.flatMap fun n ↦
      (g.validate.issuesOf n.id).map fun i ↦ "error: [" ++ n.name ++ "] " ++ i.message := by
  have hentries := flatMap_entries_validate (g := g) (fun id issues ↦ issues.map fun i ↦
    i.severity.tag ++ ": [" ++ ((g.node? id).map (·.name)).getD "<removed>" ++ "] " ++ i.message)
    fun _ ↦ rfl
  refine hentries.trans (List.flatMap_congr fun n hn ↦ List.map_congr_left fun i hi ↦ ?_)
  have hnode : g.node? n.id = some n := node?_eq_some_iff.2 ⟨hn, rfl⟩
  have htag : Severity.error.tag ++ ": [" = "error: [" := by decide +kernel
  rw [hnode, severity_of_mem_issuesOf hn hi, htag]
  rfl

/-- Where edges end on nodes, every node is either reached or skipped. -/
theorem length_reachable_add (hg : g.Closed) :
    g.reachable.length + (g.nodeList.filter fun n ↦ ¬ g.OnControlPath n.id).length =
      g.nodes.size := by
  have hreached : g.reachable.Perm ((g.nodeList.filter fun n ↦ g.OnControlPath n.id).map (·.id)) := by
    refine (List.perm_ext_iff_of_nodup g.nodup_reachable ?_).2 fun id ↦ ?_
    · exact (List.filter_sublist.map _).nodup g.nodup_nodeIds
    · rw [mem_reachable, List.mem_map]
      simp only [List.mem_filter, decide_eq_true_eq]
      constructor
      · intro hpath
        obtain ⟨n, hn, rfl⟩ := mem_nodes_iff.1 ((flowClosed_nodes hg).of_onControlPath hpath)
        exact ⟨n, ⟨hn, hpath⟩, rfl⟩
      · intro h
        obtain ⟨n, ⟨-, hpath⟩, rfl⟩ := h
        exact hpath
  have hsplit := List.length_eq_length_filter_add (l := g.nodeList)
    fun n ↦ decide (g.OnControlPath n.id)
  simp only [decide_not]
  rw [hreached.length_eq, List.length_map, ← hsplit, nodeList, OrderedMap.values, List.length_map,
    OrderedMap.size]

/-- The text of a report on a graph whose edges end on nodes. It tells of every issue under the name
of its node, in the order of the graph and for each node in the order of its inputs. If there are
nodes that control flow does not reach, their names are listed next. The numbers at the end add up:
every node is reached or listed as skipped, and there are as many errors as issues, which is the sum
of what is counted for each node, and none exactly if the report is valid. -/
theorem render_adds_up (g : Graph) (hg : g.Closed) :
    let r := g.validate
    let told := g.nodeList.flatMap fun n ↦ (r.issuesOf n.id).map fun i ↦ (n, i)
    let skipped := g.nodeList.filter fun n ↦ ¬ g.OnControlPath n.id
    r.render g = "\n".intercalate
        (told.map (fun (n, i) ↦ "error: [" ++ n.name ++ "] " ++ i.message) ++
        (if skipped = [] then [] else
          ["skipped (not reachable): " ++ ", ".intercalate (skipped.map (·.name))]) ++
        [toString g.nodes.size ++ " nodes, " ++ toString r.reachable.length ++ " reachable, " ++
          toString r.total.errors ++ " errors, " ++ toString r.total.warnings ++ " warnings"]) ++
      "\n" ∧
    told.map Prod.snd = r.issues.values.flatten ∧
    (∀ n ∈ g.nodeList, r.issuesOf n.id =
      if g.OnControlPath n.id then n.ports.dataInputs.filterMap (g.issueAt? n) else []) ∧
    r.reachable.length + skipped.length = g.nodes.size ∧
    r.total.errors = told.length ∧
    r.total.errors = (g.nodeList.map fun n ↦ (r.counts n.id).errors).sum ∧
    r.total.warnings = 0 ∧ (r.total.errors = 0 ↔ r.isValid = true) := by
  intro r told skipped
  have htold : told.map Prod.snd = g.nodeList.flatMap fun n ↦ r.issuesOf n.id := by
    simp [told, List.map_flatMap, Function.comp_def]
  have htotal : r.total = { errors := told.length } := by
    rw [← List.length_map Prod.snd, htold]
    exact total_validate g
  refine ⟨?_, ?_, ?_, length_reachable_add hg, ?_, ?_, ?_, Report.isValid_iff_errors.symm⟩
  · have hskipped : r.skipped g = skipped.map (·.name) := by
      simp only [Report.skipped, r, validate, skipped, mem_reachable]
    have hlines : r.issueLines g =
        told.map fun (n, i) ↦ "error: [" ++ n.name ++ "] " ++ i.message := by
      rw [issueLines_validate]
      simp [told, List.map_flatMap, Function.comp_def, r]
    rw [Report.render, hlines, Report.skippedLines_eq, hskipped]
    simp only [List.map_eq_nil_iff, Report.summaryLine]
  · rw [htold, flatten_values_validate]
  · intro n hn
    rw [issuesOf_validate hn]
    rfl
  · rw [htotal]
  · have hcounts : ∀ n ∈ g.nodeList, (r.counts n.id).errors = (r.issuesOf n.id).length := by
      intro n hn
      rw [counts_validate hn]
    rw [htotal, List.map_congr_left hcounts, ← List.length_flatMap, ← htold, List.length_map]
  · rw [htotal]

theorem render_adds_up_detached :
    let g := ofSnapshot detached
    let r := g.validate
    let skipped := g.nodeList.filter fun n ↦ ¬ g.OnControlPath n.id
    g.Closed ∧ skipped.map (·.name) = ["supplier", "last"] ∧
    r.reachable.length + skipped.length = g.nodes.size ∧
    r.total.errors = (g.nodeList.map fun n ↦ (r.counts n.id).errors).sum ∧
    r.total.warnings = 0 ∧ (r.total.errors = 0 ↔ r.isValid = true) ∧
    r.total.errors = 3 ∧
    r.render g =
      "error: [user] Source node \"supplier\" is not connected to start node\n" ++
      "error: [user] Source node \"supplier\" is not connected to start node\n" ++
      "error: [user] Source node \"last\" is not connected to start node\n" ++
      "skipped (not reachable): supplier, last\n" ++
      "4 nodes, 2 reachable, 3 errors, 0 warnings\n" := by
  intro g r skipped
  have hclosed : g.Closed := (wellFormed_ofSnapshot detached).closed
  obtain ⟨-, -, -, hnodes, -, herrors, hwarnings, hvalid⟩ := render_adds_up g hclosed
  exact ⟨hclosed, by decide +kernel, hnodes, herrors, hwarnings, hvalid, by decide +kernel,
    by decide +kernel⟩

end Graph

end PipelineGraph
