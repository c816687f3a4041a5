import PipelineGraph.Proofs.Connection
import PipelineGraph.Proofs.ReportDependence

namespace PipelineGraph

/-- How the issue of an input may change when more nodes are reached: only if it was that the source
is not reached. Then it goes, or tells what is wrong with the output that is wanted from the
source. -/
inductive Issue.Unveils : Option Issue → Option Issue → Prop
  | same (i : Option Issue) : Unveils i i
  | gone {i : Issue} {name : String} (hi : i.fault = .unreachableNode name) : Unveils (some i) none
  | unknownOutput {i : Issue} {name : String} (output : String)
      (hi : i.fault = .unreachableNode name) :
      Unveils (some i) (some { i with fault := .unknownOutput name output })
  | typeMismatch {i : Issue} {name : String} (expected found : ValueType)
      (hi : i.fault = .unreachableNode name) :
      Unveils (some i) (some { i with fault := .typeMismatch expected found })

namespace Graph

variable {g h : Graph} {a b m n k : NodeId}

/-- Where there is one arc more, the paths are the old ones and those that the new arc links. -/
theorem controlPath_iff_of_arc
    (harcs : ∀ arc, arc ∈ h.controlArcs ↔ arc ∈ g.controlArcs ∨ arc = (a, b)) :
    h.ControlPath m k ↔ g.ControlPath m k ∨ g.ControlPath m a ∧ g.ControlPath b k := by
  have hold : g.controlArcs ⊆ h.controlArcs := fun arc harc ↦ (harcs arc).2 (.inl harc)
  have hnew : (a, b) ∈ h.controlArcs := (harcs _).2 (.inr rfl)
  constructor
  · intro hpath
    induction hpath with
    | refl => exact .inl (.refl m)
    | step _ arc ih =>
      rcases (harcs _).1 arc with harc | harc
      · rcases ih with hpath | ⟨hto, hfrom⟩
        · exact .inl (hpath.step harc)
        · exact .inr ⟨hto, hfrom.step harc⟩
      · obtain ⟨rfl, rfl⟩ := Prod.mk.inj harc
        -- Only the last time that the new arc is taken counts.
        rcases ih with hpath | ⟨hto, -⟩
        · exact .inr ⟨hpath, .refl _⟩
        · exact .inr ⟨hto, .refl _⟩
  · intro hpath
    rcases hpath with hpath | ⟨hto, hfrom⟩
    · exact hpath.mono hold
    · exact ((hto.mono hold).step hnew).trans (hfrom.mono hold)

theorem onControlPath_iff_of_arc (hstarts : h.startIds = g.startIds)
    (harcs : ∀ arc, arc ∈ h.controlArcs ↔ arc ∈ g.controlArcs ∨ arc = (a, b)) :
    h.OnControlPath n ↔ g.OnControlPath n ∨ g.OnControlPath a ∧ g.ControlPath b n := by
  simp only [onControlPath_iff_startIds, hstarts, controlPath_iff_of_arc harcs]
  constructor
  · intro hn
    obtain ⟨s, hs, hpath | ⟨hto, hfrom⟩⟩ := hn
    · exact .inl ⟨s, hs, hpath⟩
    · exact .inr ⟨⟨s, hs, hto⟩, hfrom⟩
  · intro hn
    rcases hn with ⟨s, hs, hpath⟩ | ⟨⟨s, hs, hto⟩, hfrom⟩
    · exact ⟨s, hs, .inl hpath⟩
    · exact ⟨s, hs, .inr ⟨hto, hfrom⟩⟩

theorem unveils_issueAt? (hnodes : h.nodes = g.nodes)
    (hmore : ∀ n, g.OnControlPath n → h.OnControlPath n) (n : Node) (input : Port) :
    Issue.Unveils (g.issueAt? n input) (h.issueAt? n input) := by
  have hnamed (name : String) : h.nodeNamed? name = g.nodeNamed? name := by
    rw [nodeNamed?, nodeList, hnodes, nodeNamed?, nodeList]
  unfold issueAt?
  by_cases hnew : ∃ r source, ¬ Expression.Literal input.valueType (n.boundText input) ∧
      Expression.Names (n.boundText input) r ∧ g.nodeNamed? r.node = some source ∧
      ¬ g.OnControlPath source.id ∧ h.OnControlPath source.id
  · obtain ⟨r, source, hliteral, hr, hsource, hbefore, hafter⟩ := hnew
    have hreached : source.id ∈ h.reachable := mem_reachable.2 hafter
    rw [(FirstFault.unreachableNode hliteral hr hsource hbefore).bindingFault?_eq,
      bindingFault?_eq_of_names hliteral hr, hnamed, hsource]
    dsimp only
    rw [if_neg (not_not.2 hreached)]
    cases source.dataOutput? r.output with
    | none => exact .unknownOutput _ rfl
    | some output =>
      dsimp only
      split
      · exact .typeMismatch _ _ rfl
      · exact .gone rfl
  · rw [bindingFault?_congr (g := g) (h := h)]
    · exact .same _
    · intro hliteral r hr
      refine ⟨hnamed r.node, ?_⟩
      intro source hsource
      constructor
      · intro hafter
        by_contra hbefore
        exact hnew ⟨r, source, hliteral, hr, hsource, hbefore, hafter⟩
      · exact hmore source.id

theorem validate_addEdge_of_data {e : Edge} (hlayer : e.layer = .data) (hnew : e.id ∉ g.edges) :
    (g.addEdge e).validate = g.validate := by
  have harcs : (g.addEdge e).controlArcs = g.controlArcs := by
    simp [controlArcs_addEdge hnew, hlayer]
  have hstarts : (g.addEdge e).startIds = g.startIds := rfl
  have hreachable : (g.addEdge e).reachable = g.reachable := by
    rw [reachable, harcs, hstarts, reachable]
  exact congrArg₂ Report.mk hreachable (sameFlow_addEdge hlayer hnew).agrees.issues

theorem mem_controlArcs_addEdge {e : Edge} (hlayer : e.layer = .control) (hnew : e.id ∉ g.edges)
    (arc : NodeId × NodeId) : arc ∈ (g.addEdge e).controlArcs ↔
      arc ∈ g.controlArcs ∨ arc = (e.source.node, e.target.node) := by
  rw [controlArcs_addEdge hnew, if_pos hlayer, List.mem_append, List.mem_singleton]

theorem mem_reachable_removeEdge {id : EdgeId} (hn : n ∈ (g.removeEdge id).2.reachable) :
    n ∈ g.reachable := by
  rw [mem_reachable] at hn ⊢
  have hstarts : (g.removeEdge id).2.startIds ⊆ g.startIds := List.Subset.refl _
  apply hn.mono hstarts
  intro m k harc _
  obtain ⟨e, he, hends⟩ := mem_controlArcs.1 harc
  rw [edgeList_removeEdge] at he
  exact mem_controlArcs.2 ⟨e, List.mem_of_mem_filter he, hends⟩

/-- Linking two ends on the data layer leaves the report as it is. On the control layer all stays
reached, and what is reached besides are the nodes that paths lead to from the target, if the source
was reached. Of a node that was reached before, an input has a new issue only in the place of one
that its source is not reached, and there may be none any more. Without an edge, no more is
reached. -/
theorem connect_monotone (g : Graph) :
    (∀ (source target : Endpoint) (ids : IdSupply) (id : EdgeId), ids.drawEdge.1 ∉ g.edges →
      (g.connect source target ids).1 = .ok id →
      let h := (g.connect source target ids).2.1
      let r := g.validate
      let r' := h.validate
      ∃ e, e.id = id ∧ e.source = source ∧ e.target = target ∧ h.edgeList = g.edgeList ++ [e] ∧
        (e.layer = .data → r' = r) ∧
        (e.layer = .control →
          (∀ n ∈ r.reachable, n ∈ r'.reachable) ∧
          (∀ n, n ∉ r.reachable → (n ∈ r'.reachable ↔
            source.node ∈ r.reachable ∧ h.ControlPath target.node n)) ∧
          (∀ n, h.ControlPath target.node n ↔ g.ControlPath target.node n) ∧
          ∀ n ∈ g.nodeList, n.id ∈ r.reachable →
            r.issuesOf n.id = n.ports.dataInputs.filterMap (g.issueAt? n) ∧
            r'.issuesOf n.id = n.ports.dataInputs.filterMap (h.issueAt? n) ∧
            ∀ input ∈ n.ports.dataInputs,
              Issue.Unveils (g.issueAt? n input) (h.issueAt? n input))) ∧
    ∀ id, ∀ n ∈ (g.removeEdge id).2.validate.reachable, n ∈ g.validate.reachable := by
  refine ⟨?_, fun id n ↦ mem_reachable_removeEdge⟩
  intro source target ids id hfresh hok
  obtain ⟨layer, hlink⟩ : ∃ layer, g.Linkable source target layer := by
    rcases linkable_or_firstObstacle g source target with hlink | ⟨err, hfirst⟩
    · exact hlink
    · rw [hfirst.connect_eq] at hok
      cases hok
  rw [hlink.connect_eq] at hok ⊢
  dsimp only
  let e : Edge := { id := ids.drawEdge.1, layer, source, target }
  refine ⟨e, Except.ok.inj hok, rfl, rfl, edgeList_addEdge hfresh, ?_, ?_⟩
  · intro hlayer
    exact validate_addEdge_of_data hlayer hfresh
  · intro hlayer
    have harcs := mem_controlArcs_addEdge (e := e) hlayer hfresh
    have hfrom (n : NodeId) :
        (g.addEdge e).ControlPath target.node n ↔ g.ControlPath target.node n := by
      rw [controlPath_iff_of_arc harcs]
      constructor
      · intro hpath
        rcases hpath with hpath | ⟨-, hpath⟩
        · exact hpath
        · exact hpath
      · exact .inl
    have hreached (n : NodeId) : n ∈ (g.addEdge e).reachable ↔
        n ∈ g.reachable ∨ source.node ∈ g.reachable ∧ g.ControlPath target.node n := by
      simp only [mem_reachable]
      exact onControlPath_iff_of_arc rfl harcs
    have hmore : ∀ n, g.OnControlPath n → (g.addEdge e).OnControlPath n := by
      intro n hn
      exact mem_reachable.1 ((hreached n).2 (.inl (mem_reachable.2 hn)))
    refine ⟨fun n hn ↦ (hreached n).2 (.inl hn), ?_, hfrom, ?_⟩
    · intro n hn
      rw [hfrom]
      exact (hreached n).trans (or_iff_right hn)
    · intro n hmem hn
      have hpath := mem_reachable.1 hn
      have hmem' : n ∈ (g.addEdge e).nodeList := hmem
      refine ⟨issuesOf_validate_of_reached hmem hpath,
        issuesOf_validate_of_reached hmem' (hmore n.id hpath), ?_⟩
      intro input _
      exact unveils_issueAt? (g := g) (h := g.addEdge e) rfl hmore n input

/-- A call that control flow reaches wants values from two calls that it does not reach, of which
the first leads to the second. -/
def detached : Snapshot :=
  let (start, ids) := Node.newStart "Start" (.ofStream .ofNat)
  let inputs := .ofList [("x", .int32), ("flag", .bool), ("z", .int32)]
  let (user, ids) := Node.newFunction ⟨"user", inputs, .empty⟩ "user" ids
  let (supplier, ids) :=
    Node.newFunction ⟨"supplier", .empty, .ofList [("y", .int32)]⟩ "supplier" ids
  let (last, _) := Node.newFunction ⟨"last", .empty, .empty⟩ "last" ids
  let user := ((user.bind "x" "supplier.y").bind "flag" "supplier.y").bind "z" "last.w"
  let arc (id : Nat) (m n : Node) : Edge :=
    { id := ⟨.ofNat id⟩
      layer := .control
      source := ⟨m.id, m.ports.controlOutput.id⟩
      target := ⟨n.id, n.ports.controlInput.id⟩ }
  ⟨[user, start, supplier, last], [arc 100 start user, arc 101 supplier last]⟩

theorem issuesOf_detached : (ofSnapshot detached).validate.issuesOf ⟨.ofNat 3⟩ = [
    { input := "x", fault := .unreachableNode "supplier" },
    { input := "flag", fault := .unreachableNode "supplier" },
    { input := "z", fault := .unreachableNode "last" }] := by
  decide +kernel

theorem connect_monotone_detached :
    let g := ofSnapshot detached
    let ids := IdSupply.ofStream fun n ↦ .ofNat (n + 200)
    let start : Endpoint := ⟨⟨.ofNat 0⟩, ⟨.ofNat 2⟩⟩
    let supplier : Endpoint := ⟨⟨.ofNat 9⟩, ⟨.ofNat 10⟩⟩
    let output : Endpoint := ⟨⟨.ofNat 9⟩, ⟨.ofNat 12⟩⟩
    let input : Endpoint := ⟨⟨.ofNat 3⟩, ⟨.ofNat 6⟩⟩
    let h := (g.connect start supplier ids).2.1
    ids.drawEdge.1 ∉ g.edges ∧
    (g.connect start supplier ids).1 = .ok ids.drawEdge.1 ∧
    (g.connect output input ids).1 = .ok ids.drawEdge.1 ∧
    (g.connect output input ids).2.1.validate = g.validate ∧
    g.validate.reachable = [⟨.ofNat 0⟩, ⟨.ofNat 3⟩] ∧
    (∀ n ∈ g.validate.reachable, n ∈ h.validate.reachable) ∧
    h.validate.reachable = [⟨.ofNat 0⟩, ⟨.ofNat 3⟩, ⟨.ofNat 9⟩, ⟨.ofNat 13⟩] ∧
    g.validate.issuesOf ⟨.ofNat 3⟩ = [
      { input := "x", fault := .unreachableNode "supplier" },
      { input := "flag", fault := .unreachableNode "supplier" },
      { input := "z", fault := .unreachableNode "last" }] ∧
    h.validate.issuesOf ⟨.ofNat 3⟩ = [
      { input := "flag", fault := .typeMismatch .bool .int32 },
      { input := "z", fault := .unknownOutput "last" "w" }] := by
  intro g ids start supplier output input h
  have hfresh : ids.drawEdge.1 ∉ g.edges := by decide +kernel
  have hcontrol : (g.connect start supplier ids).1 = .ok ids.drawEdge.1 := by rfl
  have hdata : (g.connect output input ids).1 = .ok ids.drawEdge.1 := by rfl
  obtain ⟨e, -, -, -, hedges, -, hmore⟩ :=
    (connect_monotone g).1 start supplier ids _ hfresh hcontrol
  obtain ⟨f, -, -, -, hedges', hsame, -⟩ :=
    (connect_monotone g).1 output input ids _ hfresh hdata
  have hlayer : e.layer = .control := by
    have hlast : h.edgeList.getLast?.map (·.layer) = some .control := by decide +kernel
    rw [hedges, List.getLast?_concat] at hlast
    exact Option.some.inj hlast
  have hlayer' : f.layer = .data := by
    have hlast : (g.connect output input ids).2.1.edgeList.getLast?.map (·.layer) = some .data := by
      decide +kernel
    rw [hedges', List.getLast?_concat] at hlast
    exact Option.some.inj hlast
  refine ⟨hfresh, hcontrol, hdata, ?_, by decide +kernel, ?_, by decide +kernel, issuesOf_detached,
    by decide +kernel⟩
  · with_reducible exact hsame hlayer'
  · with_reducible exact (hmore hlayer).1

end Graph

end PipelineGraph
