import PipelineGraph.Proofs.Removal
import PipelineGraph.Proofs.Resolution

namespace PipelineGraph

open Expression

namespace Graph

variable {g h : Graph} {ns : List Node} {es : List Edge}

/-- The second graph is the first with nodes and edges appended. No new edge leads back. -/
structure Extends (g h : Graph) (ns : List Node) (es : List Edge) : Prop where
  nodes : h.nodeList = g.nodeList ++ ns
  edges : h.edgeList = g.edgeList ++ es
  targets : ∀ e ∈ es, e.target.node ∉ g.nodes

namespace Extends

theorem keeps_node (hx : g.Extends h ns es) {n : Node} (hn : n ∈ g.nodeList) : n ∈ h.nodeList := by
  rw [hx.nodes]
  exact List.mem_append_left _ hn

theorem controlPath (hx : g.Extends h ns es) {m k : NodeId} (hpath : g.ControlPath m k) :
    h.ControlPath m k := by
  apply hpath.mono
  intro arc harc
  obtain ⟨e, he, hends⟩ := mem_controlArcs.1 harc
  apply mem_controlArcs.2
  rw [hx.edges]
  exact ⟨e, List.mem_append_left _ he, hends⟩

/-- Where it ends at an old node, a path takes old edges only. -/
theorem of_controlPath (hx : g.Extends h ns es) (hg : g.Closed) {m k : NodeId}
    (hpath : h.ControlPath m k) (hk : k ∈ g.nodes) : m ∈ g.nodes ∧ g.ControlPath m k := by
  induction hpath with
  | refl => exact ⟨hk, .refl m⟩
  | step _ arc ih =>
    obtain ⟨e, he, hlayer, rfl, rfl⟩ := mem_controlArcs.1 arc
    rw [hx.edges] at he
    rcases List.mem_append.1 he with he | he
    · obtain ⟨hm, hpath⟩ := ih (hg e he).1
      exact ⟨hm, hpath.step (mem_controlArcs.2 ⟨e, he, hlayer, rfl, rfl⟩)⟩
    · exact absurd hk (hx.targets e he)

theorem mem_nodeList (hx : g.Extends h ns es) {n : Node} (hn : n ∈ h.nodeList)
    (hid : n.id ∈ g.nodes) : n ∈ g.nodeList := by
  obtain ⟨m, hm, he⟩ := mem_nodes_iff.1 hid
  rwa [← eq_of_id_eq (hx.keeps_node hm) hn he]

theorem onControlPath_iff (hx : g.Extends h ns es) (hg : g.Closed) {id : NodeId}
    (hid : id ∈ g.nodes) : h.OnControlPath id ↔ g.OnControlPath id := by
  constructor
  · rintro ⟨start, hstart, hkind, hpath⟩
    obtain ⟨hmem, hpath⟩ := hx.of_controlPath hg hpath hid
    exact ⟨start, hx.mem_nodeList hstart hmem, hkind, hpath⟩
  · rintro ⟨start, hstart, hkind, hpath⟩
    exact ⟨start, hx.keeps_node hstart, hkind, hx.controlPath hpath⟩

theorem nodeNamed?_of_some (hx : g.Extends h ns es) {name : String} {source : Node}
    (hsource : g.nodeNamed? name = some source) : h.nodeNamed? name = some source := by
  rw [nodeNamed?_of_append hx.nodes, hsource, Option.some_or]

theorem nodeNamed?_of_none (hx : g.Extends h ns es) {name : String}
    (hnone : g.nodeNamed? name = none) : h.nodeNamed? name = ns.find? fun n ↦ n.name = name := by
  rw [nodeNamed?_of_append hx.nodes, hnone, Option.none_or]

theorem agreesOn (hx : g.Extends h ns es) (hg : g.Closed) {name : String} {source : Node}
    (hsource : g.nodeNamed? name = some source) : g.AgreesOn h name := by
  refine ⟨(hx.nodeNamed?_of_some hsource).trans hsource.symm, fun source' hsource' ↦ ?_⟩
  have hmem : source' ∈ g.nodeList := List.mem_of_find?_eq_some hsource'
  exact hx.onControlPath_iff hg (mem_nodes_iff.2 ⟨source', hmem, rfl⟩)

/-- The fault of an input stays, unless it was that a name is missing which a new node has. -/
theorem bindingFault?_eq_or (hx : g.Extends h ns es) (hg : g.Closed) (n : Node) (input : Port) :
    PipelineGraph.bindingFault? h h.reachable n input =
        PipelineGraph.bindingFault? g g.reachable n input ∨
      ∃ m ∈ ns, PipelineGraph.bindingFault? g g.reachable n input = some (.unknownNode m.name) := by
  by_cases htaken : ∃ r, ¬ Literal input.valueType (n.boundText input) ∧
      Names (n.boundText input) r ∧ g.nodeNamed? r.node = none ∧ ∃ m ∈ ns, m.name = r.node
  · obtain ⟨r, hliteral, hr, hnone, m, hm, hname⟩ := htaken
    right
    refine ⟨m, hm, ?_⟩
    rw [hname]
    exact (FirstFault.unknownNode hliteral hr hnone).bindingFault?_eq
  · left
    refine bindingFault?_congr fun hliteral r hr ↦ ?_
    cases hsource : g.nodeNamed? r.node with
    | some source => exact hx.agreesOn hg hsource
    | none =>
      refine ⟨?_, fun source hs ↦ nomatch hsource.symm.trans hs⟩
      rw [hx.nodeNamed?_of_none hsource, hsource, List.find?_eq_none]
      intro m hm hname
      exact htaken ⟨r, hliteral, hr, hsource, m, hm, of_decide_eq_true hname⟩

theorem supplies (hx : g.Extends h ns es) (hg : g.Closed) {n : Node} {input : Port}
    (hs : g.Supplies n input) : h.Supplies n input := by
  rcases hx.bindingFault?_eq_or hg n input with heq | ⟨m, -, heq⟩
  · exact bindingFault?_eq_none_iff.1 (heq.trans (bindingFault?_eq_none_iff.2 hs))
  · rw [bindingFault?_eq_none_iff.2 hs] at heq
    cases heq

end Extends

end Graph

/-- An issue stays as it is, unless it is that the name of one of the nodes is missing. Then it may
go, or become another one of the same input. -/
def Issue.Revises (ns : List Node) (i : Issue) (revised : Option Issue) : Prop :=
  revised = some i ∨ (∃ m ∈ ns, i.fault = .unknownNode m.name) ∧ ∀ j ∈ revised, j.input = i.input

def Issue.ReviseAll (ns : List Node) (before after : List Issue) : Prop :=
  ∃ revised, List.Forall₂ (Issue.Revises ns) before revised ∧ after = revised.reduceOption

namespace Graph.Extends

variable {g h : Graph} {ns : List Node} {es : List Edge}

theorem reviseAll_nodeIssues (hx : g.Extends h ns es) (hg : g.Closed) (n : Node) :
    Issue.ReviseAll ns (nodeIssues g g.reachable n) (nodeIssues h h.reachable n) := by
  unfold nodeIssues
  induction n.ports.dataInputs with
  | nil => exact ⟨[], .nil, rfl⟩
  | cons input inputs ih =>
    obtain ⟨revised, hrevised, hafter⟩ := ih
    rw [List.filterMap_cons, List.filterMap_cons]
    rcases hx.bindingFault?_eq_or hg n input with heq | ⟨m, hm, heq⟩
    · rw [heq, hafter]
      cases PipelineGraph.bindingFault? g g.reachable n input with
      | none => exact ⟨revised, hrevised, rfl⟩
      | some fault => exact ⟨_ :: revised, .cons (.inl rfl) hrevised, rfl⟩
    · rw [heq, hafter]
      cases PipelineGraph.bindingFault? h h.reachable n input with
      | none => exact ⟨none :: revised, .cons (.inr ⟨⟨m, hm, rfl⟩, nofun⟩) hrevised, rfl⟩
      | some fault =>
        refine ⟨some _ :: revised, .cons (.inr ⟨⟨m, hm, rfl⟩, fun j hj ↦ ?_⟩) hrevised, rfl⟩
        cases hj
        rfl

theorem reviseAll_issuesOf (hx : g.Extends h ns es) (hg : g.Closed) {n : Node}
    (hn : n ∈ g.nodeList) :
    Issue.ReviseAll ns (g.validate.issuesOf n.id) (h.validate.issuesOf n.id) := by
  have hpath := hx.onControlPath_iff hg (mem_nodes_iff.2 ⟨n, hn, rfl⟩)
  rw [issuesOf_validate hn, issuesOf_validate (hx.keeps_node hn), if_congr hpath rfl rfl]
  split
  · exact hx.reviseAll_nodeIssues hg n
  · exact ⟨[], .nil, rfl⟩

end Graph.Extends

end PipelineGraph
