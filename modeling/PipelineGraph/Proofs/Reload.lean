import PipelineGraph.Proofs.Integrity

namespace PipelineGraph

theorem OrderedMap.index_values {κ α : Type} [DecidableEq κ] {key : α → κ} {m : OrderedMap κ α}
    (h : m.Keyed key) : index key m.values = m := by
  have hentries : m.values.map (fun a ↦ (key a, a)) = m.entries := h.entries_eq.symm
  refine OrderedMap.ext ?_
  rw [index, hentries]
  exact entries_ofList m.nodup_keys

namespace Graph

variable {g h : Graph}

theorem accepts_congr (hn : g.nodes = h.nodes) : g.accepts = h.accepts := by
  funext e
  simp only [accepts, port?, node?, hn]

/-- What is loaded from the snapshot of a well-formed graph is the graph itself. -/
theorem WellFormed.ofSnapshot_snapshot (hg : g.WellFormed) : ofSnapshot g.snapshot = g := by
  have hnodes : (ofSnapshot g.snapshot).nodes = g.nodes := OrderedMap.index_values g.nodes_keyed
  refine Graph.ext hnodes ?_
  have hkept : g.edgeList.filter (ofSnapshot g.snapshot).accepts = g.edgeList := by
    refine List.filter_eq_self.2 fun e he ↦ ?_
    rw [accepts_congr hnodes]
    exact accepts_iff_joins.2 (hg.joins e he)
  calc (ofSnapshot g.snapshot).edges
      = .index Edge.id (g.edgeList.filter (ofSnapshot g.snapshot).accepts) := rfl
    _ = .index Edge.id g.edgeList := by rw [hkept]
    _ = g.edges := OrderedMap.index_values g.edges_keyed

end Graph

namespace Editor

/-- Loading any snapshot gives a graph that is its own normal form, and so is every graph that an
editor can arrive at: loading its snapshot into any editor gives it back. -/
theorem load_snapshot_run (s : Snapshot) (settings : Settings) (palette : Palette)
    (naming : NamingPolicy) (ids : IdSupply) (calls : List EditorCall)
    (hfresh : (new settings palette naming ids).Throughout FreshCall calls) (other : Editor) :
    Graph.ofSnapshot (Graph.ofSnapshot s).snapshot = Graph.ofSnapshot s ∧
      (other.load ((new settings palette naming ids).run calls).graph.snapshot).graph =
        ((new settings palette naming ids).run calls).graph := by
  have hsound : ((new settings palette naming ids).run calls).Sound :=
    run_preserves (fun _ _ ↦ Sound.call) hfresh (sound_new settings palette naming ids)
  exact ⟨(Graph.wellFormed_ofSnapshot s).ofSnapshot_snapshot, hsound.graph.ofSnapshot_snapshot⟩

def untidy : Snapshot :=
  let n := (Node.newStart "a" (.ofStream .ofNat)).1
  ⟨[n, { n with name := "b" }], [{
    id := ⟨.ofNat 900⟩
    layer := .control
    source := ⟨n.id, n.ports.controlOutput.id⟩
    target := ⟨⟨.ofNat 901⟩, ⟨.ofNat 902⟩⟩ }]⟩

theorem load_snapshot_run_session :
    (new {} .empty uniqueName (.ofStream .ofNat)).Throughout FreshCall session ∧
    (Graph.ofSnapshot (Graph.ofSnapshot untidy).snapshot = Graph.ofSnapshot untidy ∧
      ((new {} .empty uniqueName (.ofStream .ofNat)).load
        ((new {} .empty uniqueName (.ofStream .ofNat)).run session).graph.snapshot).graph =
          ((new {} .empty uniqueName (.ofStream .ofNat)).run session).graph) ∧
    (Graph.ofSnapshot untidy).nodeList.map Node.name = ["b"] ∧
    (Graph.ofSnapshot untidy).edgeList.length = 0 := by
  have hfresh : (new {} .empty uniqueName (.ofStream .ofNat)).Throughout FreshCall session := by
    decide +kernel
  exact ⟨hfresh, load_snapshot_run untidy _ _ _ _ _ hfresh _, by decide +kernel, by decide +kernel⟩

end Editor

end PipelineGraph
