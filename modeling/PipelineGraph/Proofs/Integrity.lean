import PipelineGraph.Proofs.Calls
import PipelineGraph.Proofs.Removal

namespace PipelineGraph

namespace Graph

variable {g : Graph}

theorem wellFormed_ofSnapshot (s : Snapshot) : (ofSnapshot s).WellFormed := by
  refine wellFormed_iff.2 fun e he ↦ ?_
  have hmem := OrderedMap.of_mem_values_index he
  exact accepts_iff_joins.1 (List.mem_filter.1 hmem).2

theorem WellFormed.drag (hg : g.WellFormed) (d : Drag) (pointer : Point) :
    (d.update g pointer).2.WellFormed :=
  d.update_preserves (fun _ _ _ _ hg ↦ hg.changeNode _ _) hg pointer

theorem WellFormed.deleteSelected (hg : g.WellFormed) (s : Selection) :
    (deleteSelected g s).2.1.WellFormed :=
  (hg.removeNodes _).removeEdges _

end Graph

namespace Editor

/-- The graph is well formed, and the clipboard holds a part of some graph that was. -/
structure Sound (e : Editor) : Prop where
  graph : e.graph.WellFormed
  clipboard : ∃ g : Graph, g.WellFormed ∧ e.clipboard.contents.PartOf g

theorem sound_new (settings : Settings) (palette : Palette) (naming : NamingPolicy)
    (ids : IdSupply) : (new settings palette naming ids).Sound :=
  ⟨Graph.wellFormed_empty, .empty, Graph.wellFormed_empty, .slnil, .slnil⟩

theorem Sound.call {e : Editor} {c : EditorCall} (hfresh : e.FreshCall c) (h : e.Sound) :
    (e.call c).Sound := by
  obtain ⟨hg, g, hg₀, hc⟩ := h
  replace hfresh := IdSupply.Fresh.mono hfresh (List.subset_append_left _ _)
  have heffect : e.Effect c _ _ _ _ := e.becomes_call c
  generalize (e.call c).ids = ids at hfresh heffect
  suffices hs : (e.call c).graph.WellFormed ∧
      ∃ g : Graph, g.WellFormed ∧ (e.call c).clipboard.contents.PartOf g from ⟨hs.1, hs.2⟩
  generalize (e.call c).graph = g', (e.call c).selection = selection,
    (e.call c).clipboard = clipboard at heffect ⊢
  cases heffect with
  | keep => exact ⟨hg, g, hg₀, hc⟩
  | select script => exact ⟨hg, g, hg₀, hc⟩
  | addFunction f position =>
    have hdraws := Node.draws_newFunction f (e.naming f.name e.graph) e.ids
    have hnew := Graph.notMem_nodes_of_draws hdraws hfresh
    exact ⟨hg.addNode hnew, g, hg₀, hc⟩
  | addStart =>
    have hdraws := Node.draws_newStart (e.naming e.settings.startName e.graph) e.ids
    have hnew := Graph.notMem_nodes_of_draws hdraws hfresh
    exact ⟨hg.addNode hnew, g, hg₀, hc⟩
  | changeNode id change => exact ⟨hg.changeNode id change, g, hg₀, hc⟩
  | changeEdge id change => exact ⟨hg.changeEdge id change, g, hg₀, hc⟩
  | drag d pointer => exact ⟨hg.drag d pointer, g, hg₀, hc⟩
  | connect source target => exact ⟨hg.connect source target e.ids, g, hg₀, hc⟩
  | deleteNode id => exact ⟨hg.removeNodes [id], g, hg₀, hc⟩
  | deleteEdge id => exact ⟨hg.removeEdge id, g, hg₀, hc⟩
  | deleteSelected => exact ⟨hg.deleteSelected e.selection, g, hg₀, hc⟩
  | copy => exact ⟨hg, e.graph, hg, Clipboard.copied_partOf _ _⟩
  | cut => exact ⟨hg.deleteSelected e.selection, e.graph, hg, Clipboard.copied_partOf _ _⟩
  | paste => exact ⟨Clipboard.wellFormed_paste hc hg₀ hg _ _ _ _ hfresh, g, hg₀, hc⟩
  | load s => exact ⟨Graph.wellFormed_ofSnapshot s, g, hg₀, hc⟩

/-- Whatever is asked of an editor, and whatever snapshots it loads, its graph stays well formed as
long as new identifiers are new. -/
theorem wellFormed_run (settings : Settings) (palette : Palette) (naming : NamingPolicy)
    (ids : IdSupply) (calls : List EditorCall)
    (hfresh : (new settings palette naming ids).Throughout FreshCall calls) :
    ((new settings palette naming ids).run calls).graph.WellFormed :=
  (run_preserves (fun _ _ ↦ Sound.call) hfresh (sound_new settings palette naming ids)).graph

def session : List EditorCall := [
  .addStart,
  .addFunction ⟨"f", .ofList [("x", .int32)], .empty⟩ .zero,
  .connect ⟨⟨.ofNat 0⟩, ⟨.ofNat 2⟩⟩ ⟨⟨.ofNat 3⟩, ⟨.ofNat 4⟩⟩,
  .perform .selectAll,
  .copy,
  .paste,
  .load ⟨[], [{
    id := ⟨.ofNat 900⟩
    layer := .control
    source := ⟨⟨.ofNat 901⟩, ⟨.ofNat 902⟩⟩
    target := ⟨⟨.ofNat 903⟩, ⟨.ofNat 904⟩⟩ }]⟩,
  .paste]

theorem wellFormed_run_session :
    (new {} .empty uniqueName (.ofStream .ofNat)).Throughout FreshCall session ∧
    ((new {} .empty uniqueName (.ofStream .ofNat)).run session).graph.WellFormed ∧
    ((new {} .empty uniqueName (.ofStream .ofNat)).run session).graph.edgeList.length = 1 :=
  ⟨by decide +kernel, wellFormed_run _ _ _ _ _ (by decide +kernel), by decide +kernel⟩

end Editor

end PipelineGraph
