import PipelineGraph.Proofs.Calls
import PipelineGraph.Proofs.Removal

namespace PipelineGraph

namespace Graph

variable {g : Graph}

theorem mem_nodes_addNode {n : Node} {id : NodeId} :
    id ∈ (g.addNode n).nodes ↔ id ∈ g.nodes ∨ id = n.id := OrderedMap.mem_insert

theorem mem_edges_addEdge {e : Edge} {id : EdgeId} :
    id ∈ (g.addEdge e).edges ↔ id ∈ g.edges ∨ id = e.id := OrderedMap.mem_insert

theorem mem_nodes_changeNode {c : NodeChange} {id id' : NodeId} :
    id' ∈ (g.changeNode id c).nodes ↔ id' ∈ g.nodes := OrderedMap.mem_adjust

theorem mem_edges_changeEdge {c : EdgeChange} {id id' : EdgeId} :
    id' ∈ (g.changeEdge id c).edges ↔ id' ∈ g.edges := OrderedMap.mem_adjust

theorem mem_nodes_drag {d : Drag} {pointer : Point} {id : NodeId} :
    id ∈ (d.update g pointer).2.nodes ↔ id ∈ g.nodes :=
  d.update_preserves (P := fun h ↦ id ∈ h.nodes ↔ id ∈ g.nodes)
    (fun _ _ _ _ h ↦ mem_nodes_changeNode.trans h) .rfl pointer

theorem edges_drag (d : Drag) (g : Graph) (pointer : Point) :
    (d.update g pointer).2.edges = g.edges :=
  d.update_preserves (P := fun h ↦ h.edges = g.edges) (fun _ _ _ _ h ↦ h) rfl pointer

theorem mem_edges_connect {source target : Endpoint} {ids : IdSupply} {id : EdgeId}
    (h : id ∈ g.edges) : id ∈ (g.connect source target ids).2.1.edges := by
  unfold connect
  split
  · exact h
  · exact mem_edges_addEdge.2 (.inl h)

theorem mem_nodes_addAll {ns : List Node} {es : List Edge} {id : NodeId} :
    id ∈ (g.addAll ns es).nodes ↔ id ∈ g.nodes ∨ id ∈ ns.map (·.id) := by
  rw [addAll, nodes_foldl_addEdge]
  induction ns generalizing g with
  | nil => simp
  | cons n ns ih =>
    rw [List.foldl_cons, ih, mem_nodes_addNode, List.map_cons, List.mem_cons, or_assoc]

theorem mem_edges_addAll {ns : List Node} {es : List Edge} {id : EdgeId} :
    id ∈ (g.addAll ns es).edges ↔ id ∈ g.edges ∨ id ∈ es.map (·.id) := by
  rw [addAll, ← edges_foldl_addNode g ns]
  generalize ns.foldl addNode g = g
  induction es generalizing g with
  | nil => simp
  | cons e es ih =>
    rw [List.foldl_cons, ih, mem_edges_addEdge, List.map_cons, List.mem_cons, or_assoc]

end Graph

namespace Clipboard

/-- What a paste selects is in the graph even if it overwrites what was there. -/
theorem within_paste {c : Clipboard} {g : Graph} {s : Selection} (h : s.current.Within g)
    (naming : NamingPolicy) (offset : Point) (ids : IdSupply) :
    (c.paste g s naming offset ids).2.2.1.current.Within (c.paste g s naming offset ids).2.1 := by
  cases hne : c.isEmpty with
  | true => rwa [paste, hne]
  | false =>
    obtain ⟨twins, es, dropped, ids', -, -, -, -, heq⟩ := exists_paste_eq hne g s naming offset ids
    rw [heq, Selection.current_batch]
    refine ⟨fun id hid ↦ ?_, fun id hid ↦ ?_⟩
    · refine Graph.mem_nodes_addAll.2 (.inr ?_)
      rw [List.map_map]
      exact (Selected.mem_addAll.1 hid).resolve_left List.not_mem_nil
    · exact Graph.mem_edges_addAll.2
        (.inr ((Selected.mem_addAll.1 hid).resolve_left List.not_mem_nil))

end Clipboard

namespace Editor

def SelectionLive (e : Editor) : Prop := e.selection.current.Within e.graph

theorem current_deleteSelected (g : Graph) (s : Selection) :
    (deleteSelected g s).2.2.current = {} := Selection.current_batch _ _

theorem SelectionLive.deleteNode {e : Editor} (h : e.SelectionLive) (id : NodeId) :
    (e.deleteNode id).2.SelectionLive := by
  change (e.selection.change _).current.Within (e.graph.removeNodes [id]).2
  rw [Selection.current_change]
  exact h.purge (fun id' hid hr ↦ (Graph.mem_nodes_removeNodes _ _ _).2 ⟨hid, hr⟩)
    fun id' hid hr ↦ (Graph.mem_edges_removeNodes _ _ _).2 ⟨hid, hr⟩

theorem SelectionLive.deleteEdge {e : Editor} (h : e.SelectionLive) (id : EdgeId) :
    (e.deleteEdge id).2.SelectionLive := by
  change (e.selection.change _).current.Within (e.graph.removeEdge id).2
  rw [Selection.current_change]
  refine h.purge (fun id' hid _ ↦ hid) fun id' hid hr ↦ ?_
  refine (Graph.mem_edges_removeEdge _ _ _).2 ⟨hid, fun he ↦ hr ?_⟩
  obtain ⟨x, hx⟩ := Graph.mem_edges_iff.1 (he ▸ hid)
  have hfound : e.graph.edge? id = some x := Graph.edge?_eq_some_iff.2 hx
  change id' ∈ ((e.graph.edge? id).map (·.id)).toList
  rw [hfound]
  exact List.mem_singleton.2 (he.trans hx.2.symm)

/-- Selection calls made from outside add only what is in the graph at that moment. -/
def AddsOnlyCall (e : Editor) (c : EditorCall) : Prop := c.script.AddsOnly e.graph e.selection

instance (e : Editor) (c : EditorCall) : Decidable (e.AddsOnlyCall c) :=
  inferInstanceAs (Decidable (c.script.AddsOnly e.graph e.selection))

theorem SelectionLive.call {e : Editor} {c : EditorCall} (hadds : e.AddsOnlyCall c)
    (h : e.SelectionLive) : (e.call c).SelectionLive := by
  have heffect : e.Effect c _ _ _ _ := e.becomes_call c
  unfold SelectionLive at h ⊢
  generalize (e.call c).graph = g', (e.call c).selection = selection,
    (e.call c).clipboard = clipboard, (e.call c).ids = ids at heffect ⊢
  cases heffect with
  | keep => exact h
  | select script hs =>
    refine Selected.within_run h (hs.elim (fun he ↦ ?_) fun hs ↦ hs.2)
    subst he
    exact hadds
  | addFunction f position =>
    exact h.mono (fun _ hid ↦ Graph.mem_nodes_addNode.2 (.inl hid)) fun _ hid ↦ hid
  | addStart => exact h.mono (fun _ hid ↦ Graph.mem_nodes_addNode.2 (.inl hid)) fun _ hid ↦ hid
  | changeNode id change => exact h.mono (fun _ ↦ Graph.mem_nodes_changeNode.2) fun _ hid ↦ hid
  | changeEdge id change => exact h.mono (fun _ hid ↦ hid) fun _ ↦ Graph.mem_edges_changeEdge.2
  | drag d pointer =>
    have hedges := Graph.edges_drag d e.graph pointer
    exact h.mono (fun _ ↦ Graph.mem_nodes_drag.2) fun _ hid ↦ hedges.symm ▸ hid
  | connect source target =>
    have hnodes := Graph.nodes_connect e.graph source target e.ids
    exact h.mono (fun _ hid ↦ hnodes.symm ▸ hid) fun _ ↦ Graph.mem_edges_connect
  | deleteNode id => exact SelectionLive.deleteNode h id
  | deleteEdge id => exact SelectionLive.deleteEdge h id
  | deleteSelected => exact current_deleteSelected .. ▸ Selected.within_empty _
  | copy => exact h
  | cut => exact current_deleteSelected .. ▸ Selected.within_empty _
  | paste => exact Clipboard.within_paste h _ _ _
  | load s =>
    rw [Selection.current_change]
    exact Selected.within_retainExisting _ _

/-- After any sequence of calls, loads of arbitrary snapshots included, all that is selected is in
the graph, if selection calls from outside add nothing else. -/
theorem selectionLive_run (settings : Settings) (palette : Palette) (naming : NamingPolicy)
    (ids : IdSupply) (calls : List EditorCall)
    (hadds : (new settings palette naming ids).Throughout AddsOnlyCall calls) :
    ((new settings palette naming ids).run calls).selection.current.Within
      ((new settings palette naming ids).run calls).graph :=
  run_preserves (fun _ _ ↦ SelectionLive.call) hadds (Selected.within_empty _)

def purges : List EditorCall := [
  .addStart,
  .addFunction ⟨"f", .ofList [("x", .int32)], .empty⟩ .zero,
  .connect ⟨⟨.ofNat 0⟩, ⟨.ofNat 2⟩⟩ ⟨⟨.ofNat 3⟩, ⟨.ofNat 4⟩⟩,
  .select (.batch
    (.change (.selectNodes [⟨.ofNat 0⟩, ⟨.ofNat 3⟩] false)
      (.change (.selectEdges [⟨.ofNat 7⟩] true) .done)) .done),
  .deleteNode ⟨.ofNat 0⟩,
  .load .empty]

theorem selectionLive_run_purges :
    let e := new {} .empty uniqueName (.ofStream .ofNat)
    e.Throughout AddsOnlyCall purges ∧
    (e.run purges).selection.current.Within (e.run purges).graph ∧
    (e.run (purges.take 4)).selection.current = ⟨[⟨.ofNat 0⟩, ⟨.ofNat 3⟩], [⟨.ofNat 7⟩]⟩ ∧
    (e.run (purges.take 5)).selection.current = ⟨[⟨.ofNat 3⟩], []⟩ ∧
    (e.run purges).selection.current = ⟨[], []⟩ :=
  ⟨by decide +kernel, selectionLive_run _ _ _ _ _ (by decide +kernel), by decide +kernel,
    by decide +kernel, by decide +kernel⟩

end Editor

end PipelineGraph
