import PipelineGraph.Payload
import PipelineGraph.Proofs.LiveSelection
import PipelineGraph.Proofs.ReportDependence

namespace PipelineGraph

def Node.Moved (m n : Node) : Prop := n = { m with position := n.position }

theorem Node.Moved.redrawn {m n : Node} (h : m.Moved n) : m.Redrawn n := by
  unfold Node.Moved at h
  unfold Node.Redrawn
  rw [h]

namespace Graph

/-- The graphs differ at most in where their nodes stand. -/
structure MovedOnly (g h : Graph) : Prop where
  nodes : List.Forall₂ Node.Moved g.nodeList h.nodeList
  edges : h.edges = g.edges

namespace MovedOnly

variable {g h : Graph}

theorem refl (g : Graph) : g.MovedOnly g := ⟨List.forall₂_same.2 fun _ _ ↦ rfl, rfl⟩

theorem changeNode (hm : g.MovedOnly h) (id : NodeId) (position : Point) :
    g.MovedOnly (h.changeNode id { position := some position }) := by
  refine ⟨?_, hm.edges⟩
  rw [nodeList_changeNode, List.forall₂_map_right_iff]
  refine hm.nodes.imp fun m n hmn ↦ ?_
  split
  · unfold Node.Moved at hmn ⊢
    rw [hmn]
    rfl
  · exact hmn

theorem drag (hm : g.MovedOnly h) (d : Drag) (pointer : Point) :
    g.MovedOnly (d.update h pointer).2 :=
  d.update_preserves (fun _ id _ position hm ↦ hm.changeNode id position) hm pointer

theorem controlArcs_eq (hm : g.MovedOnly h) : h.controlArcs = g.controlArcs := by
  rw [controlArcs, edgeList, hm.edges, controlArcs, edgeList]

theorem sameFlow (hm : g.MovedOnly h) : g.SameFlow h :=
  ⟨hm.nodes.imp fun _ _ ↦ Node.Moved.redrawn, fun arc ↦ by rw [hm.controlArcs_eq]⟩

theorem validate_eq (hm : g.MovedOnly h) : h.validate = g.validate := by
  have hreachable : h.reachable = g.reachable := by
    rw [reachable, hm.sameFlow.startIds_eq, hm.controlArcs_eq, reachable]
  calc h.validate = { reachable := h.reachable, issues := h.validate.issues } := rfl
    _ = { reachable := g.reachable, issues := g.validate.issues } := by
      rw [hreachable, hm.sameFlow.agrees.issues]

theorem payload_eq (hm : g.MovedOnly h) : h.payload = g.payload := by
  have hnodes : g.nodeList.map PayloadNode.ofNode = h.nodeList.map PayloadNode.ofNode :=
    Node.map_eq_of_redrawn hm.sameFlow.nodes fun m n hmn ↦ by rw [hmn]; rfl
  rw [payload, payload, hnodes, edgeList, hm.edges, edgeList]

end MovedOnly

theorem node?_drag {g : Graph} {d : Drag} {id : NodeId} (hid : id ∉ d.nodes) (pointer : Point) :
    (d.update g pointer).2.node? id = g.node? id := by
  refine d.update_preserves (P := fun h ↦ h.node? id = g.node? id) ?_ rfl pointer
  intro h id' hid' position heq
  have hne : id ≠ id' := fun he ↦ hid (he ▸ hid')
  rw [node?_changeNode, if_neg hne, heq]

end Graph

theorem Drag.mem_nodes_begin {g : Graph} {ids : List NodeId} {anchor : Point} {threshold : Float32}
    {id : NodeId} (hid : id ∈ (begin g ids anchor threshold).nodes) : id ∈ ids := by
  simp only [nodes, begin, List.mem_map, List.mem_filterMap, Option.map_eq_some_iff] at hid
  obtain ⟨_, ⟨id', hid', n, -, rfl⟩, rfl⟩ := hid
  exact hid'

def EditorCall.isGesture : EditorCall → Bool
  | .nodePressed .. | .edgeClicked .. | .backgroundPressed .. | .pointerMoved ..
  | .pointerReleased .. | .setModal .. | .setLayer .. | .toggleLayer | .select .. | .subscribe =>
    true
  | _ => false

namespace Editor

variable {e : Editor} {c : EditorCall}

def held (e : Editor) : List NodeId := e.drag.elim [] Drag.nodes

/-- The nodes that are selected after a press on a node that took effect. -/
def grabbed (e : Editor) : EditorCall → List NodeId
  | .nodePressed id pointer m =>
    if e.modalOpen ∨ id ∉ e.graph.nodes then []
    else (e.nodePressed id pointer m).selection.current.nodes
  | _ => []

/-- Of all gestures only a move of the pointer touches the graph, and it moves what is held. -/
theorem graph_call_of_gesture (hc : c.isGesture = true) :
    (e.call c).graph = e.graph ∨
      ∃ d pointer, e.drag = some d ∧ (e.call c).graph = (d.update e.graph pointer).2 := by
  cases c with
  | nodePressed id pointer m =>
    left
    simp only [call, nodePressed]
    split <;> rfl
  | edgeClicked id m =>
    left
    simp only [call, edgeClicked]
    split <;> rfl
  | backgroundPressed pointer button m =>
    left
    simp only [call, backgroundPressed]
    split_ifs <;> rfl
  | pointerMoved pointer =>
    simp only [call, pointerMoved]
    split
    · exact .inl rfl
    · split
      · exact .inr ⟨_, pointer, ‹_›, rfl⟩
      · exact .inl rfl
  | pointerReleased m bounds =>
    left
    simp only [call, pointerReleased]
    split
    · rfl
    · split <;> rfl
  | setModal | setLayer | toggleLayer | select | subscribe => exact .inl rfl
  | _ => simp [EditorCall.isGesture] at hc

theorem mem_held_call (hc : c.isGesture = true) {id : NodeId} (hid : id ∈ (e.call c).held) :
    id ∈ e.held ∨ id ∈ e.grabbed c := by
  cases c with
  | nodePressed pressed pointer m =>
    simp only [call, nodePressed] at hid
    split at hid
    · exact .inl hid
    · rename_i heffect
      right
      have hselected := Drag.mem_nodes_begin hid
      rw [grabbed, if_neg heffect, nodePressed, if_neg heffect]
      exact hselected
  | edgeClicked clicked m =>
    left
    simp only [call, edgeClicked] at hid
    split at hid <;> exact hid
  | backgroundPressed pointer button m =>
    left
    simp only [call, backgroundPressed] at hid
    split_ifs at hid <;> exact hid
  | pointerMoved pointer =>
    left
    simp only [call, pointerMoved] at hid
    split at hid
    · exact hid
    · split at hid
      · rename_i d hd
        rw [held, hd]
        exact hid
      · exact hid
  | pointerReleased m bounds =>
    left
    simp only [call, pointerReleased] at hid
    split at hid
    · exact absurd hid List.not_mem_nil
    · split at hid <;> exact hid
  | setModal | setLayer | toggleLayer | select | subscribe => exact .inl hid
  | _ => simp [EditorCall.isGesture] at hc

theorem movedOnly_call {g : Graph} (hc : c.isGesture = true) (h : g.MovedOnly e.graph) :
    g.MovedOnly (e.call c).graph := by
  rcases graph_call_of_gesture (e := e) hc with heq | ⟨d, pointer, -, heq⟩
  · rwa [heq]
  · rw [heq]
    exact h.drag d pointer

theorem movedOnly_run (e : Editor) {calls : List EditorCall}
    (hcalls : ∀ c ∈ calls, c.isGesture = true) : e.graph.MovedOnly (e.run calls).graph :=
  run_preserves (P := fun e' ↦ e.graph.MovedOnly e'.graph) (fun _ _ ↦ movedOnly_call)
    (throughout_of_forall hcalls e) (.refl e.graph)

theorem held_of_node?_ne {calls : List EditorCall} (hcalls : ∀ c ∈ calls, c.isGesture = true)
    {id : NodeId} (hchanged : (e.run calls).graph.node? id ≠ e.graph.node? id) :
    id ∈ e.held ∨
      ∃ before c after, calls = before ++ c :: after ∧ id ∈ (e.run before).grabbed c := by
  induction calls generalizing e with
  | nil => exact absurd rfl hchanged
  | cons c calls ih =>
    obtain ⟨hc, hcalls⟩ := List.forall_mem_cons.1 hcalls
    by_cases hlater : (e.run (c :: calls)).graph.node? id = (e.call c).graph.node? id
    · left
      rw [hlater] at hchanged
      rcases graph_call_of_gesture (e := e) hc with heq | ⟨d, pointer, hd, heq⟩
      · exact absurd (by rw [heq]) hchanged
      · rw [heq] at hchanged
        rw [held, hd]
        exact not_imp_comm.1 (Graph.node?_drag · pointer) hchanged
    · rcases ih hcalls hlater with hheld | ⟨before, c', after, rfl, hgrabbed⟩
      · rcases mem_held_call hc hheld with hheld | hgrabbed
        · exact .inl hheld
        · exact .inr ⟨[], c, calls, rfl, hgrabbed⟩
      · exact .inr ⟨c :: before, c', after, rfl, hgrabbed⟩

/-- Gestures move nodes and do nothing else to the graph, whatever is pressed, moved and selected
between them. So the report and the payload stay what they were. A node stays where it is unless a
drag held it from the start or it was selected when a press on a node took effect. -/
theorem gestures_only_move (e : Editor) (calls : List EditorCall)
    (hcalls : ∀ c ∈ calls, c.isGesture = true) :
    e.graph.MovedOnly (e.run calls).graph ∧
    (e.run calls).validate = e.validate ∧
    (e.run calls).graph.payload = e.graph.payload ∧
    ∀ id, (e.run calls).graph.node? id ≠ e.graph.node? id →
      id ∈ e.held ∨
        ∃ before c after, calls = before ++ c :: after ∧ id ∈ (e.run before).grabbed c := by
  have hmoved := movedOnly_run e hcalls
  exact ⟨hmoved, hmoved.validate_eq, hmoved.payload_eq, fun _ ↦ held_of_node?_ne hcalls⟩

def pressedCall : List EditorCall := [
  .addStart,
  .addFunction ⟨"f", .ofList [("x", .int32)], .empty⟩ .zero,
  .connect ⟨⟨.ofNat 0⟩, ⟨.ofNat 2⟩⟩ ⟨⟨.ofNat 3⟩, ⟨.ofNat 4⟩⟩,
  .nodePressed ⟨.ofNat 3⟩ .zero {}]

/-- The call is dragged. A press on the start node is blocked by a modal, and a later one comes
while a marquee is being drawn. -/
def gestures : List EditorCall := [
  .pointerMoved ⟨8, 4⟩,
  .pointerReleased {} fun _ ↦ none,
  .setModal true,
  .nodePressed ⟨.ofNat 0⟩ .zero {},
  .setModal false,
  .pointerMoved ⟨100, 100⟩,
  .backgroundPressed ⟨8, 4⟩ .primary {},
  .nodePressed ⟨.ofNat 0⟩ ⟨60, 60⟩ {},
  .toggleLayer,
  .pointerMoved ⟨61, 62⟩,
  .pointerReleased {} fun _ ↦ none]

theorem gestures_only_move_pressedCall :
    let e := (new {} .empty uniqueName (.ofStream .ofNat)).run pressedCall
    let place (e : Editor) (id : Nat) : Option Point := (e.graph.node? ⟨.ofNat id⟩).map (·.position)
    (∀ c ∈ gestures, c.isGesture = true) ∧
    e.graph.MovedOnly (e.run gestures).graph ∧
    e.held = [⟨.ofNat 3⟩] ∧
    (e.run (gestures.take 7)).grabbed (.nodePressed ⟨.ofNat 0⟩ ⟨60, 60⟩ {}) = [⟨.ofNat 0⟩] ∧
    (place e 3 == some .zero && place (e.run gestures) 3 == some ⟨8, 4⟩) = true ∧
    (place e 0 == some ⟨50, 50⟩ && place (e.run gestures) 0 == some ⟨51, 52⟩) = true := by
  intro e place
  have hcalls : ∀ c ∈ gestures, c.isGesture = true := by decide
  exact ⟨hcalls, (gestures_only_move e gestures hcalls).1, by decide +kernel, by decide +kernel,
    by decide +kernel, by decide +kernel⟩

end Editor

end PipelineGraph
