import PipelineGraph.Proofs.Cascade
import PipelineGraph.Proofs.Modal
import PipelineGraph.Proofs.PointerFrame

namespace PipelineGraph

/-- What can happen while nodes are held: the pointer moves, or a node is deleted. -/
inductive DragStep where
  | move (pointer : Point)
  | delete (id : NodeId)

namespace DragStep

def call : DragStep → EditorCall
  | move pointer => .pointerMoved pointer
  | delete id => .deleteNode id

def pointer? : DragStep → Option Point
  | move pointer => some pointer
  | delete _ => none

def deleted? : DragStep → Option NodeId
  | move _ => none
  | delete id => some id

theorem filterMap_moves (way : List Point) :
    (way.map move).filterMap pointer? = way ∧ (way.map move).filterMap deleted? = [] := by
  induction way with
  | nil => exact ⟨rfl, rfl⟩
  | cons p way ih => exact ⟨congrArg (p :: ·) ih.1, ih.2⟩

end DragStep

theorem Graph.edges_removeNodes_congr {g h : Graph} (hnodes : h.nodes.keys = g.nodes.keys)
    (hedges : h.edges = g.edges) (ids : List NodeId) :
    (h.removeNodes ids).2.edges = (g.removeNodes ids).2.edges := by
  unfold removeNodes
  rw [hnodes]
  dsimp only
  split
  · exact hedges
  · dsimp only
    rw [hedges]

namespace Drag

variable {d : Drag} {start : NodeId → Point}

theorem exceeds_iff {delta : Point} :
    d.exceeds delta = true ↔ d.threshold < delta.x.abs ∨ d.threshold < delta.y.abs := by
  simp [exceeds]

def StartsAt (d : Drag) (start : NodeId → Point) : Prop := ∀ x ∈ d.starts, x.2 = start x.1

theorem mem_nodes_begin_iff {g : Graph} {ids : List NodeId} {anchor : Point} {threshold : Float32}
    {id : NodeId} : id ∈ (begin g ids anchor threshold).nodes ↔ id ∈ ids ∧ id ∈ g.nodes := by
  constructor
  · intro hid
    refine ⟨mem_nodes_begin hid, ?_⟩
    simp only [nodes, begin, List.mem_map, List.mem_filterMap, Option.map_eq_some_iff] at hid
    obtain ⟨_, ⟨id', -, n, hn, rfl⟩, rfl⟩ := hid
    exact Graph.mem_nodes_iff.2 ⟨n, Graph.node?_eq_some_iff.1 hn⟩
  · rintro ⟨hid, hmem⟩
    obtain ⟨n, hn⟩ := Graph.mem_nodes_iff.1 hmem
    have hfound : g.node? id = some n := Graph.node?_eq_some_iff.2 hn
    refine List.mem_map.2 ⟨(id, n.position), List.mem_filterMap.2 ⟨id, hid, ?_⟩, rfl⟩
    rw [hfound, Option.map_some]

theorem startsAt_begin (g : Graph) (ids : List NodeId) (anchor : Point) (threshold : Float32) :
    (begin g ids anchor threshold).StartsAt fun id ↦ (g.node? id).elim .zero Node.position := by
  intro x hx
  obtain ⟨id, -, hx⟩ := List.mem_filterMap.1 hx
  obtain ⟨n, hn, rfl⟩ := Option.map_eq_some_iff.1 hx
  simp only [hn, Option.elim_some]

/-- However the captured nodes are listed, and wherever they have got to, each is put at its start
plus the way of the pointer. -/
theorem StartsAt.nodeList_update (h : d.StartsAt start) (g : Graph) (pointer : Point) :
    (d.update g pointer).2.nodeList = g.nodeList.map fun n ↦
      if n.id ∈ d.nodes then { n with position := start n.id + (pointer - d.anchor) } else n := by
  unfold StartsAt at h
  unfold update nodes
  dsimp only
  generalize d.starts = starts at h ⊢
  induction starts generalizing g with
  | nil => simp
  | cons x starts ih =>
    obtain ⟨hx, h⟩ := List.forall_mem_cons.1 h
    rw [List.foldl_cons, ih _ h, Graph.nodeList_changeNode, List.map_map]
    refine List.map_congr_left fun n _ ↦ ?_
    rw [Function.comp_apply, List.map_cons]
    by_cases hid : n.id = x.1
    · have hput : ({ position := some (x.2 + (pointer - d.anchor)) } : NodeChange).apply n =
          { n with position := start n.id + (pointer - d.anchor) } := by
        rw [hx, ← hid]
        rfl
      rw [if_pos hid, if_pos (List.mem_cons.2 (.inl hid)), hput]
      exact ite_self _
    · rw [if_neg hid]
      simp only [List.mem_cons, hid, false_or]

theorem edges_update (d : Drag) (g : Graph) (pointer : Point) :
    (d.update g pointer).2.edges = g.edges := Graph.edges_drag d g pointer

theorem keys_update (d : Drag) (g : Graph) (pointer : Point) :
    (d.update g pointer).2.nodes.keys = g.nodes.keys :=
  d.update_preserves (P := fun h ↦ h.nodes.keys = g.nodes.keys)
    (fun h id _ _ heq ↦ (OrderedMap.keys_adjust h.nodes id _).trans heq) rfl pointer

theorem StartsAt.update_update (h : d.StartsAt start) (g : Graph) (p q : Point) :
    (d.update (d.update g p).2 q).2 = (d.update g q).2 := by
  refine Graph.eq_of_lists_eq ?_ (by simp only [Graph.edgeList, edges_update])
  rw [h.nodeList_update, h.nodeList_update, h.nodeList_update, List.map_map]
  refine List.map_congr_left fun n _ ↦ ?_
  by_cases hid : n.id ∈ d.nodes
  · simp [hid]
  · simp [hid]

theorem StartsAt.update_removeNode (h : d.StartsAt start) (g : Graph) (id : NodeId) (p : Point) :
    (d.update (g.removeNode id).2 p).2 = ((d.update g p).2.removeNode id).2 := by
  refine Graph.eq_of_lists_eq ?_ ?_
  · simp only [Graph.removeNode, h.nodeList_update, Graph.nodeList_removeNodes, List.filter_map]
    refine congrArg _ (List.filter_congr fun n _ ↦ ?_)
    simp only [Function.comp_apply]
    split <;> rfl
  · have hedges := Graph.edges_removeNodes_congr (keys_update d g p) (edges_update d g p) [id]
    rw [Graph.edgeList, edges_update]
    exact congrArg OrderedMap.values hedges.symm

def led (d : Drag) (g : Graph) (way : List Point) : Graph :=
  way.getLast?.elim g fun p ↦ (d.update g p).2

theorem StartsAt.led_cons (h : d.StartsAt start) (g : Graph) (p : Point) (way : List Point) :
    d.led (d.update g p).2 way = d.led g (p :: way) := by
  unfold led
  rw [List.getLast?_cons]
  cases way.getLast? with
  | none => rfl
  | some q => exact h.update_update g p q

theorem StartsAt.led_removeNode (h : d.StartsAt start) (g : Graph) (id : NodeId)
    (way : List Point) : d.led (g.removeNode id).2 way = ((d.led g way).removeNode id).2 := by
  unfold led
  cases way.getLast? with
  | none => rfl
  | some p => exact h.update_removeNode g id p

def run (d : Drag) (g : Graph) : List DragStep → Drag × Graph
  | [] => (d, g)
  | .move p :: steps => (d.update g p).1.run (d.update g p).2 steps
  | .delete id :: steps => d.run (g.removeNode id).2 steps

/-- Moves and deletions do not get in each other's way: the pointer is led to the last position and
then all the nodes are deleted. Whether the drag is more than a click is up to the moves alone. -/
theorem StartsAt.run_eq (h : d.StartsAt start) (g : Graph) (steps : List DragStep) :
    d.run g steps =
      ({ d with moved := d.moved ||
          (steps.filterMap DragStep.pointer?).any fun p ↦ d.exceeds (p - d.anchor) },
        ((d.led g (steps.filterMap DragStep.pointer?)).removeEach
          (steps.filterMap DragStep.deleted?)).2) := by
  induction steps generalizing d g with
  | nil => simp [run, led, Graph.removeEach]
  | cons step steps ih =>
    cases step with
    | move p =>
      have hrest : (d.update g p).1.StartsAt start := h
      have hled := h.led_cons g p (steps.filterMap DragStep.pointer?)
      rw [run, ih hrest]
      simp only [List.filterMap_cons, DragStep.pointer?, DragStep.deleted?, List.any_cons,
        ← hled, ← Bool.or_assoc]
      rfl
    | delete id =>
      rw [run, ih h, h.led_removeNode]
      simp only [List.filterMap_cons, DragStep.pointer?, DragStep.deleted?, Graph.removeEach_cons]

theorem nodeList_update_begin (g : Graph) (ids : List NodeId) (anchor : Point)
    (threshold : Float32) (pointer : Point) :
    ((begin g ids anchor threshold).update g pointer).2.nodeList = g.nodeList.map fun n ↦
      if n.id ∈ ids then { n with position := n.position + (pointer - anchor) } else n := by
  rw [(startsAt_begin g ids anchor threshold).nodeList_update]
  refine List.map_congr_left fun n hn ↦ ?_
  have hfound : g.node? n.id = some n := Graph.node?_eq_some_iff.2 ⟨hn, rfl⟩
  have hmem : n.id ∈ g.nodes := Graph.mem_nodes_iff.2 ⟨n, hn, rfl⟩
  simp only [mem_nodes_begin_iff, hmem, and_true, hfound, Option.elim_some]
  rfl

theorem node?_led_begin_eq_some_iff {g : Graph} {ids : List NodeId} {anchor : Point}
    {threshold : Float32} {way : List Point} {n : Node} (hn : n ∈ g.nodeList) :
    ((begin g ids anchor threshold).led g way).node? n.id = some n ↔
      n.id ∉ ids ∨ ∀ p ∈ way.getLast?, n.position + (p - anchor) = n.position := by
  unfold led
  cases way.getLast? with
  | none => simp [Graph.node?_eq_some_iff, hn]
  | some p =>
    have hput : ((begin g ids anchor threshold).update g p).2.node? n.id = some
        (if n.id ∈ ids then { n with position := n.position + (p - anchor) } else n) := by
      rw [Graph.node?_eq_some_iff, nodeList_update_begin]
      refine ⟨List.mem_map.2 ⟨n, hn, rfl⟩, ?_⟩
      split <;> rfl
    rw [Option.elim_some, hput, Option.some_inj]
    split
    · rename_i hid
      have hsame : { n with position := n.position + (p - anchor) } = n ↔
          n.position + (p - anchor) = n.position := ⟨congrArg Node.position, fun h ↦ by rw [h]⟩
      simp [hid, hsame]
    · rename_i hid
      simp [hid]

end Drag

namespace Editor

variable {e : Editor} {d : Drag}

/-- While nodes are held, the editor does what the drag does. -/
theorem run_of_drag (hopen : e.modalOpen = false) (hdrag : e.drag = some d)
    (steps : List DragStep) :
    (e.run (steps.map DragStep.call)).drag = some (d.run e.graph steps).1 ∧
      (e.run (steps.map DragStep.call)).graph = (d.run e.graph steps).2 := by
  induction steps generalizing e d with
  | nil => exact ⟨hdrag, rfl⟩
  | cons step steps ih =>
    cases step with
    | move p =>
      have hmoved : e.pointerMoved p =
          { e with drag := some (d.update e.graph p).1, graph := (d.update e.graph p).2 } := by
        simp [pointerMoved, hopen, hdrag]
      have hrest := ih (e := e.pointerMoved p) (by rw [hmoved]; exact hopen) (by rw [hmoved])
      have hgraph : (e.pointerMoved p).graph = (d.update e.graph p).2 := by rw [hmoved]
      rw [hgraph] at hrest
      exact hrest
    | delete id => exact ih (e := (e.deleteNode id).2) hopen hdrag

theorem graph_run_deleteNode (e : Editor) (ids : List NodeId) :
    (e.run (ids.map .deleteNode)).graph = (e.graph.removeEach ids).2 := by
  induction ids generalizing e with
  | nil => rfl
  | cons id ids ih =>
    rw [Graph.removeEach_cons]
    exact ih (e.deleteNode id).2

structure Holds (e : Editor) (ids : List NodeId) (anchor : Point) (threshold : Float32) : Prop where
  isOpen : e.modalOpen = false
  drag : e.drag = some (.begin e.graph ids anchor threshold)

variable {ids : List NodeId} {anchor : Point} {threshold : Float32}

theorem Holds.pointerReleased_run (h : e.Holds ids anchor threshold) (steps : List DragStep)
    (m : Modifiers) (bounds : NodeBounds) :
    let released := (e.run (steps.map DragStep.call)).pointerReleased m bounds
    let way := steps.filterMap DragStep.pointer?
    (released.1 = true ↔
      ∃ q ∈ way, threshold < (q.x - anchor.x).abs ∨ threshold < (q.y - anchor.y).abs) ∧
    released.2.graph = (((Drag.begin e.graph ids anchor threshold).led e.graph way).removeEach
      (steps.filterMap DragStep.deleted?)).2 := by
  intro released way
  obtain ⟨hheld, hgraph⟩ := run_of_drag h.isOpen h.drag steps
  rw [(Drag.startsAt_begin e.graph ids anchor threshold).run_eq] at hheld hgraph
  constructor
  · have hmoved : released.1 = way.any fun q ↦
        (Drag.begin e.graph ids anchor threshold).exceeds (q - anchor) := by
      simp only [released, pointerReleased, hheld]
      exact Bool.false_or _
    rw [hmoved, List.any_eq_true]
    simp only [Drag.exceeds_iff]
    rfl
  · refine Eq.trans ?_ hgraph
    simp only [released, pointerReleased, hheld]

theorem Holds.pointerReleased_moves (h : e.Holds ids anchor threshold) (way : List Point)
    (m : Modifiers) (bounds : NodeBounds) :
    let released := (e.run (way.map .pointerMoved)).pointerReleased m bounds
    (released.1 = true ↔
      ∃ q ∈ way, threshold < (q.x - anchor.x).abs ∨ threshold < (q.y - anchor.y).abs) ∧
    released.2.graph = (Drag.begin e.graph ids anchor threshold).led e.graph way := by
  obtain ⟨hway, hnone⟩ := DragStep.filterMap_moves way
  have hsteps := h.pointerReleased_run (way.map .move) m bounds
  rw [List.map_map, hway, hnone] at hsteps
  exact hsteps

theorem holds_nodePressed {id : NodeId} (hopen : e.modalOpen = false) (hid : id ∈ e.graph.nodes)
    (pointer : Point) (m : Modifiers) :
    let pressed := e.nodePressed id pointer m
    pressed.graph = e.graph ∧
      pressed.Holds pressed.selection.current.nodes pointer e.settings.dragThreshold := by
  have heffect : ¬ (e.modalOpen = true ∨ id ∉ e.graph.nodes) := by simp [hopen, hid]
  simp only [nodePressed, if_neg heffect, true_and]
  exact ⟨hopen, rfl⟩

/-- A drag puts each node that is selected after the press at the place it had plus the way from the
press to the last position of the pointer, and does nothing else to the graph. Neither the positions
in between nor the order in which the selected nodes are listed matter. The release tells whether
the pointer was ever farther from the press than the threshold. Nodes that are deleted between the
moves might as well be deleted afterwards. -/
theorem drag_exact (e : Editor) (hopen : e.modalOpen = false) {id : NodeId}
    (hid : id ∈ e.graph.nodes) (p₀ : Point) (m m' : Modifiers) (bounds : NodeBounds) :
    let pressed := e.nodePressed id p₀ m
    let selected := pressed.selection.current.nodes
    let threshold := e.settings.dragThreshold
    pressed.drag = some (.begin e.graph selected p₀ threshold) ∧
    ∀ ids : List NodeId, (∀ x, x ∈ ids ↔ x ∈ selected) →
      let held : Editor := { pressed with drag := some (.begin e.graph ids p₀ threshold) }
      (∀ (way : List Point) (p : Point),
        let released := (held.run ((way ++ [p]).map .pointerMoved)).pointerReleased m' bounds
        released.2.graph.nodeList = (e.graph.nodeList.map fun n ↦
          if n.id ∈ selected then { n with position := n.position + (p - p₀) } else n) ∧
        released.2.graph.edges = e.graph.edges ∧
        (released.1 = true ↔ ∃ q ∈ way ++ [p],
          threshold < (q.x - p₀.x).abs ∨ threshold < (q.y - p₀.y).abs)) ∧
      ∀ steps : List DragStep,
        let moves : List EditorCall := (steps.filterMap DragStep.pointer?).map .pointerMoved
        let deletions : List EditorCall := (steps.filterMap DragStep.deleted?).map .deleteNode
        ((held.run (steps.map DragStep.call)).pointerReleased m' bounds).2.graph =
          (((held.run moves).pointerReleased m' bounds).2.run deletions).graph := by
  intro pressed selected threshold
  obtain ⟨hgraph, hpressed⟩ := holds_nodePressed hopen hid p₀ m
  have hcaptured := hpressed.drag
  rw [hgraph] at hcaptured
  refine ⟨hcaptured, ?_⟩
  intro ids hids held
  have hheld : held.Holds ids p₀ threshold := by
    refine ⟨hpressed.isOpen, ?_⟩
    simp only [held, hgraph, pressed]
  have hsame : held.graph = e.graph := hgraph
  constructor
  · intro way p released
    obtain ⟨hmoved, hend⟩ := hheld.pointerReleased_moves (way ++ [p]) m' bounds
    rw [Drag.led, List.getLast?_concat, Option.elim_some, hsame] at hend
    refine ⟨?_, ?_, hmoved⟩
    · rw [hend, Drag.nodeList_update_begin]
      simp only [hids]
    · rw [hend, Drag.edges_update]
  · intro steps moves deletions
    rw [graph_run_deleteNode, (hheld.pointerReleased_run steps m' bounds).2,
      (hheld.pointerReleased_moves _ m' bounds).2]

def twoStarts : List EditorCall := [.addStart, .addStart, .perform .selectAll]

def interruptedDrag : List DragStep := [.move ⟨12, 10⟩, .delete ⟨.ofNat 0⟩, .move ⟨15, 30⟩]

theorem drag_exact_twoStarts :
    let e := (new {} .empty uniqueName (.ofStream .ofNat)).run twoStarts
    let pressed := e.nodePressed ⟨.ofNat 3⟩ ⟨10, 10⟩ {}
    let ids : List NodeId := [⟨.ofNat 3⟩, ⟨.ofNat 0⟩]
    let held : Editor := { pressed with drag := some (.begin e.graph ids ⟨10, 10⟩ 1) }
    let release (e : Editor) := e.pointerReleased {} fun _ ↦ none
    let moves : List EditorCall := [.pointerMoved ⟨12, 10⟩, .pointerMoved ⟨15, 30⟩]
    let dropped := (release (held.run moves)).2
    (e.modalOpen = false ∧ ⟨.ofNat 3⟩ ∈ e.graph.nodes ∧
      ∀ x, x ∈ ids ↔ x ∈ pressed.selection.current.nodes) ∧
    (release (held.run moves)).1 = true ∧
    (dropped.graph.nodeList.map (·.position) == [⟨55, 70⟩, ⟨55, 70⟩]) = true ∧
    (release (held.run (interruptedDrag.map DragStep.call))).2.graph =
      (dropped.run [.deleteNode ⟨.ofNat 0⟩]).graph := by
  intro e pressed ids held release moves dropped
  have hopen : e.modalOpen = false := by decide +kernel
  have hid : ⟨.ofNat 3⟩ ∈ e.graph.nodes := by decide +kernel
  have hids : ∀ x, x ∈ ids ↔ x ∈ pressed.selection.current.nodes := by
    have hselected : pressed.selection.current.nodes = [⟨.ofNat 0⟩, ⟨.ofNat 3⟩] := by
      decide +kernel
    intro x
    simp [hselected, ids, or_comm]
  obtain ⟨-, hall⟩ := drag_exact e hopen hid ⟨10, 10⟩ {} {} fun _ ↦ none
  obtain ⟨hmoves, hsteps⟩ := hall ids hids
  obtain ⟨-, -, hmoved⟩ := hmoves [⟨12, 10⟩] ⟨15, 30⟩
  refine ⟨⟨hopen, hid, hids⟩, hmoved.2 ?_, by decide +kernel, hsteps interruptedDrag⟩
  exact ⟨⟨12, 10⟩, List.mem_cons_self, .inl (by decide +kernel)⟩

/-- A release reports no movement exactly if the pointer was never farther from the press than the
threshold. The nodes have followed it nevertheless: a node is still what it was before the press
only if it was not selected or if the way to the last position is lost in its coordinates. -/
theorem release_reports_threshold (e : Editor) {id : NodeId} (hid : id ∈ e.graph.nodes)
    (p₀ : Point) (way : List Point) (m m' : Modifiers) (bounds : NodeBounds) :
    let pressed := e.nodePressed id p₀ m
    let selected := pressed.selection.current.nodes
    let threshold := e.settings.dragThreshold
    let released := (pressed.run (way.map .pointerMoved)).pointerReleased m' bounds
    (e.modalOpen = true → released.2.graph = e.graph) ∧
    (e.modalOpen = false →
      (released.1 = false ↔ ∀ q ∈ way,
        ¬ (threshold < (q.x - p₀.x).abs ∨ threshold < (q.y - p₀.y).abs)) ∧
      ∀ n ∈ e.graph.nodeList, released.2.graph.node? n.id = some n ↔
        n.id ∉ selected ∨ ∀ p ∈ way.getLast?, n.position + (p - p₀) = n.position) := by
  intro pressed selected threshold released
  constructor
  · intro hmodal
    let calls : List EditorCall := .nodePressed id p₀ m :: (way.map .pointerMoved ++
      [.pointerReleased m' bounds])
    have hcalls : ∀ c ∈ calls, c.isInput = true := by
      simp only [calls, List.forall_mem_cons, List.forall_mem_append, List.forall_mem_map]
      exact ⟨rfl, fun _ _ ↦ rfl, rfl, nofun⟩
    have hrun : released.2 = e.run calls := by
      simp only [released, pressed, calls, run, List.foldl_cons, List.foldl_append]
      rfl
    rw [hrun, run_of_modal hmodal hcalls]
    rfl
  · intro hopen
    obtain ⟨hgraph, hpressed⟩ := holds_nodePressed hopen hid p₀ m
    obtain ⟨hmoved, hend⟩ := hpressed.pointerReleased_moves way m' bounds
    constructor
    · rw [← Bool.not_eq_true, hmoved]
      simp only [not_exists, not_and]
      rfl
    · intro n hn
      rw [hend, hgraph]
      exact Drag.node?_led_begin_eq_some_iff hn

/-- The pointer jitters over a start node. The node is what it was only if the pointer is back in the
end where it was pressed, or with a modal open, and no movement is reported in any case. -/
theorem release_reports_threshold_jitter :
    let e := (new {} .empty uniqueName (.ofStream .ofNat)).call .addStart
    let blocked := e.call (.setModal true)
    let pressed (e : Editor) := e.nodePressed ⟨.ofNat 0⟩ .zero {}
    let release (e : Editor) := e.pointerReleased {} fun _ ↦ none
    let away : List EditorCall := [.pointerMoved ⟨1, -1⟩]
    let back : List EditorCall := [.pointerMoved ⟨1, -1⟩, .pointerMoved .zero]
    ⟨.ofNat 0⟩ ∈ e.graph.nodes ∧ e.modalOpen = false ∧ blocked.modalOpen = true ∧
    (release ((pressed e).run away)).1 = false ∧ (release ((pressed e).run back)).1 = false ∧
    (∀ n ∈ e.graph.nodeList,
      (release ((pressed e).run away)).2.graph.node? n.id ≠ some n ∧
      (release ((pressed e).run back)).2.graph.node? n.id = some n) ∧
    (release ((pressed blocked).run away)).2.graph = blocked.graph := by
  intro e blocked pressed release away back
  have hid : ⟨.ofNat 0⟩ ∈ e.graph.nodes := by decide +kernel
  have hopen : e.modalOpen = false := by decide +kernel
  have hblocked : blocked.modalOpen = true := by decide +kernel
  obtain ⟨hkept, -⟩ := release_reports_threshold blocked hid .zero [⟨1, -1⟩] {} {} fun _ ↦ none
  obtain ⟨-, haway⟩ := release_reports_threshold e hid .zero [⟨1, -1⟩] {} {} fun _ ↦ none
  obtain ⟨-, hback⟩ := release_reports_threshold e hid .zero [⟨1, -1⟩, .zero] {} {} fun _ ↦ none
  obtain ⟨hclick, hshifted⟩ := haway hopen
  obtain ⟨hclick', hsame⟩ := hback hopen
  have hplaces : ∀ n ∈ e.graph.nodeList, n.id ∈ (pressed e).selection.current.nodes ∧
      (n.position + (⟨1, -1⟩ - .zero)).x ≠ n.position.x ∧
      (n.position + (.zero - .zero)).x = n.position.x ∧
      (n.position + (.zero - .zero)).y = n.position.y := by
    decide +kernel
  refine ⟨hid, hopen, hblocked, hclick.2 (by decide +kernel), hclick'.2 (by decide +kernel), ?_,
    hkept hblocked⟩
  intro n hn
  obtain ⟨hselected, hx, hx', hy'⟩ := hplaces n hn
  constructor
  · intro hfound
    rcases (hshifted n hn).1 hfound with hnot | hput
    · exact hnot hselected
    · exact hx (congrArg Point.x (hput _ rfl))
  · refine (hsame n hn).2 (.inr ?_)
    rintro p ⟨⟩
    exact congrArg₂ Point.mk hx' hy'

/-- A click with a little jitter shifts the node, and the release denies it. -/
theorem release_hides_shift :
    let e := (new {} .empty uniqueName (.ofStream .ofNat)).call .addStart
    let released := ((e.nodePressed ⟨.ofNat 0⟩ .zero {}).pointerMoved ⟨0.5, 0.5⟩).pointerReleased {}
      fun _ ↦ none
    released.1 = false ∧ (e.graph.nodeList.map (·.position) == [⟨50, 50⟩]) = true ∧
      (released.2.graph.nodeList.map (·.position) == [⟨50.5, 50.5⟩]) = true := by
  decide +kernel

end Editor

end PipelineGraph
