import PipelineGraph.Editor.Call
import PipelineGraph.Proofs.Paste

namespace PipelineGraph

def EditorCall.loaded : EditorCall → List Node
  | .load s => s.nodes
  | _ => []

def EditorCall.script : EditorCall → SelectionScript
  | .select script => script
  | _ => .done

namespace Editor

/-- All that one call can do to the graph, the selection, the clipboard and the supply of
identifiers. Other than by a selection script the selection is called at most once, and nothing is
selected that is not in the graph. -/
inductive Effect (e : Editor) (c : EditorCall) :
    Graph → Selection → Clipboard → IdSupply → Prop
  | keep : Effect e c e.graph e.selection e.clipboard e.ids
  | select (script : SelectionScript)
      (h : c = .select script ∨ script.Single ∧ script.AddsOnly e.graph e.selection) :
      Effect e c e.graph (script.run e.selection) e.clipboard e.ids
  | addFunction (f : FunctionSignature) (position : Point) :
      Effect e c (e.addFunction f position).2.graph e.selection e.clipboard
        (e.addFunction f position).2.ids
  | addStart : Effect e c e.addStart.2.graph e.selection e.clipboard e.addStart.2.ids
  | changeNode (id : NodeId) (change : NodeChange)
      (h : ∀ name, change.name = some name → c = .rename id name) :
      Effect e c (e.graph.changeNode id change) e.selection e.clipboard e.ids
  | changeEdge (id : EdgeId) (change : EdgeChange) :
      Effect e c (e.graph.changeEdge id change) e.selection e.clipboard e.ids
  | drag (d : Drag) (pointer : Point) :
      Effect e c (d.update e.graph pointer).2 e.selection e.clipboard e.ids
  | connect (source target : Endpoint) :
      Effect e c (e.graph.connect source target e.ids).2.1 e.selection e.clipboard
        (e.graph.connect source target e.ids).2.2
  | deleteNode (id : NodeId) :
      Effect e c (e.deleteNode id).2.graph (e.deleteNode id).2.selection e.clipboard e.ids
  | deleteEdge (id : EdgeId) :
      Effect e c (e.deleteEdge id).2.graph (e.deleteEdge id).2.selection e.clipboard e.ids
  | deleteSelected :
      Effect e c (deleteSelected e.graph e.selection).2.1 (deleteSelected e.graph e.selection).2.2
        e.clipboard e.ids
  | copy : Effect e c e.graph e.selection (e.clipboard.copy e.graph e.selection.current) e.ids
  | cut :
      Effect e c (PipelineGraph.deleteSelected e.graph e.selection).2.1
        (PipelineGraph.deleteSelected e.graph e.selection).2.2
        (e.clipboard.copy e.graph e.selection.current) e.ids
  | paste :
      Effect e c (e.clipboard.paste e.graph e.selection e.naming e.clipboard.offset e.ids).2.1
        (e.clipboard.paste e.graph e.selection e.naming e.clipboard.offset e.ids).2.2.1 e.clipboard
        (e.clipboard.paste e.graph e.selection e.naming e.clipboard.offset e.ids).2.2.2
  | load (s : Snapshot) (h : s.nodes = c.loaded) :
      Effect e c (.ofSnapshot s) (e.selection.change (.retainExisting (.ofSnapshot s))) e.clipboard
        e.ids

def Becomes (e : Editor) (c : EditorCall) (e' : Editor) : Prop :=
  e.Effect c e'.graph e'.selection e'.clipboard e'.ids

variable {e : Editor} {c : EditorCall}

theorem Effect.change {change : SelectionChange} (h : change.AddsOnly e.selection.current e.graph) :
    e.Effect c e.graph (e.selection.change change) e.clipboard e.ids :=
  .select (.change change .done) (.inr ⟨.change change, h, trivial⟩)

theorem becomes_nodePressed (id : NodeId) (pointer : Point) (m : Modifiers) :
    e.Becomes c (e.nodePressed id pointer m) := by
  unfold nodePressed
  split
  · exact .keep
  · rename_i hid
    rw [not_or, not_not] at hid
    unfold Becomes
    dsimp only
    split
    · exact .keep
    · refine .change (SelectionChange.addsOnly_selectNodes (fun id' hid' ↦ ?_) _)
      exact List.mem_singleton.1 hid' ▸ hid.2

theorem becomes_edgeClicked (id : EdgeId) (m : Modifiers) :
    e.Becomes c (e.edgeClicked id m) := by
  unfold edgeClicked
  split
  · exact .keep
  · rename_i hid
    rw [not_or, not_not] at hid
    refine Effect.change ?_
    split
    · exact SelectionChange.addsOnly_toggleEdge hid.2
    · refine SelectionChange.addsOnly_selectEdges (fun id' hid' ↦ ?_) _
      exact List.mem_singleton.1 hid' ▸ hid.2

theorem becomes_backgroundPressed (pointer : Point) (button : PointerButton) (m : Modifiers) :
    e.Becomes c (e.backgroundPressed pointer button m) := by
  unfold backgroundPressed
  split_ifs
  · exact .keep
  · exact .keep
  · exact .keep
  · exact Effect.change (SelectionChange.addsOnly_clear _ _)

theorem becomes_pointerMoved (pointer : Point) : e.Becomes c (e.pointerMoved pointer) := by
  unfold pointerMoved
  split
  · exact .keep
  · split
    · exact .drag _ pointer
    · exact .keep

theorem exists_script_finish (m : Marquee) (height : Float32) (extend : Bool) (g : Graph)
    (bounds : NodeBounds) (s : Selection) :
    ∃ script : SelectionScript, (script.Single ∧ script.AddsOnly g s) ∧
      (m.finish height extend g bounds s).2.2 = script.run s := by
  unfold Marquee.finish
  split
  · exact ⟨.done, ⟨.done, trivial⟩, rfl⟩
  · refine ⟨.batch (.change _ (.change _ .done)) .done,
      ⟨.batch _, ⟨?_, ?_, trivial⟩, trivial⟩, rfl⟩
    · refine SelectionChange.addsOnly_selectNodes (fun id hid ↦ ?_) _
      obtain ⟨n, hn, rfl⟩ := List.mem_map.1 hid
      exact Graph.mem_nodes_iff.2 ⟨n, List.mem_of_mem_filter hn, rfl⟩
    · refine SelectionChange.addsOnly_selectEdges (fun id hid ↦ ?_) _
      obtain ⟨x, hx, rfl⟩ := List.mem_map.1 hid
      exact Graph.mem_edges_iff.2 ⟨x, List.mem_of_mem_filter hx, rfl⟩

theorem becomes_pointerReleased (m : Modifiers) (bounds : NodeBounds) :
    e.Becomes c (e.pointerReleased m bounds).2 := by
  unfold pointerReleased
  split
  · exact .keep
  · split
    · exact .keep
    · obtain ⟨script, hscript, hrun⟩ := exists_script_finish e.marquee e.settings.nodeHeight
        m.toggles e.graph bounds e.selection
      have heffect : e.Effect c e.graph (script.run e.selection) e.clipboard e.ids :=
        .select script (.inr hscript)
      rwa [← hrun] at heffect

theorem becomes_perform (a : EditorAction) : e.Becomes c (e.perform a).2 := by
  unfold perform
  split
  · exact .keep
  · cases a with
    | delete => exact .deleteSelected
    | selectAll => exact Effect.change (SelectionChange.addsOnly_selectAll _ _)
    | copy => exact .copy
    | cut => exact .cut
    | paste => exact .paste
    | escape =>
      dsimp only
      split
      · exact .keep
      · exact Effect.change (SelectionChange.addsOnly_clear _ _)

theorem becomes_call (e : Editor) (c : EditorCall) : e.Becomes c (e.call c) := by
  cases c with
  | addFunction f position => exact .addFunction f position
  | addFunctionNamed name position =>
    simp only [call, addFunctionNamed]
    split
    · exact .keep
    · exact .addFunction _ position
  | addStart => exact .addStart
  | setBinding id input expr => exact .changeNode id _ fun _ h ↦ nomatch h
  | rename id name => exact .changeNode id _ fun _ h ↦ congrArg _ (Option.some.inj h)
  | connect source target => exact .connect source target
  | setEdgeEndpoints id drawnFrom drawnTo => exact .changeEdge id _
  | deleteNode id => exact .deleteNode id
  | deleteEdge id => exact .deleteEdge id
  | deleteSelection => exact .deleteSelected
  | copy => exact .copy
  | cut => exact .cut
  | paste => exact .paste
  | load s => exact .load s rfl
  | clear => exact .load .empty rfl
  | select script => exact .select script (.inl rfl)
  | subscribe => exact .select (.subscribe .done) (.inr ⟨.subscribe, trivial⟩)
  | setModal isOpen => exact .keep
  | setLayer layer => exact .keep
  | toggleLayer => exact .keep
  | nodePressed id pointer m => exact becomes_nodePressed id pointer m
  | edgeClicked id m => exact becomes_edgeClicked id m
  | backgroundPressed pointer button m => exact becomes_backgroundPressed pointer button m
  | pointerMoved pointer => exact becomes_pointerMoved pointer
  | pointerReleased m bounds => exact becomes_pointerReleased m bounds
  | keyPressed k m =>
    simp only [call, keyPressed]
    split
    · exact becomes_perform _
    · exact .keep
  | perform a => exact becomes_perform a

/-- The identifiers that a call draws are new to the graph and to the clipboard. -/
def FreshCall (e : Editor) (c : EditorCall) : Prop :=
  e.ids.Fresh (e.call c).ids (e.graph.snapshot.uuids ++ e.clipboard.contents.uuids)

instance (e : Editor) (c : EditorCall) : Decidable (e.FreshCall c) :=
  inferInstanceAs (Decidable (e.ids.Fresh _ _))

/-- Every call of the sequence meets the condition in the state it is made in. -/
def Throughout (ok : Editor → EditorCall → Prop) : Editor → List EditorCall → Prop
  | _, [] => True
  | e, c :: calls => ok e c ∧ Throughout ok (e.call c) calls

instance decidableThroughout (ok : Editor → EditorCall → Prop) [∀ e c, Decidable (ok e c)] :
    (e : Editor) → (calls : List EditorCall) → Decidable (e.Throughout ok calls)
  | _, [] => .isTrue trivial
  | e, c :: calls => @instDecidableAnd _ _ _ (decidableThroughout ok (e.call c) calls)

theorem Throughout.imp {ok ok' : Editor → EditorCall → Prop} (himp : ∀ e c, ok e c → ok' e c)
    {e : Editor} {calls : List EditorCall} (hok : e.Throughout ok calls) :
    e.Throughout ok' calls := by
  induction calls generalizing e with
  | nil => trivial
  | cons c calls ih => exact ⟨himp e c hok.1, ih hok.2⟩

theorem throughout_of_forall {ok : EditorCall → Prop} {calls : List EditorCall}
    (h : ∀ c ∈ calls, ok c) (e : Editor) : e.Throughout (fun _ ↦ ok) calls := by
  induction calls generalizing e with
  | nil => trivial
  | cons c calls ih =>
    obtain ⟨hc, hcalls⟩ := List.forall_mem_cons.1 h
    exact ⟨hc, ih hcalls (e.call c)⟩

/-- What every call that meets a condition preserves holds after every sequence of such calls. -/
theorem run_preserves {ok : Editor → EditorCall → Prop} {P : Editor → Prop}
    (hstep : ∀ e c, ok e c → P e → P (e.call c)) {e : Editor} {calls : List EditorCall}
    (hok : e.Throughout ok calls) (h : P e) : P (e.run calls) := by
  induction calls generalizing e with
  | nil => exact h
  | cons c calls ih => exact ih hok.2 (hstep e c hok.1 h)

theorem naming_perform (e : Editor) (a : EditorAction) : (e.perform a).2.naming = e.naming := by
  unfold perform
  split
  · rfl
  · cases a with
    | escape =>
      dsimp only
      split <;> rfl
    | _ => rfl

theorem naming_call (e : Editor) (c : EditorCall) : (e.call c).naming = e.naming := by
  cases c with
  | addFunctionNamed name position =>
    simp only [call, addFunctionNamed]
    split <;> rfl
  | nodePressed id pointer m =>
    simp only [call, nodePressed]
    split <;> rfl
  | edgeClicked id m =>
    simp only [call, edgeClicked]
    split <;> rfl
  | backgroundPressed pointer button m =>
    simp only [call, backgroundPressed]
    split_ifs <;> rfl
  | pointerMoved pointer =>
    simp only [call, pointerMoved]
    split_ifs
    · rfl
    · split <;> rfl
  | pointerReleased m bounds =>
    simp only [call, pointerReleased]
    split
    · rfl
    · split <;> rfl
  | keyPressed k m =>
    simp only [call, keyPressed]
    split
    · exact naming_perform _ _
    · rfl
  | perform a => exact naming_perform _ _
  | _ => rfl

end Editor

end PipelineGraph
