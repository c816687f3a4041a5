import PipelineGraph.Editor.Call
import PipelineGraph.Proofs.OrderedMap

namespace PipelineGraph

def EditorCall.isPress : EditorCall → Bool
  | .nodePressed .. | .backgroundPressed .. => true
  | _ => false

namespace Editor

/-- Neither a drag nor a marquee is in progress. -/
structure Idle (e : Editor) : Prop where
  drag : e.drag = none
  marquee : e.marquee = .idle

variable {e : Editor}

theorem pointerReleased_of_drag {d : Drag} (h : e.drag = some d) (m : Modifiers)
    (bounds : NodeBounds) : (e.pointerReleased m bounds).2 = { e with drag := none } := by
  simp only [pointerReleased, h]

theorem Idle.pointerMoved_eq (h : e.Idle) (pointer : Point) : e.pointerMoved pointer = e := by
  unfold pointerMoved
  split
  · rfl
  · simp only [h.drag, h.marquee, Marquee.update]
    rw [← h.drag, ← h.marquee]

theorem Idle.pointerReleased_eq (h : e.Idle) (m : Modifiers) (bounds : NodeBounds) :
    (e.pointerReleased m bounds).2 = e := by
  unfold pointerReleased
  simp only [h.drag]
  split
  · rw [Marquee.cancel, ← h.drag, ← h.marquee]
  · simp only [h.marquee, Marquee.finish, Marquee.rect?]
    rw [← h.drag, ← h.marquee]

theorem marquee_finish (x : Marquee) (height : Float32) (extend : Bool) (g : Graph)
    (bounds : NodeBounds) (s : Selection) : (x.finish height extend g bounds s).2.1 = .idle := by
  cases x <;> rfl

theorem idle_pointerReleased (h : e.drag = none) (m : Modifiers) (bounds : NodeBounds) :
    (e.pointerReleased m bounds).2.Idle := by
  unfold pointerReleased
  simp only [h]
  split
  · exact ⟨rfl, rfl⟩
  · exact ⟨rfl, marquee_finish ..⟩

theorem Idle.perform (h : e.Idle) (a : EditorAction) : (e.perform a).2.Idle := by
  unfold Editor.perform
  split
  · exact h
  · cases a with
    | escape =>
      dsimp only
      split
      · exact ⟨h.drag, rfl⟩
      · exact ⟨h.drag, h.marquee⟩
    | delete | selectAll | copy | cut | paste => exact ⟨h.drag, h.marquee⟩

theorem Idle.call (h : e.Idle) {c : EditorCall} (hc : c.isPress = false) : (e.call c).Idle := by
  cases c with
  | nodePressed | backgroundPressed => simp [EditorCall.isPress] at hc
  | pointerMoved pointer =>
    rw [Editor.call, h.pointerMoved_eq]
    exact h
  | pointerReleased m bounds =>
    rw [Editor.call, h.pointerReleased_eq]
    exact h
  | perform a => exact h.perform a
  | keyPressed k m =>
    simp only [Editor.call, keyPressed]
    split
    · exact h.perform _
    · exact h
  | edgeClicked id m =>
    simp only [Editor.call, edgeClicked]
    split
    · exact h
    · exact ⟨h.drag, h.marquee⟩
  | addFunctionNamed name position =>
    simp only [Editor.call, addFunctionNamed]
    split
    · exact h
    · exact ⟨h.drag, h.marquee⟩
  | load | clear => exact ⟨rfl, rfl⟩
  | _ => exact ⟨h.drag, h.marquee⟩

theorem Idle.run (h : e.Idle) {calls : List EditorCall} (hcalls : ∀ c ∈ calls, c.isPress = false) :
    (e.run calls).Idle := by
  induction calls generalizing e with
  | nil => exact h
  | cons c calls ih =>
    obtain ⟨hc, hcalls⟩ := List.forall_mem_cons.1 hcalls
    exact ih (h.call hc) hcalls

/-- A release ends the drag. The marquee outlives it exactly if there was a drag as well, which a
second release makes up for. Once both have ended, no move and no release does anything until the
next press. -/
theorem release_ends_gesture (e : Editor) (m : Modifiers) (bounds : NodeBounds) :
    (e.pointerReleased m bounds).2.isDragging = false ∧
    ((e.pointerReleased m bounds).2.marquee.isSelecting = true ↔
      e.isDragging = true ∧ e.marquee.isSelecting = true) ∧
    (∀ m' bounds', ((e.pointerReleased m bounds).2.pointerReleased m' bounds').2.Idle) ∧
    ((e.pointerReleased m bounds).2.Idle → ∀ calls : List EditorCall,
      (∀ c ∈ calls, c.isPress = false) →
        (∀ pointer, ((e.pointerReleased m bounds).2.run calls).pointerMoved pointer =
          (e.pointerReleased m bounds).2.run calls) ∧
        ∀ m' bounds', (((e.pointerReleased m bounds).2.run calls).pointerReleased m' bounds').2 =
          (e.pointerReleased m bounds).2.run calls) := by
  have hdrag : (e.pointerReleased m bounds).2.drag = none := by
    cases hd : e.drag with
    | none => exact (idle_pointerReleased hd m bounds).drag
    | some d => rw [pointerReleased_of_drag hd]
  refine ⟨?_, ?_, fun m' bounds' ↦ idle_pointerReleased hdrag m' bounds',
    fun hidle calls hcalls ↦ ?_⟩
  · rw [isDragging, hdrag, Option.isSome_none]
  · cases hd : e.drag with
    | none =>
      rw [(idle_pointerReleased hd m bounds).marquee, isDragging, hd]
      simp [Marquee.isSelecting]
    | some d =>
      rw [pointerReleased_of_drag hd, isDragging, hd]
      simp
  · have hrun := hidle.run hcalls
    exact ⟨hrun.pointerMoved_eq, hrun.pointerReleased_eq⟩

/-- A marquee is begun, then a node is pressed before the pointer was released. -/
def overlappingPresses : List EditorCall := [
  .addStart,
  .backgroundPressed .zero .primary {},
  .nodePressed ⟨.ofNat 0⟩ ⟨60, 60⟩ {}]

/-- The release ends the drag alone, and without a further press the next one empties the
selection. -/
theorem release_leaves_marquee :
    let e := (new {} .empty uniqueName (.ofStream .ofNat)).run overlappingPresses
    let released := (e.pointerReleased {} fun _ ↦ none).2
    released.marquee.isSelecting = true ∧ released.selection.current.nodes = [⟨.ofNat 0⟩] ∧
      (released.pointerReleased {} fun _ ↦ none).2.selection.current.nodes = [] := by
  decide +kernel

end Editor

end PipelineGraph
