import PipelineGraph.Proofs.Gestures

namespace PipelineGraph

def EditorCall.isInput : EditorCall → Bool
  | .nodePressed .. | .edgeClicked .. | .backgroundPressed .. | .pointerMoved ..
  | .pointerReleased .. | .keyPressed .. | .perform .. => true
  | _ => false

def EditorCall.isRelease : EditorCall → Bool
  | .pointerReleased .. => true
  | _ => false

namespace Editor

variable {e : Editor} {c : EditorCall}

/-- The state after so many releases that do nothing but end a gesture each. If a drag is in
progress it takes the first of them, and the marquee lasts until the next. -/
def ended (e : Editor) (releases : Nat) : Editor :=
  { e with
    drag := if releases = 0 then e.drag else none
    marquee := if releases = 0 ∨ releases = 1 ∧ e.isDragging = true then e.marquee else .idle }

theorem ended_zero (e : Editor) : e.ended 0 = e := by
  simp only [ended, if_true, true_or]

theorem ended_ended (e : Editor) (m n : Nat) : (e.ended m).ended n = e.ended (m + n) := by
  match m, n with
  | 0, n => rw [ended_zero, Nat.zero_add]
  | m + 1, 0 => exact ended_zero _
  | m + 1, n + 1 =>
    have hmany : m + 1 + (n + 1) ≠ 0 ∧ m + 1 + (n + 1) ≠ 1 := by omega
    simp [ended, isDragging, hmany]

theorem perform_of_modal (hmodal : e.modalOpen = true) (a : EditorAction) :
    e.perform a = (false, e) := by
  unfold perform
  rw [if_pos hmodal]

theorem keyPressed_of_modal (hmodal : e.modalOpen = true) (k : Key) (m : Modifiers) :
    e.keyPressed k m = (false, e) := by
  unfold keyPressed
  split
  · exact perform_of_modal hmodal _
  · rfl

theorem pointerReleased_of_modal (hmodal : e.modalOpen = true) (m : Modifiers)
    (bounds : NodeBounds) : (e.pointerReleased m bounds).2 = e.ended 1 := by
  cases hdrag : e.drag with
  | none => simp [pointerReleased, Marquee.cancel, ended, isDragging, hdrag, hmodal]
  | some d => simp [pointerReleased, ended, isDragging, hdrag]

/-- While a modal is open no input does anything, but that a release ends a gesture. -/
theorem call_of_modal (hmodal : e.modalOpen = true) (hc : c.isInput = true) :
    e.call c = e.ended (if c.isRelease then 1 else 0) := by
  cases c with
  | nodePressed | edgeClicked =>
    simp [call, nodePressed, edgeClicked, EditorCall.isRelease, hmodal, ended_zero]
  | backgroundPressed | pointerMoved =>
    simp [call, backgroundPressed, pointerMoved, EditorCall.isRelease, hmodal, ended_zero]
  | pointerReleased m bounds => exact pointerReleased_of_modal hmodal m bounds
  | keyPressed k m => rw [call, keyPressed_of_modal hmodal]; exact (ended_zero e).symm
  | perform a => rw [call, perform_of_modal hmodal]; exact (ended_zero e).symm
  | _ => simp [EditorCall.isInput] at hc

theorem run_of_modal {calls : List EditorCall} (hmodal : e.modalOpen = true)
    (hcalls : ∀ c ∈ calls, c.isInput = true) :
    e.run calls = e.ended (calls.countP EditorCall.isRelease) := by
  induction calls generalizing e with
  | nil => exact (ended_zero e).symm
  | cons c calls ih =>
    obtain ⟨hc, hcalls⟩ := List.forall_mem_cons.1 hcalls
    have hcall := call_of_modal hmodal hc
    have hopen : (e.call c).modalOpen = true := by rwa [hcall]
    calc e.run (c :: calls) = (e.call c).run calls := rfl
      _ = (e.call c).ended (calls.countP EditorCall.isRelease) := ih hopen hcalls
      _ = e.ended ((c :: calls).countP EditorCall.isRelease) := by
        rw [hcall, ended_ended, List.countP_cons, Nat.add_comm]

/-- Whatever input comes while a modal is open, the graph, the selection and the clipboard stay what
they were, no observer is told anything, and no key or action is accepted. The only thing that
happens is that releases end the drag and then the marquee. -/
theorem modal_gate (e : Editor) (hmodal : e.modalOpen = true) (calls : List EditorCall)
    (hcalls : ∀ c ∈ calls, c.isInput = true) :
    let e' := e.run calls
    let releases := calls.countP EditorCall.isRelease
    e'.graph = e.graph ∧ e'.selection = e.selection ∧
    e'.selection.notices = e.selection.notices ∧ e'.clipboard = e.clipboard ∧
    (∀ k m, (e'.keyPressed k m).1 = false) ∧ (∀ a, (e'.perform a).1 = false) ∧
    e' = { e with
      drag := if releases = 0 then e.drag else none
      marquee := if releases = 0 ∨ releases = 1 ∧ e.isDragging = true then e.marquee
        else .idle } := by
  intro e' releases
  have hrun : e' = e.ended releases := run_of_modal hmodal hcalls
  have hopen : e'.modalOpen = true := by rwa [hrun]
  refine ⟨by rw [hrun]; rfl, by rw [hrun]; rfl, by rw [hrun]; rfl, by rw [hrun]; rfl,
    fun k m ↦ ?_, fun a ↦ ?_, hrun⟩
  · rw [keyPressed_of_modal hopen]
  · rw [perform_of_modal hopen]

def interruptedGestures : List EditorCall := overlappingPresses ++ [.setModal true]

def blockedInput : List EditorCall := [
  .pointerMoved ⟨90, 90⟩,
  .keyPressed .a { ctrl := true },
  .backgroundPressed ⟨5, 5⟩ .secondary {},
  .pointerReleased {} fun _ ↦ none,
  .nodePressed ⟨.ofNat 0⟩ .zero {},
  .pointerMoved ⟨200, 200⟩,
  .perform .delete]

theorem modal_gate_interruptedGestures :
    let e := (new {} .empty uniqueName (.ofStream .ofNat)).run interruptedGestures
    e.modalOpen = true ∧ (∀ c ∈ blockedInput, c.isInput = true) ∧
    (e.isDragging = true ∧ e.marquee.isSelecting = true) ∧
    ((e.run blockedInput).isDragging = false ∧ (e.run blockedInput).marquee = e.marquee) ∧
    (e.run blockedInput).selection = e.selection ∧ (e.run blockedInput).graph = e.graph := by
  intro e
  have hmodal : e.modalOpen = true := by decide +kernel
  have hinput : ∀ c ∈ blockedInput, c.isInput = true := by decide
  have hlive : e.isDragging = true ∧ e.marquee.isSelecting = true := by decide +kernel
  obtain ⟨hgraph, hselection, -, -, -, -, hrun⟩ := modal_gate e hmodal blockedInput hinput
  refine ⟨hmodal, hinput, hlive, ⟨?_, ?_⟩, hselection, hgraph⟩
  · rw [hrun]
    rfl
  · have hone : blockedInput.countP EditorCall.isRelease = 1 := by decide
    rw [hrun]
    simp only [hone, hlive.1, and_self, or_true, if_true]

end Editor

end PipelineGraph
