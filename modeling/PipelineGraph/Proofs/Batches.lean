import PipelineGraph.Proofs.Notification

namespace PipelineGraph

theorem SelectionScript.flatMap_changes_outer (calls : SelectionScript) :
    calls.outer.flatMap OuterCall.changes = calls.changes := by
  induction calls with
  | done => rfl
  | change c rest ih => exact congrArg (c :: ·) ih
  | subscribe rest ih => exact ih
  | batch body rest _ ih => exact congrArg (body.changes ++ ·) ih

/-- The notices of calls that are in no batch, given what is selected and how many observers there
are before them. A call that changes something, if only deep inside, tells all observers there are
at its end, in their order, what is then selected. -/
def OuterCall.told : Selected → Nat → List OuterCall → List Notice
  | _, _, [] => []
  | selected, observers, o :: rest =>
    let selected := o.changes.foldl Selected.apply selected
    let observers := observers + o.newcomers
    (if o.changes.isEmpty then [] else (List.range observers).map (⟨·, selected⟩)) ++
      told selected observers rest

namespace Selection

variable {s : Selection}

theorem current_serve (s : Selection) (o : OuterCall) :
    (s.serve o).current = o.changes.foldl Selected.apply s.current := by
  unfold serve commit
  split
  · rename_i hempty
    rw [List.isEmpty_iff.1 hempty, List.foldl_nil]
  · rfl

theorem notices_serve (s : Selection) (o : OuterCall) :
    (s.serve o).notices = s.notices ++
      if o.changes.isEmpty then []
      else (List.range (s.observers + o.newcomers)).map
        (⟨·, o.changes.foldl Selected.apply s.current⟩) := by
  unfold serve commit
  split
  · exact (List.append_nil _).symm
  · rfl

theorem current_foldl_serve (s : Selection) (os : List OuterCall) :
    (os.foldl serve s).current =
      (os.flatMap OuterCall.changes).foldl Selected.apply s.current := by
  induction os generalizing s with
  | nil => rfl
  | cons o os ih =>
    rw [List.foldl_cons, ih, current_serve, List.flatMap_cons, List.foldl_append]

theorem observers_foldl_serve_outer (s : Selection) (calls : SelectionScript) :
    (calls.outer.foldl serve s).observers = s.observers + calls.newcomers := by
  induction calls generalizing s with
  | done => rfl
  | change c rest ih =>
    rw [SelectionScript.outer, List.foldl_cons, ih, observers_serve]
    rfl
  | subscribe rest ih =>
    rw [SelectionScript.outer, List.foldl_cons, ih, observers_serve]
    exact Nat.add_assoc s.observers 1 rest.newcomers
  | batch body rest _ ih =>
    rw [SelectionScript.outer, List.foldl_cons, ih, observers_serve]
    exact Nat.add_assoc s.observers body.newcomers rest.newcomers

theorem notices_foldl_serve (s : Selection) (os : List OuterCall) :
    (os.foldl serve s).notices = s.notices ++ OuterCall.told s.current s.observers os := by
  induction os generalizing s with
  | nil => exact (List.append_nil _).symm
  | cons o os ih =>
    rw [List.foldl_cons, ih, current_serve, notices_serve, observers_serve, List.append_assoc]
    rfl

/-- Batches change nothing about what is selected in the end. Observers are told once for each call
that is in no batch itself and changes something, and nothing is left to be told afterwards. -/
theorem batches_coalesce (h : s.Quiet) (calls : SelectionScript) :
    let t := calls.run s
    t.current = (calls.changes.foldl change s).current ∧
    t.notices = s.notices ++ OuterCall.told s.current s.observers calls.outer ∧
    t.observers = s.observers + calls.newcomers ∧
    t.depth = 0 ∧ t.pending = false := by
  intro t
  have hrun : t = calls.outer.foldl serve s := h.run_eq calls
  have hquiet : t.Quiet := (h.run_preserves (P := fun _ ↦ True) (fun _ _ h ↦ h) trivial calls).1
  refine ⟨?_, ?_, ?_, hquiet.depth, hquiet.pending⟩
  · rw [hrun, current_foldl_serve, SelectionScript.flatMap_changes_outer, current_foldl_change]
  · rw [hrun, notices_foldl_serve]
  · rw [hrun, observers_foldl_serve_outer]

/-- Two observers and a third one that comes in the midst of a batch: first two batches within one,
of which only the second changes something, then batches of nothing, then a single change. -/
def batchedCalls : SelectionScript :=
  .batch (.batch .done
      (.batch (.subscribe (.change (.selectNodes [⟨.ofNat 1⟩, ⟨.ofNat 2⟩] false) .done))
        (.batch (.batch (.change (.toggleNode ⟨.ofNat 2⟩) .done) .done) .done)))
    (.batch (.batch .done (.batch .done .done))
      (.change (.selectEdges [⟨.ofNat 3⟩] true) .done))

theorem batches_coalesce_batchedCalls :
    let s : Selection := { observers := 2 }
    let t := batchedCalls.run s
    s.Quiet ∧ t.current = (batchedCalls.changes.foldl change s).current ∧
    t.current = ⟨[⟨.ofNat 1⟩], [⟨.ofNat 3⟩]⟩ ∧
    t.notices = [0, 1, 2].map (⟨·, ⟨[⟨.ofNat 1⟩], []⟩⟩) ++
      [0, 1, 2].map (⟨·, ⟨[⟨.ofNat 1⟩], [⟨.ofNat 3⟩]⟩⟩) ∧
    t.observers = 3 ∧ t.depth = 0 ∧ t.pending = false := by
  intro s t
  have hquiet : s.Quiet := ⟨rfl, rfl⟩
  obtain ⟨hcurrent, hnotices, hobservers, hdepth, hpending⟩ := batches_coalesce hquiet batchedCalls
  have htold : OuterCall.told s.current s.observers batchedCalls.outer =
      [0, 1, 2].map (⟨·, ⟨[⟨.ofNat 1⟩], []⟩⟩) ++
        [0, 1, 2].map (⟨·, ⟨[⟨.ofNat 1⟩], [⟨.ofNat 3⟩]⟩⟩) := by
    decide +kernel
  exact ⟨hquiet, hcurrent, by decide +kernel, hnotices.trans htold, hobservers, hdepth, hpending⟩

end Selection

end PipelineGraph
