import PipelineGraph.Proofs.Calls

namespace PipelineGraph

namespace SelectionScript

def changes : SelectionScript → List SelectionChange
  | done => []
  | change c rest => c :: rest.changes
  | subscribe rest => rest.changes
  | batch body rest => body.changes ++ rest.changes

def newcomers : SelectionScript → Nat
  | done => 0
  | change _ rest => rest.newcomers
  | subscribe rest => 1 + rest.newcomers
  | batch body rest => body.newcomers + rest.newcomers

end SelectionScript

/-- What a call that is in no batch comes to. An outermost batch is one such call. -/
structure OuterCall where
  changes : List SelectionChange
  newcomers : Nat

def SelectionScript.outer : SelectionScript → List OuterCall
  | done => []
  | change c rest => ⟨[c], 0⟩ :: rest.outer
  | subscribe rest => ⟨[], 1⟩ :: rest.outer
  | batch body rest => ⟨body.changes, body.newcomers⟩ :: rest.outer

namespace Selection

structure Quiet (s : Selection) : Prop where
  depth : s.depth = 0
  pending : s.pending = false

def commit (s : Selection) (cs : List SelectionChange) : Selection :=
  if cs.isEmpty then s else { s with current := cs.foldl Selected.apply s.current }.announce

def serve (s : Selection) (o : OuterCall) : Selection :=
  { s with observers := s.observers + o.newcomers }.commit o.changes

variable {s : Selection}

theorem Quiet.change_eq (h : s.Quiet) (c : SelectionChange) : s.change c = s.serve ⟨[c], 0⟩ := by
  simp [change, notify, h.depth, serve, commit]

theorem change_of_open (h : 0 < s.depth) (c : SelectionChange) :
    s.change c = { s with current := s.current.apply c, pending := true } := by
  rw [change, notify, if_neg (Nat.ne_of_gt h)]

/-- Inside a batch nobody is told anything, and a change only leaves its mark. -/
theorem run_of_open (script : SelectionScript) (h : 0 < s.depth) :
    script.run s =
      { s with
        current := script.changes.foldl Selected.apply s.current
        observers := s.observers + script.newcomers
        pending := s.pending || !script.changes.isEmpty } := by
  induction script generalizing s with
  | done => simp [SelectionScript.run, SelectionScript.changes, SelectionScript.newcomers]
  | change c rest ih =>
    rw [SelectionScript.run, ih (by rw [change_of_open h]; exact h), change_of_open h]
    simp [SelectionScript.changes, SelectionScript.newcomers]
  | subscribe rest ih =>
    rw [SelectionScript.run, ih (s := s.subscribe) h]
    simp [SelectionScript.changes, SelectionScript.newcomers, subscribe, Nat.add_assoc]
  | batch body rest ihbody ihrest =>
    have hbody := ihbody (s := s.openBatch) (Nat.zero_lt_succ _)
    have hclosed : (body.run s.openBatch).closeBatch =
        { s with
          current := body.changes.foldl Selected.apply s.current
          observers := s.observers + body.newcomers
          pending := s.pending || !body.changes.isEmpty } := by
      rw [hbody]
      simp [openBatch, closeBatch, Nat.ne_of_gt h]
    rw [SelectionScript.run, ihrest (by rw [hclosed]; exact h), hclosed]
    have hempty : (body.changes ++ rest.changes).isEmpty =
        (body.changes.isEmpty && rest.changes.isEmpty) := by
      cases body.changes <;> rfl
    simp [SelectionScript.changes, SelectionScript.newcomers, hempty, Bool.or_assoc, Nat.add_assoc]

/-- An outermost batch has the effect of all its calls at once, however they are nested. -/
theorem Quiet.run_batch (h : s.Quiet) (body : SelectionScript) :
    (body.run s.openBatch).closeBatch = s.serve ⟨body.changes, body.newcomers⟩ := by
  obtain ⟨current, observers, depth, pending, notices⟩ := s
  obtain ⟨rfl : depth = 0, rfl : pending = false⟩ := h
  rw [run_of_open body (Nat.zero_lt_succ _), Selection.serve, commit]
  cases hchanges : body.changes with
  | nil => rfl
  | cons c cs => rfl

theorem Quiet.serve (h : s.Quiet) (o : OuterCall) : (s.serve o).Quiet := by
  unfold Selection.serve commit
  split
  · exact ⟨h.depth, h.pending⟩
  · exact ⟨h.depth, h.pending⟩

theorem Quiet.run_eq (h : s.Quiet) (script : SelectionScript) :
    script.run s = script.outer.foldl Selection.serve s := by
  induction script generalizing s with
  | done => rfl
  | change c rest ih =>
    rw [SelectionScript.run, h.change_eq, ih (h.serve _)]
    rfl
  | subscribe rest ih => exact ih (s := s.subscribe) ⟨h.depth, h.pending⟩
  | batch body rest _ ih =>
    rw [SelectionScript.run, h.run_batch, ih (h.serve _)]
    rfl

theorem Quiet.run_preserves {P : Selection → Prop} (hserve : ∀ s o, P s → P (s.serve o))
    (h : s.Quiet) (hs : P s) (script : SelectionScript) : (script.run s).Quiet ∧ P (script.run s) := by
  rw [h.run_eq]
  generalize script.outer = os
  induction os generalizing s with
  | nil => exact ⟨h, hs⟩
  | cons o os ih => exact ih (h.serve o) (hserve s o hs)

def received (s : Selection) (i : Nat) : List Selected :=
  (s.notices.filter fun n ↦ n.observer = i).map Notice.selected

theorem received_announce (s : Selection) (i : Nat) :
    s.announce.received i = s.received i ++ if i < s.observers then [s.current] else [] := by
  have hsent (k : Nat) : (List.range k).filter (fun j ↦ j = i) = if i < k then [i] else [] := by
    induction k with
    | zero => simp
    | succ k ih =>
      rw [List.range_succ, List.filter_append, ih]
      grind
  simp only [received, announce, List.filter_append, List.filter_map, List.map_append,
    List.map_map, Function.comp_def, hsent]
  split
  · rfl
  · rfl

theorem observers_serve (s : Selection) (o : OuterCall) :
    (s.serve o).observers = s.observers + o.newcomers := by
  unfold serve commit
  split
  · rfl
  · rfl

/-- A call either changes nothing and tells nobody, or it tells every observer once. -/
theorem received_serve (s : Selection) (o : OuterCall) (i : Nat) :
    (s.serve o).received i = s.received i ∧ (s.serve o).current = s.current ∨
      (s.serve o).received i =
        s.received i ++ if i < (s.serve o).observers then [(s.serve o).current] else [] := by
  rw [observers_serve]
  unfold serve commit
  split
  · exact .inl ⟨rfl, rfl⟩
  · exact .inr (received_announce _ i)

/-- On the way to the second selection the observer is told at most once, and then what is selected
at its end. It is told if that is not what was selected before. -/
def Tells (s t : Selection) (i : Nat) : Prop :=
  ∃ told, t.received i = s.received i ++ told ∧ (told = [] ∨ told = [t.current]) ∧
    (t.current ≠ s.current → i < s.observers → told = [t.current])

/-- The observer was last told what is selected now, or it was told nothing and nothing is
selected. -/
def UpToDate (s : Selection) (i : Nat) : Prop :=
  (s.received i).getLast? = some s.current ∨ s.received i = [] ∧ s.current = {}

structure Informed (s : Selection) (i : Nat) : Prop where
  subscribed : i < s.observers
  upToDate : s.UpToDate i

variable {i : Nat}

theorem Informed.serve (h : s.Informed i) (o : OuterCall) : (s.serve o).Informed i := by
  have hsubscribed : i < (s.serve o).observers := by
    rw [observers_serve]
    exact Nat.lt_add_right _ h.subscribed
  refine ⟨hsubscribed, ?_⟩
  rcases received_serve s o i with ⟨hreceived, hcurrent⟩ | hreceived
  · rw [UpToDate, hreceived, hcurrent]
    exact h.upToDate
  · refine .inl ?_
    rw [hreceived, if_pos hsubscribed, List.getLast?_concat]

theorem tells_serve (s : Selection) (o : OuterCall) (i : Nat) : s.Tells (s.serve o) i := by
  rcases received_serve s o i with ⟨hreceived, hcurrent⟩ | hreceived
  · exact ⟨[], by rw [hreceived, List.append_nil], .inl rfl, fun hne ↦ absurd hcurrent hne⟩
  · refine ⟨_, hreceived, ?_, fun _ hi ↦ if_pos ?_⟩
    · split
      · exact .inr rfl
      · exact .inl rfl
    · rw [observers_serve]
      exact Nat.lt_add_right _ hi

theorem Quiet.exists_run_eq_serve (h : s.Quiet) {script : SelectionScript}
    (hsingle : script.Single) : ∃ o, script.run s = s.serve o := by
  cases hsingle with
  | done => exact ⟨⟨[], 0⟩, rfl⟩
  | change c => exact ⟨_, h.change_eq c⟩
  | subscribe => exact ⟨⟨[], 1⟩, rfl⟩
  | batch body => exact ⟨_, h.run_batch body⟩

end Selection

namespace Editor

variable {e : Editor}

/-- A call makes at most one call to the selection, those of a script from outside apart. -/
theorem exists_script_call (e : Editor) (c : EditorCall) :
    ∃ script : SelectionScript, (c = .select script ∨ script.Single) ∧
      (e.call c).selection = script.run e.selection := by
  have heffect : e.Effect c _ _ _ _ := e.becomes_call c
  generalize (e.call c).graph = g', (e.call c).selection = selection,
    (e.call c).clipboard = clipboard, (e.call c).ids = ids at heffect ⊢
  cases heffect with
  | select script h => exact ⟨script, h.imp_right And.left, rfl⟩
  | deleteNode | deleteEdge | load => exact ⟨.change _ .done, .inr (.change _), rfl⟩
  | deleteSelected | cut =>
    exact ⟨.batch (.change _ (.change _ .done)) .done, .inr (.batch _), rfl⟩
  | paste =>
    unfold Clipboard.paste
    split
    · exact ⟨.done, .inr .done, rfl⟩
    · exact ⟨.batch (.change _ (.change _ .done)) .done, .inr (.batch _), rfl⟩
  | _ => exact ⟨.done, .inr .done, rfl⟩

theorem selection_run_preserves {P : Selection → Prop} (hserve : ∀ s o, P s → P (s.serve o))
    (hquiet : e.selection.Quiet) (h : P e.selection) (calls : List EditorCall) :
    (e.run calls).selection.Quiet ∧ P (e.run calls).selection := by
  have hany : e.Throughout (fun _ _ ↦ True) calls := throughout_of_forall (fun _ _ ↦ trivial) e
  refine run_preserves (P := fun e ↦ e.selection.Quiet ∧ P e.selection) ?_ hany ⟨hquiet, h⟩
  rintro e c - ⟨hquiet, h⟩
  obtain ⟨script, -, hrun⟩ := e.exists_script_call c
  rw [hrun]
  exact hquiet.run_preserves hserve h script

theorem selection_run_subscribe (e : Editor) (n : Nat) :
    (e.run (List.replicate n .subscribe)).selection =
      { e.selection with observers := e.selection.observers + n } := by
  induction n generalizing e with
  | zero => rfl
  | succ n ih =>
    rw [List.replicate_succ]
    refine (ih (e.call .subscribe)).trans ?_
    simp [call, Selection.subscribe, Nat.add_comm, Nat.add_left_comm]

theorem tells_call (hquiet : e.selection.Quiet) {c : EditorCall} (hc : c.script.Single) (i : Nat) :
    e.selection.Tells (e.call c).selection i := by
  obtain ⟨script, hscript, hrun⟩ := e.exists_script_call c
  have hsingle : script.Single := by
    rcases hscript with rfl | hsingle
    · exact hc
    · exact hsingle
  obtain ⟨o, ho⟩ := hquiet.exists_run_eq_serve hsingle
  rw [hrun, ho]
  exact Selection.tells_serve _ _ _

/-- Wherever an editor has arrived, a single call tells each observer at most once, and then what is
selected at its end, and it does tell them if that changes. So after any run an observer from the
start is up to date. -/
theorem observers_run (settings : Settings) (palette : Palette) (naming : NamingPolicy)
    (ids : IdSupply) (calls : List EditorCall) :
    let start := new settings palette naming ids
    (∀ c : EditorCall, c.script.Single →
      ∀ i, (start.run calls).selection.Tells ((start.run calls).call c).selection i) ∧
    ∀ n, ∀ i < n, (start.run (List.replicate n .subscribe ++ calls)).selection.UpToDate i := by
  intro start
  constructor
  · intro c hc i
    have hrun := selection_run_preserves (P := fun _ ↦ True) (fun _ _ h ↦ h) (e := start)
      ⟨rfl, rfl⟩ trivial calls
    exact tells_call hrun.1 hc i
  · intro n i hi
    have hsubscribed := selection_run_subscribe start n
    have hquiet : (start.run (List.replicate n .subscribe)).selection.Quiet := by
      rw [hsubscribed]
      exact ⟨rfl, rfl⟩
    have hinformed : (start.run (List.replicate n .subscribe)).selection.Informed i := by
      rw [hsubscribed]
      exact ⟨Nat.lt_add_left _ hi, .inr ⟨rfl, rfl⟩⟩
    have hrun := selection_run_preserves (P := (·.Informed i)) (fun _ o h ↦ h.serve o) hquiet
      hinformed calls
    rw [run, run, ← List.foldl_append] at hrun
    exact hrun.2.upToDate

def observed : List EditorCall := [
  .addStart,
  .addStart,
  .perform .selectAll,
  .deleteNode ⟨.ofNat 0⟩,
  .perform .cut,
  .paste]

def nestedBatches : EditorCall :=
  .select (.batch (.change .clear (.batch (.batch (.change (.toggleNode ⟨.ofNat 6⟩) .done) .done)
    (.batch .done .done))) .done)

theorem observers_run_observed :
    let start := new {} .empty uniqueName (.ofStream .ofNat)
    let e := start.run (List.replicate 2 .subscribe ++ observed)
    nestedBatches.script.Single ∧ e.selection.Tells (e.call nestedBatches).selection 1 ∧
    1 < 2 ∧ e.selection.UpToDate 1 ∧
    (e.call nestedBatches).selection.received 1 =
      [⟨[⟨.ofNat 0⟩, ⟨.ofNat 3⟩], []⟩, ⟨[⟨.ofNat 3⟩], []⟩, {}, ⟨[⟨.ofNat 6⟩], []⟩,
        ⟨[⟨.ofNat 6⟩], []⟩] := by
  intro start e
  have hsingle : nestedBatches.script.Single := .batch _
  have hcalls := (observers_run {} .empty uniqueName (.ofStream .ofNat)
    (List.replicate 2 .subscribe ++ observed)).1 nestedBatches hsingle 1
  have hlast := (observers_run {} .empty uniqueName (.ofStream .ofNat) observed).2 2 1 (by decide)
  exact ⟨hsingle, hcalls, by decide, hlast, by decide +kernel⟩

end Editor

end PipelineGraph
