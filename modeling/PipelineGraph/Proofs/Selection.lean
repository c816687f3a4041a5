import Mathlib.Data.List.Nodup
import PipelineGraph.Selection.Basic

namespace PipelineGraph

namespace Selected

variable {α : Type} [DecidableEq α]

theorem mem_addAll {present ids : List α} {x : α} :
    x ∈ addAll present ids ↔ x ∈ present ∨ x ∈ ids := by
  unfold addAll
  induction ids generalizing present with
  | nil => simp
  | cons id ids ih =>
    rw [List.foldl_cons, ih, List.mem_cons]
    split
    · rename_i hid
      exact ⟨.imp_right .inr, fun h ↦ h.elim .inl (·.elim (fun he ↦ .inl (he ▸ hid)) .inr)⟩
    · rw [List.mem_append, List.mem_singleton, or_assoc]

theorem addAll_of_nodup {present ids : List α} (h : (present ++ ids).Nodup) :
    addAll present ids = present ++ ids := by
  unfold addAll
  induction ids generalizing present with
  | nil => simp
  | cons id ids ih =>
    have hid : id ∉ present := fun hmem ↦
      (List.nodup_append.1 h).2.2 _ hmem _ List.mem_cons_self rfl
    rw [List.foldl_cons, if_neg hid, ih (by rwa [List.append_assoc]), List.append_assoc]
    rfl

theorem addAll_nil {ids : List α} (h : ids.Nodup) : addAll [] ids = ids :=
  addAll_of_nodup (show ([] ++ ids).Nodup from h)

theorem mem_toggle {present : List α} {id x : α} (h : x ∈ toggle present id) :
    x ∈ present ∨ x = id := by
  unfold toggle at h
  split at h
  · exact .inl (List.mem_of_mem_filter h)
  · exact (List.mem_append.1 h).imp_right List.mem_singleton.1

end Selected

namespace Selection

@[simp] theorem current_announce (s : Selection) : s.announce.current = s.current := rfl

@[simp] theorem current_openBatch (s : Selection) : s.openBatch.current = s.current := rfl

@[simp] theorem current_change (s : Selection) (c : SelectionChange) :
    (s.change c).current = s.current.apply c := by
  unfold change notify
  split <;> rfl

@[simp] theorem current_closeBatch (s : Selection) : s.closeBatch.current = s.current := by
  unfold closeBatch
  dsimp only
  split <;> rfl

theorem current_foldl_change (s : Selection) (cs : List SelectionChange) :
    (cs.foldl change s).current = cs.foldl Selected.apply s.current := by
  induction cs generalizing s with
  | nil => rfl
  | cons c cs ih => rw [List.foldl_cons, ih, current_change, List.foldl_cons]

theorem current_batch (s : Selection) (cs : List SelectionChange) :
    (s.batch cs).current = cs.foldl Selected.apply s.current := by
  rw [batch, current_closeBatch, current_foldl_change, current_openBatch]

end Selection

/-- All selected nodes and edges are in the graph. -/
structure Selected.Within (s : Selected) (g : Graph) : Prop where
  nodes : ∀ id ∈ s.nodes, id ∈ g.nodes
  edges : ∀ id ∈ s.edges, id ∈ g.edges

namespace SelectionChange

variable {s : Selected} {g : Graph}

/-- Whatever the change newly selects is in the graph. -/
def AddsOnly (c : SelectionChange) (s : Selected) (g : Graph) : Prop :=
  (∀ id ∈ (s.apply c).nodes, id ∈ s.nodes ∨ id ∈ g.nodes) ∧
    ∀ id ∈ (s.apply c).edges, id ∈ s.edges ∨ id ∈ g.edges

instance (c : SelectionChange) (s : Selected) (g : Graph) : Decidable (c.AddsOnly s g) :=
  inferInstanceAs (Decidable (_ ∧ _))

theorem kept_subset {extend : Bool} :
    (∀ id ∈ (if extend then s else {}).nodes, id ∈ s.nodes) ∧
      ∀ id ∈ (if extend then s else {}).edges, id ∈ s.edges := by
  cases extend with
  | true => exact ⟨fun _ hid ↦ hid, fun _ hid ↦ hid⟩
  | false => exact ⟨nofun, nofun⟩

theorem addsOnly_selectNodes {ids : List NodeId} (h : ∀ id ∈ ids, id ∈ g.nodes) (extend : Bool) :
    (selectNodes ids extend).AddsOnly s g := by
  refine ⟨fun id hid ↦ ?_, fun id hid ↦ .inl (kept_subset.2 id hid)⟩
  exact (Selected.mem_addAll.1 hid).imp (kept_subset.1 id) (h id)

theorem addsOnly_selectEdges {ids : List EdgeId} (h : ∀ id ∈ ids, id ∈ g.edges) (extend : Bool) :
    (selectEdges ids extend).AddsOnly s g := by
  refine ⟨fun id hid ↦ .inl (kept_subset.1 id hid), fun id hid ↦ ?_⟩
  exact (Selected.mem_addAll.1 hid).imp (kept_subset.2 id) (h id)

theorem addsOnly_selectAll (s : Selected) (g : Graph) : (selectAll g).AddsOnly s g :=
  ⟨fun _ hid ↦ Selected.mem_addAll.1 hid, fun _ hid ↦ Selected.mem_addAll.1 hid⟩

theorem addsOnly_toggleEdge {id : EdgeId} (h : id ∈ g.edges) : (toggleEdge id).AddsOnly s g := by
  refine ⟨fun _ hid ↦ .inl hid, fun id' hid ↦ ?_⟩
  rcases Selected.mem_toggle hid with hid | rfl
  · exact .inl hid
  · exact .inr h

theorem addsOnly_clear (s : Selected) (g : Graph) : clear.AddsOnly s g :=
  ⟨nofun, nofun⟩

end SelectionChange

namespace SelectionScript

/-- At most one call: nothing, one change, one observer, or one batch of whatever is in it. -/
inductive Single : SelectionScript → Prop
  | done : Single .done
  | change (c : SelectionChange) : Single (.change c .done)
  | subscribe : Single (.subscribe .done)
  | batch (body : SelectionScript) : Single (.batch body .done)

/-- Every change of the sequence adds only what is in the graph. -/
def AddsOnly (g : Graph) : SelectionScript → Selection → Prop
  | done, _ => True
  | change c rest, s => c.AddsOnly s.current g ∧ rest.AddsOnly g (s.change c)
  | subscribe rest, s => rest.AddsOnly g s.subscribe
  | batch body rest, s =>
    body.AddsOnly g s.openBatch ∧ rest.AddsOnly g (body.run s.openBatch).closeBatch

instance decidableAddsOnly (g : Graph) :
    (script : SelectionScript) → (s : Selection) → Decidable (script.AddsOnly g s)
  | done, _ => .isTrue trivial
  | change c rest, s => @instDecidableAnd _ _ _ (decidableAddsOnly g rest (s.change c))
  | subscribe rest, s => decidableAddsOnly g rest s.subscribe
  | batch body rest, s => @instDecidableAnd _ _ (decidableAddsOnly g body s.openBatch)
    (decidableAddsOnly g rest (body.run s.openBatch).closeBatch)

end SelectionScript

namespace Selected

variable {s : Selected} {g g' : Graph}

theorem Within.apply {c : SelectionChange} (h : s.Within g) (hc : c.AddsOnly s g) :
    (s.apply c).Within g where
  nodes id hid := (hc.1 id hid).elim (h.nodes id) fun hmem ↦ hmem
  edges id hid := (hc.2 id hid).elim (h.edges id) fun hmem ↦ hmem

theorem within_run {script : SelectionScript} {s : Selection} (h : s.current.Within g)
    (hadds : script.AddsOnly g s) : (script.run s).current.Within g := by
  induction script generalizing s with
  | done => exact h
  | change c rest ih =>
    refine ih ?_ hadds.2
    rw [Selection.current_change]
    exact h.apply hadds.1
  | subscribe rest ih => exact ih (s := s.subscribe) h hadds
  | batch body rest ihbody ihrest =>
    refine ihrest ?_ hadds.2
    rw [Selection.current_closeBatch]
    exact ihbody h hadds.1

theorem Within.mono (h : s.Within g) (hn : ∀ id ∈ g.nodes, id ∈ g'.nodes)
    (he : ∀ id ∈ g.edges, id ∈ g'.edges) : s.Within g' :=
  ⟨fun id hid ↦ hn id (h.nodes id hid), fun id hid ↦ he id (h.edges id hid)⟩

theorem within_empty (g : Graph) : ({} : Selected).Within g :=
  ⟨nofun, nofun⟩

theorem within_retainExisting (s : Selected) (g : Graph) : (s.apply (.retainExisting g)).Within g :=
  ⟨fun _ hid ↦ of_decide_eq_true (List.mem_filter.1 hid).2,
    fun _ hid ↦ of_decide_eq_true (List.mem_filter.1 hid).2⟩

/-- A removal that lists all that is gone leaves nothing of it selected. -/
theorem Within.purge {r : Removal} (h : s.Within g)
    (hn : ∀ id ∈ g.nodes, id ∉ r.nodes → id ∈ g'.nodes)
    (he : ∀ id ∈ g.edges, id ∉ r.edges → id ∈ g'.edges) : (s.apply (.purge r)).Within g' := by
  refine ⟨fun id hid ↦ ?_, fun id hid ↦ ?_⟩
  · obtain ⟨hid, hr⟩ := List.mem_filter.1 hid
    exact hn id (h.nodes id hid) (of_decide_eq_true hr)
  · obtain ⟨hid, hr⟩ := List.mem_filter.1 hid
    exact he id (h.edges id hid) (of_decide_eq_true hr)

end Selected

end PipelineGraph
