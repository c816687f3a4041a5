import Mathlib.Logic.Relation
import PipelineGraph.Proofs.Graph
import PipelineGraph.Graph.Reachability

namespace PipelineGraph.Graph

variable {arcs : List (NodeId × NodeId)} {known reached pending : List NodeId} {m n k : NodeId}

theorem mem_newOnes {l : List NodeId} : n ∈ newOnes known l ↔ n ∈ l ∧ n ∉ known := by
  induction l generalizing known with
  | nil => simp [newOnes]
  | cons m l ih =>
    unfold newOnes
    split
    · rename_i hm
      rw [ih, List.mem_cons]
      refine and_congr_left fun hn ↦ (or_iff_right ?_).symm
      rintro rfl
      exact hn hm
    · rename_i hm
      rw [List.mem_cons, ih, List.mem_cons, List.mem_cons, not_or]
      by_cases he : n = m
      · simp [he, hm]
      · simp [he]

theorem mem_targetsOf : k ∈ targetsOf arcs n ↔ (n, k) ∈ arcs := by
  unfold targetsOf
  rw [List.mem_map]
  constructor
  · rintro ⟨a, ha, rfl⟩
    obtain ⟨ha, hn⟩ := List.mem_filter.1 ha
    rwa [← of_decide_eq_true hn]
  · exact fun h ↦ ⟨(n, k), List.mem_filter.2 ⟨h, decide_eq_true rfl⟩, rfl⟩

theorem mem_arcsNotFrom : (m, k) ∈ arcsNotFrom arcs n ↔ (m, k) ∈ arcs ∧ m ≠ n := by
  rw [arcsNotFrom, List.mem_filter, decide_eq_true_eq]

abbrev Leads (arcs : List (NodeId × NodeId)) : NodeId → NodeId → Prop :=
  Relation.ReflTransGen fun m n ↦ (m, n) ∈ arcs

theorem Leads.of_arcsNotFrom (h : Leads (arcsNotFrom arcs n) m k) : Leads arcs m k :=
  Relation.ReflTransGen.mono (fun _ _ ha ↦ (mem_arcsNotFrom.1 ha).1) _ _ h

theorem Leads.after_visit (hreached : n ∈ reached)
    (hopen : ∀ a ∈ arcs, a.1 ∈ reached → a.1 ∈ n :: pending) {p : NodeId} (hp : p ∈ n :: pending)
    (h : Leads arcs p k) :
    k ∈ reached ++ newOnes reached (targetsOf arcs n) ∨
      ∃ q ∈ pending ++ newOnes reached (targetsOf arcs n), Leads (arcsNotFrom arcs n) q k := by
  induction h with
  | refl =>
    rcases List.mem_cons.1 hp with rfl | hp
    · exact .inl (List.mem_append_left _ hreached)
    · exact .inr ⟨p, List.mem_append_left _ hp, .refl⟩
  | @tail m k _ harc ih =>
    -- The arcs of `n` are used up now. Every other arc is still there, and its source is pending if
    -- it is reached, so that the rest of the path can start at it.
    by_cases hm : m = n
    · left
      by_cases hk : k ∈ reached
      · exact List.mem_append_left _ hk
      · exact List.mem_append_right _ (mem_newOnes.2 ⟨mem_targetsOf.2 (hm ▸ harc), hk⟩)
    · right
      have harc' : (m, k) ∈ arcsNotFrom arcs n := mem_arcsNotFrom.2 ⟨harc, hm⟩
      rcases ih with hmem | ⟨q, hq, hpath⟩
      · refine ⟨m, ?_, .single harc'⟩
        rcases List.mem_append.1 hmem with hmem | hmem
        · have hpending := (List.mem_cons.1 (hopen _ harc hmem)).resolve_left hm
          exact List.mem_append_left _ hpending
        · exact List.mem_append_right _ hmem
      · exact ⟨q, hq, hpath.tail harc'⟩

/-- If all arcs from reached nodes start at pending ones, the search finds what is reached or led to
from a pending node. -/
theorem mem_explore (hsub : pending ⊆ reached)
    (hopen : ∀ a ∈ arcs, a.1 ∈ reached → a.1 ∈ pending) :
    k ∈ explore arcs reached pending ↔ k ∈ reached ∨ ∃ p ∈ pending, Leads arcs p k := by
  fun_induction explore arcs reached pending with
  | case1 arcs reached => simp
  | case2 arcs reached n rest fresh ih =>
    have hn : n ∈ reached := hsub List.mem_cons_self
    rw [ih]
    · constructor
      · rintro (hk | ⟨p, hp, hpath⟩)
        · rcases List.mem_append.1 hk with hk | hk
          · exact .inl hk
          · exact .inr ⟨n, List.mem_cons_self, .single (mem_targetsOf.1 (mem_newOnes.1 hk).1)⟩
        · have hpath := hpath.of_arcsNotFrom
          rcases List.mem_append.1 hp with hp | hp
          · exact .inr ⟨p, List.mem_cons_of_mem _ hp, hpath⟩
          · have harc := mem_targetsOf.1 (mem_newOnes.1 hp).1
            exact .inr ⟨n, List.mem_cons_self, .head harc hpath⟩
      · rintro (hk | ⟨p, hp, hpath⟩)
        · exact .inl (List.mem_append_left _ hk)
        · exact hpath.after_visit hn hopen hp
    · intro p hp
      rcases List.mem_append.1 hp with hp | hp
      · exact List.mem_append_left _ (hsub (List.mem_cons_of_mem _ hp))
      · exact List.mem_append_right _ hp
    · rintro ⟨m, k⟩ ha hm
      obtain ⟨ha, hmn⟩ := mem_arcsNotFrom.1 ha
      rcases List.mem_append.1 hm with hm | hm
      · exact List.mem_append_left _ ((List.mem_cons.1 (hopen _ ha hm)).resolve_left hmn)
      · exact List.mem_append_right _ hm

theorem controlPath_iff_leads {g : Graph} : g.ControlPath m n ↔ Leads g.controlArcs m n := by
  constructor
  · intro h
    induction h with
    | refl => exact .refl
    | step _ arc ih => exact ih.tail arc
  · intro h
    induction h with
    | refl => exact .refl m
    | tail _ arc ih => exact ih.step arc

theorem mem_controlArcs {g : Graph} : (m, n) ∈ g.controlArcs ↔
    ∃ e ∈ g.edgeList, e.layer = .control ∧ e.source.node = m ∧ e.target.node = n := by
  simp [controlArcs, List.mem_filter, and_assoc]

theorem controlArcs_addEdge {g : Graph} {e : Edge} (he : e.id ∉ g.edges) :
    (g.addEdge e).controlArcs =
      g.controlArcs ++ if e.layer = .control then [(e.source.node, e.target.node)] else [] := by
  rw [controlArcs, edgeList_addEdge he, List.filter_append, List.map_append, controlArcs]
  by_cases hlayer : e.layer = .control
  · simp [hlayer]
  · simp [hlayer]

theorem ControlPath.trans {g : Graph} (hpath : g.ControlPath m n) (hrest : g.ControlPath n k) :
    g.ControlPath m k := by
  induction hrest with
  | refl => exact hpath
  | step _ arc ih => exact ih.step arc

theorem ControlPath.mono {g h : Graph} (harcs : g.controlArcs ⊆ h.controlArcs)
    (hpath : g.ControlPath m n) : h.ControlPath m n := by
  induction hpath with
  | refl => exact .refl m
  | step _ arc ih => exact ih.step (harcs arc)

/-- A path of control edges leads to the node from a start node. -/
def OnControlPath (g : Graph) (n : NodeId) : Prop :=
  ∃ start ∈ g.nodeList, start.isStart = true ∧ g.ControlPath start.id n

theorem OnControlPath.step {g : Graph} (hm : g.OnControlPath m) (harc : (m, n) ∈ g.controlArcs) :
    g.OnControlPath n := by
  obtain ⟨start, hstart, hkind, hpath⟩ := hm
  exact ⟨start, hstart, hkind, hpath.step harc⟩

theorem onControlPath_iff_startIds {g : Graph} :
    g.OnControlPath n ↔ ∃ s ∈ g.startIds, g.ControlPath s n := by
  simp [OnControlPath, startIds, and_assoc]

/-- What is reached stays reached if the start nodes stay and so do the control edges that leave
nodes that are reached. -/
theorem OnControlPath.mono {g h : Graph} (hstarts : g.startIds ⊆ h.startIds)
    (harcs : ∀ m k, (m, k) ∈ g.controlArcs → g.OnControlPath m → (m, k) ∈ h.controlArcs)
    (hn : g.OnControlPath n) : h.OnControlPath n := by
  obtain ⟨s, hs, hpath⟩ := onControlPath_iff_startIds.1 hn
  apply onControlPath_iff_startIds.2
  refine ⟨s, hstarts hs, ?_⟩
  clear hn
  induction hpath with
  | refl => exact .refl s
  | step path arc ih =>
    have hreached : g.OnControlPath _ := onControlPath_iff_startIds.2 ⟨s, hs, path⟩
    exact ih.step (harcs _ _ arc hreached)

theorem mem_reachable {g : Graph} : n ∈ g.reachable ↔ g.OnControlPath n := by
  have hmem {s : NodeId} :
      s ∈ newOnes [] g.startIds ↔ ∃ m ∈ g.nodeList, m.isStart = true ∧ m.id = s := by
    rw [mem_newOnes, startIds, List.mem_map]
    simp [List.mem_filter, and_assoc]
  unfold reachable
  rw [mem_explore (List.Subset.refl _) fun _ _ h ↦ h]
  constructor
  · rintro (h | ⟨s, hs, hpath⟩)
    · obtain ⟨m, hm, hstart, rfl⟩ := hmem.1 h
      exact ⟨m, hm, hstart, .refl _⟩
    · obtain ⟨m, hm, hstart, rfl⟩ := hmem.1 hs
      exact ⟨m, hm, hstart, controlPath_iff_leads.2 hpath⟩
  · rintro ⟨m, hm, hstart, hpath⟩
    exact .inr ⟨m.id, hmem.2 ⟨m, hm, hstart, rfl⟩, controlPath_iff_leads.1 hpath⟩

instance (g : Graph) (n : NodeId) : Decidable (g.OnControlPath n) :=
  decidable_of_iff (n ∈ g.reachable) mem_reachable

end PipelineGraph.Graph
