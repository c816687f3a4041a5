import PipelineGraph.Proofs.UniqueIds

namespace PipelineGraph

def PasteOutcome.added (o : PasteOutcome) : Removal := ⟨o.nodes, o.edges⟩

namespace Clipboard

variable {g g' : Graph} {outcome : PasteOutcome} {drawn : List Uuid} {ns : List Node}
  {es : List Edge}

theorem Appended.nodup_ids (h : Appended g drawn outcome g' ns es) :
    outcome.nodes.Nodup ∧ outcome.edges.Nodup := by
  have hnodes := g'.nodup_nodeIds
  have hedges := g'.nodup_edgeIds
  rw [h.nodes, List.map_append] at hnodes
  rw [h.edges, List.map_append] at hedges
  rw [h.nodeIds, h.edgeIds]
  exact ⟨(List.nodup_append.1 hnodes).2.1, (List.nodup_append.1 hedges).2.1⟩

/-- The removal of the pasted nodes takes the pasted edges along, since each ends on one of them,
and leaves the old ones, since none of these knew the new identifiers. -/
theorem Appended.removeNodes_eq (h : Appended g drawn outcome g' ns es)
    (hnew : ∀ u ∈ drawn, u ∉ g.snapshot.uuids) :
    g'.removeNodes outcome.nodes = (outcome.added, g) := by
  have hold (e : Edge) (he : e ∈ g.edgeList) (id : NodeId) (hid : id.uuid ∈ e.uuids) :
      id ∉ ns.map (·.id) := by
    intro hmem
    obtain ⟨n, hn, rfl⟩ := List.mem_map.1 hmem
    have hused : n.id.uuid ∈ g.snapshot.uuids :=
      List.mem_append_right _ (List.mem_flatMap.2 ⟨e, he, hid⟩)
    exact hnew _ (h.uuid_mem_drawn hn) hused
  rw [PasteOutcome.added, h.nodeIds, h.edgeIds]
  apply Graph.removeNodes_of_append h.nodes h.edges
  · intro e he
    exact ⟨hold e he _ (by simp [Edge.uuids]), hold e he _ (by simp [Edge.uuids])⟩
  · intro e he
    obtain ⟨n, hn, htarget⟩ := h.targets e he
    exact htarget ▸ List.mem_map_of_mem hn

variable {c : Clipboard} {s : Selection} {naming : NamingPolicy} {offset : Point} {ids : IdSupply}

theorem current_paste (hne : c.isEmpty = false)
    (hnodup : (c.paste g s naming offset ids).1.nodes.Nodup ∧
      (c.paste g s naming offset ids).1.edges.Nodup) :
    (c.paste g s naming offset ids).2.2.1.current =
      ⟨(c.paste g s naming offset ids).1.nodes, (c.paste g s naming offset ids).1.edges⟩ := by
  obtain ⟨twins, es, dropped, ids', -, -, -, -, heq⟩ := exists_paste_eq hne g s naming offset ids
  rw [heq] at hnodup ⊢
  refine (Selection.current_batch _ _).trans ?_
  exact congrArg₂ _ (Selected.addAll_nil hnodup.1) (Selected.addAll_nil hnodup.2)

theorem deleteSelected_paste (hne : c.isEmpty = false)
    (hfresh : ids.Fresh (c.paste g s naming offset ids).2.2.2 g.snapshot.uuids) :
    let r := c.paste g s naming offset ids
    (deleteSelected r.2.1 r.2.2.1).1 = r.1.added ∧ (deleteSelected r.2.1 r.2.2.1).2.1 = g := by
  intro r
  obtain ⟨ns, es, h⟩ := exists_appended_paste c g s naming offset ids hfresh
  have hcurrent := current_paste hne h.nodup_ids
  have hcascade := h.removeNodes_eq hfresh.2
  have hnone : r.1.edges.filter (fun id ↦ id ∉ r.1.added.edges) = [] :=
    List.filter_eq_nil_iff.2 fun id hid hgone ↦ of_decide_eq_true hgone hid
  simp only [deleteSelected, r, hcurrent, hcascade]
  rw [hnone, Graph.removeEdges_nil]
  exact ⟨by simp [PasteOutcome.added], rfl⟩

variable {twins : List Twin}

theorem uuids_of_rewire? {x y : Endpoint} (h : rewire? twins x = some y) :
    y.node.uuid ∈ twins.flatMap (·.copy.uuids) ∧ y.port.uuid ∈ twins.flatMap (·.copy.uuids) := by
  obtain ⟨t, ht, i, -, q, hq, rfl⟩ := rewire?_eq_some_iff.1 h
  have hmem : t ∈ twins := List.mem_reverse.1 (List.mem_of_find?_eq_some ht)
  have hport : q.id ∈ t.copy.ports.toList.map (·.id) :=
    List.mem_map_of_mem (List.mem_of_getElem? hq)
  exact ⟨List.mem_flatMap.2 ⟨t, hmem, List.mem_cons_self⟩,
    List.mem_flatMap.2 ⟨t, hmem, uuid_mem_uuids hport⟩⟩

theorem Rewired.uuids_subset {e e' : Edge} (hr : Rewired twins offset e e') :
    e'.uuids ⊆ e'.id.uuid :: twins.flatMap (·.copy.uuids) := by
  obtain ⟨hsource, hsourcePort⟩ := uuids_of_rewire? hr.source
  obtain ⟨htarget, htargetPort⟩ := uuids_of_rewire? hr.target
  refine List.cons_subset_cons _ fun u hu ↦ ?_
  simp only [List.mem_cons, List.not_mem_nil, or_false] at hu
  rcases hu with rfl | rfl | rfl | rfl
  · exact hsource
  · exact hsourcePort
  · exact htarget
  · exact htargetPort

theorem uuids_paste_subset (c : Clipboard) (g : Graph) (s : Selection) (naming : NamingPolicy)
    (offset : Point) (ids : IdSupply)
    (hfresh : ids.Fresh (c.paste g s naming offset ids).2.2.2 g.snapshot.uuids) :
    (c.paste g s naming offset ids).2.1.snapshot.uuids ⊆
      g.snapshot.uuids ++ ids.drawnUntil (c.paste g s naming offset ids).2.2.2 := by
  cases hne : c.isEmpty with
  | true =>
    rw [paste, hne]
    exact List.subset_append_left _ _
  | false =>
    obtain ⟨twins, es, dropped, ids', -, hes, -, hdraws, heq⟩ :=
      exists_paste_eq hne g s naming offset ids
    rw [heq] at hfresh ⊢
    obtain ⟨hnodup, hnew⟩ := (hdraws.fresh_iff _).1 hfresh
    obtain ⟨htwins, hedges, -⟩ := List.nodup_append.1 hnodup
    obtain ⟨hnodes, hedges⟩ := lists_addAll htwins hedges.of_map hnew
    rw [hdraws.drawnUntil_eq]
    have hcopies : (twins.map Twin.copy).flatMap Node.uuids = twins.flatMap (·.copy.uuids) :=
      List.flatMap_map ..
    simp only [Snapshot.uuids, Graph.snapshot, hnodes, hedges, List.flatMap_append, hcopies]
    intro u hu
    simp only [List.mem_append] at hu ⊢
    rcases hu with (hu | hu) | (hu | hu)
    · exact .inl (.inl hu)
    · exact .inr (.inl hu)
    · exact .inl (.inr hu)
    · obtain ⟨e', he', hu⟩ := List.mem_flatMap.1 hu
      obtain ⟨_, -, hr⟩ := exists_left_of_forall₂ hes e' he'
      rcases List.mem_cons.1 (hr.uuids_subset hu) with rfl | hu
      · exact .inr (.inr (List.mem_map_of_mem (List.mem_map_of_mem he')))
      · exact .inr (.inl hu)

end Clipboard

structure PasteRequest where
  clipboard : Clipboard
  selection : Selection := {}
  naming : NamingPolicy
  offset : Point

namespace PasteRequest

def paste (r : PasteRequest) (g : Graph) (ids : IdSupply) :
    PasteOutcome × Graph × Selection × IdSupply :=
  r.clipboard.paste g r.selection r.naming r.offset ids

def pasteAll : List PasteRequest → Graph → IdSupply → List PasteOutcome × Graph × IdSupply
  | [], g, ids => ([], g, ids)
  | r :: rest, g, ids =>
    let (outcome, g, _, ids) := r.paste g ids
    let (outcomes, g, ids) := pasteAll rest g ids
    (outcome :: outcomes, g, ids)

/-- The identifiers that each paste draws are new to the graph it is made in. -/
def EachFresh : List PasteRequest → Graph → IdSupply → Prop
  | [], _, _ => True
  | r :: rest, g, ids =>
    ids.Fresh (r.paste g ids).2.2.2 g.snapshot.uuids ∧
      EachFresh rest (r.paste g ids).2.1 (r.paste g ids).2.2.2

theorem exists_draws_pasteAll (rs : List PasteRequest) (g : Graph) (ids : IdSupply) :
    ∃ us, ids.Draws us (pasteAll rs g ids).2.2 := by
  induction rs generalizing g ids with
  | nil => exact ⟨[], .nil ids⟩
  | cons r rs ih =>
    obtain ⟨us, hus⟩ := Clipboard.exists_draws_paste r.clipboard r.selection r.naming r.offset ids
    obtain ⟨vs, hvs⟩ := ih (r.paste g ids).2.1 (r.paste g ids).2.2.2
    exact ⟨us ++ vs, hus.trans hvs⟩

theorem eachFresh_of_fresh {rs : List PasteRequest} {g : Graph} {ids : IdSupply}
    (h : ids.Fresh (pasteAll rs g ids).2.2 g.snapshot.uuids) : EachFresh rs g ids := by
  induction rs generalizing g ids with
  | nil => trivial
  | cons r rs ih =>
    obtain ⟨us, hus⟩ := Clipboard.exists_draws_paste r.clipboard r.selection r.naming r.offset ids
    obtain ⟨vs, hvs⟩ := exists_draws_pasteAll rs (r.paste g ids).2.1 (r.paste g ids).2.2.2
    obtain ⟨hnodup, hnew⟩ := ((hus.trans hvs).fresh_iff _).1 h
    obtain ⟨hus', hvs', hapart⟩ := List.nodup_append.1 hnodup
    have hfirst : ids.Fresh (r.paste g ids).2.2.2 g.snapshot.uuids :=
      (hus.fresh_iff _).2 ⟨hus', fun u hu ↦ hnew u (List.mem_append_left _ hu)⟩
    refine ⟨hfirst, ih ((hvs.fresh_iff _).2 ⟨hvs', fun v hv hused ↦ ?_⟩)⟩
    have hmem := Clipboard.uuids_paste_subset _ _ _ _ _ _ hfirst hused
    rw [hus.drawnUntil_eq] at hmem
    rcases List.mem_append.1 hmem with hold | hdrawn
    · exact hnew v (List.mem_append_right _ hv) hold
    · exact hapart v hdrawn v hv rfl

end PasteRequest

/-- Removes the nodes that each paste of a series produced, the last first. The removals are listed
in the order of the pastes. -/
def Graph.undoPastes (g : Graph) : List PasteOutcome → List Removal × Graph
  | [] => ([], g)
  | o :: later =>
    let (removals, g) := g.undoPastes later
    let (removal, g) := g.removeNodes o.nodes
    (removal :: removals, g)

namespace PasteRequest

theorem undoPastes_pasteAll {rs : List PasteRequest} {g : Graph} {ids : IdSupply}
    (h : EachFresh rs g ids) :
    (pasteAll rs g ids).2.1.undoPastes (pasteAll rs g ids).1 =
        ((pasteAll rs g ids).1.map PasteOutcome.added, g) ∧
      ∀ o ∈ (pasteAll rs g ids).1, o.nodes.Nodup ∧ o.edges.Nodup := by
  induction rs generalizing g ids with
  | nil => exact ⟨rfl, nofun⟩
  | cons r rs ih =>
    obtain ⟨hfresh, hrest⟩ := h
    obtain ⟨ns, es, happended⟩ := Clipboard.exists_appended_paste r.clipboard g r.selection r.naming
      r.offset ids hfresh
    obtain ⟨hlater, hnodup⟩ := ih hrest
    have hfirst := happended.removeNodes_eq hfresh.2
    constructor
    · simp only [pasteAll, Graph.undoPastes, hlater, List.map_cons]
      rw [paste, hfirst]
    · exact List.forall_mem_cons.2 ⟨happended.nodup_ids, hnodup⟩

end PasteRequest

open PasteRequest

/-- Deleting what was just pasted gives the graph back and reports what the paste reported. So does
deleting what each paste of a series produced, the last first. All that is assumed is that every
paste draws identifiers new to the graph, and this is so if those of the whole series differ from
each other and are new to the graph at its start. -/
theorem delete_after_paste :
    (∀ (c : Clipboard) (g : Graph) (s : Selection) (naming : NamingPolicy) (offset : Point)
        (ids : IdSupply), c.isEmpty = false →
      ids.Fresh (c.paste g s naming offset ids).2.2.2 g.snapshot.uuids →
      let r := c.paste g s naming offset ids
      let d := deleteSelected r.2.1 r.2.2.1
      d.1 = r.1.added ∧ r.1.nodes.Nodup ∧ r.1.edges.Nodup ∧ d.2.1 = g) ∧
    (∀ (rs : List PasteRequest) (g : Graph) (ids : IdSupply), EachFresh rs g ids →
      let r := pasteAll rs g ids
      r.2.1.undoPastes r.1 = (r.1.map PasteOutcome.added, g) ∧
        ∀ o ∈ r.1, o.nodes.Nodup ∧ o.edges.Nodup) ∧
    ∀ (rs : List PasteRequest) (g : Graph) (ids : IdSupply),
      ids.Fresh (pasteAll rs g ids).2.2 g.snapshot.uuids → EachFresh rs g ids := by
  refine ⟨fun c g s naming offset ids hne hfresh ↦ ?_, fun rs g ids ↦ undoPastes_pasteAll,
    fun rs g ids ↦ eachFresh_of_fresh⟩
  obtain ⟨ns, es, happended⟩ := Clipboard.exists_appended_paste c g s naming offset ids hfresh
  obtain ⟨hremoval, hgraph⟩ := Clipboard.deleteSelected_paste hne hfresh
  obtain ⟨hnodes, hedges⟩ := happended.nodup_ids
  exact ⟨hremoval, hnodes, hedges, hgraph⟩

def chainPart : Clipboard :=
  ({ offset := .zero } : Clipboard).copy Clipboard.chain ⟨Clipboard.chain.nodes.keys.take 2, []⟩

def chainPastes : List PasteRequest :=
  List.replicate 2
    { clipboard := chainPart, naming := uniqueName, offset := Clipboard.defaultOffset }

theorem delete_after_paste_chain :
    let ids := IdSupply.ofStream fun n ↦ .ofNat (n + 100)
    let pasted := chainPart.paste Clipboard.chain {} uniqueName .zero ids
    let series := pasteAll chainPastes Clipboard.chain ids
    chainPart.isEmpty = false ∧ ids.Fresh pasted.2.2.2 Clipboard.chain.snapshot.uuids ∧
    (deleteSelected pasted.2.1 pasted.2.2.1).2.1 = Clipboard.chain ∧
    ids.Fresh series.2.2 Clipboard.chain.snapshot.uuids ∧
    EachFresh chainPastes Clipboard.chain ids ∧
    series.2.1.undoPastes series.1 = (series.1.map PasteOutcome.added, Clipboard.chain) ∧
    series.2.1.nodeList.map (·.name) =
      ["Start", "f", "f-1", "Start-1", "f-2", "Start-2", "f-3"] ∧
    series.1.map (·.edges.length) = [1, 1] := by
  intro ids pasted series
  have hne : chainPart.isEmpty = false := by decide +kernel
  have hpasted : ids.Fresh pasted.2.2.2 Clipboard.chain.snapshot.uuids := by decide +kernel
  have hfresh : ids.Fresh series.2.2 Clipboard.chain.snapshot.uuids := by decide +kernel
  have heach := delete_after_paste.2.2 chainPastes Clipboard.chain ids hfresh
  obtain ⟨-, -, -, hdeleted⟩ :=
    delete_after_paste.1 chainPart Clipboard.chain {} uniqueName .zero ids hne hpasted
  obtain ⟨hundone, -⟩ := delete_after_paste.2.1 chainPastes Clipboard.chain ids heach
  refine ⟨hne, hpasted, ?_, hfresh, heach, hundone, ?_, ?_⟩
  · with_reducible exact hdeleted
  · decide +kernel
  · decide +kernel

end PipelineGraph
