import Mathlib.Data.List.Pairwise
import PipelineGraph.Proofs.Calls
import PipelineGraph.Proofs.Removal

namespace PipelineGraph

def portIds (ns : List Node) : List PortId := ns.flatMap fun n ↦ n.ports.toList.map (·.id)

section portIds

variable {ns ns' : List Node}

theorem portIds_append (ns ns' : List Node) : portIds (ns ++ ns') = portIds ns ++ portIds ns' :=
  List.flatMap_append

theorem portIds_congr (h : ns'.map (·.ports) = ns.map (·.ports)) : portIds ns' = portIds ns := by
  have hports (l : List Node) :
      portIds l = (l.map (·.ports)).flatMap fun ps ↦ ps.toList.map (·.id) := by
    rw [List.flatMap_map]
    rfl
  rw [hports, hports, h]

theorem nodup_portIds_of_subset (hnodup : ns'.Nodup) (hsub : ns' ⊆ ns) (h : (portIds ns).Nodup) :
    (portIds ns').Nodup := by
  obtain ⟨heach, hapart⟩ := List.nodup_flatMap.1 h
  refine List.nodup_flatMap.2 ⟨fun n hn ↦ heach n (hsub hn), ?_⟩
  have hsymm : Std.Symm (Function.onFun List.Disjoint fun n : Node ↦ n.ports.toList.map (·.id)) :=
    ⟨fun _ _ hmn _ hm hn ↦ hmn hn hm⟩
  exact hnodup.pairwise_of_forall_ne fun m hm n hn hne ↦ hapart.forall (hsub hm) (hsub hn) hne

theorem uuid_mem_uuids {n : Node} {id : PortId} (h : id ∈ n.ports.toList.map (·.id)) :
    id.uuid ∈ n.uuids := by
  obtain ⟨p, hp, rfl⟩ := List.mem_map.1 h
  exact List.mem_cons_of_mem _ (NodePorts.uuid_mem hp)

theorem uuid_mem_of_mem_portIds {id : PortId} (h : id ∈ portIds ns) :
    id.uuid ∈ ns.flatMap Node.uuids := by
  obtain ⟨n, hn, hid⟩ := List.mem_flatMap.1 h
  exact List.mem_flatMap.2 ⟨n, hn, uuid_mem_uuids hid⟩

theorem nodup_portIds_of_nodup_uuids (h : (ns.flatMap Node.uuids).Nodup) : (portIds ns).Nodup := by
  obtain ⟨heach, hapart⟩ := List.nodup_flatMap.1 h
  refine List.nodup_flatMap.2 ⟨fun n hn ↦ ?_, hapart.imp fun hmn id hm hn ↦ ?_⟩
  · have hports : n.ports.uuids.Nodup := (List.nodup_cons.1 (heach n hn)).2
    rw [← (NodePorts.perm_uuids _).nodup_iff] at hports
    exact List.Nodup.of_map (·.uuid) (by rwa [List.map_map])
  · exact hmn (uuid_mem_uuids hm) (uuid_mem_uuids hn)

end portIds

namespace Graph

variable {g : Graph}

theorem nodup_portIds_removeNodes (hg : (portIds g.nodeList).Nodup) (ids : List NodeId) :
    (portIds (g.removeNodes ids).2.nodeList).Nodup :=
  nodup_portIds_of_subset (nodup_nodeList _) (nodeList_removeNodes_subset _ _) hg

theorem nodup_portIds_ofSnapshot {s : Snapshot} (hs : (portIds s.nodes).Nodup) :
    (portIds (ofSnapshot s).nodeList).Nodup :=
  nodup_portIds_of_subset (nodup_nodeList _) (fun _ hn ↦ OrderedMap.of_mem_values_index hn) hs

theorem nodup_portIds_append {ns : List Node} (hg : (portIds g.nodeList).Nodup)
    (hns : (ns.flatMap Node.uuids).Nodup)
    (hnew : ∀ u ∈ ns.flatMap Node.uuids, u ∉ g.snapshot.uuids) :
    (portIds (g.nodeList ++ ns)).Nodup := by
  rw [portIds_append]
  refine hg.append (nodup_portIds_of_nodup_uuids hns) fun id hid hid' ↦ ?_
  refine hnew _ (uuid_mem_of_mem_portIds hid') (List.mem_append_left _ ?_)
  exact uuid_mem_of_mem_portIds hid

theorem nodup_portIds_addNode {n : Node} {ids ids' : IdSupply} (hg : (portIds g.nodeList).Nodup)
    (hdraws : ids.Draws n.uuids ids') (hfresh : ids.Fresh ids' g.snapshot.uuids) :
    (portIds (g.addNode n).nodeList).Nodup := by
  obtain ⟨hnodup, hnew⟩ := (hdraws.fresh_iff _).1 hfresh
  rw [nodeList_addNode (notMem_nodes_of_draws hdraws hfresh)]
  exact nodup_portIds_append hg (by simpa using hnodup) (by simpa using hnew)

theorem map_ports_changeNode (g : Graph) (id : NodeId) (c : NodeChange) :
    (g.changeNode id c).nodeList.map (·.ports) = g.nodeList.map (·.ports) := by
  simp only [nodeList, changeNode, OrderedMap.values, OrderedMap.adjust, List.map_map]
  refine List.map_congr_left fun x _ ↦ ?_
  simp only [Function.comp_apply]
  split <;> rfl

theorem map_ports_drag (g : Graph) (d : Drag) (pointer : Point) :
    (d.update g pointer).2.nodeList.map (·.ports) = g.nodeList.map (·.ports) :=
  d.update_preserves (P := fun h ↦ h.nodeList.map (·.ports) = g.nodeList.map (·.ports))
    (fun _ _ _ _ h ↦ (map_ports_changeNode _ _ _).trans h) rfl pointer

def pastedUuids (g : Graph) (o : PasteOutcome) : List Uuid :=
  (g.nodeList.filter fun n ↦ n.id ∈ o.nodes).flatMap Node.uuids ++ o.edges.map (·.uuid)

end Graph

namespace Clipboard

variable {g : Graph}

theorem exists_draws_paste (c : Clipboard) (s : Selection) (naming : NamingPolicy)
    (offset : Point) (ids : IdSupply) :
    ∃ us, ids.Draws us (c.paste g s naming offset ids).2.2.2 := by
  cases hne : c.isEmpty with
  | true =>
    rw [paste, hne]
    exact ⟨[], .nil ids⟩
  | false =>
    obtain ⟨_, _, _, _, -, -, -, hdraws, heq⟩ := exists_paste_eq hne g s naming offset ids
    rw [heq]
    exact ⟨_, hdraws⟩

theorem nodup_portIds_paste (c : Clipboard) (s : Selection) (naming : NamingPolicy)
    (offset : Point) (ids : IdSupply) (hg : (portIds g.nodeList).Nodup)
    (hfresh : ids.Fresh (c.paste g s naming offset ids).2.2.2 g.snapshot.uuids) :
    (portIds (c.paste g s naming offset ids).2.1.nodeList).Nodup := by
  obtain ⟨ns, es, h⟩ := exists_appended_paste c g s naming offset ids hfresh
  obtain ⟨hnodup, hnew⟩ := hfresh
  rw [h.drawn_eq] at hnodup hnew
  rw [h.nodes]
  exact Graph.nodup_portIds_append hg (List.nodup_append.1 hnodup).1
    fun u hu ↦ hnew u (List.mem_append_left _ hu)

theorem pastedUuids_subset (c : Clipboard) (s : Selection) (naming : NamingPolicy)
    (offset : Point) (ids : IdSupply)
    (hfresh : ids.Fresh (c.paste g s naming offset ids).2.2.2 g.snapshot.uuids) :
    (c.paste g s naming offset ids).2.1.pastedUuids (c.paste g s naming offset ids).1 ⊆
      ids.drawnUntil (c.paste g s naming offset ids).2.2.2 := by
  obtain ⟨ns, es, h⟩ := exists_appended_paste c g s naming offset ids hfresh
  unfold Graph.pastedUuids
  intro u hu
  rw [h.nodes, h.nodeIds, h.edgeIds] at hu
  rcases List.mem_append.1 hu with hu | hu
  · obtain ⟨n, hn, hu⟩ := List.mem_flatMap.1 hu
    rw [List.mem_filter, decide_eq_true_eq, List.mem_append] at hn
    obtain ⟨hn | hn, hid⟩ := hn
    · obtain ⟨m, hm, hid⟩ := List.mem_map.1 hid
      have hold : n.id.uuid ∈ g.snapshot.uuids :=
        Graph.uuid_mem_of_mem_nodes (Graph.mem_nodes_iff.2 ⟨n, hn, rfl⟩)
      exact absurd (hid ▸ hold) (hfresh.2 _ (h.uuid_mem_drawn hm))
    · rw [h.drawn_eq]
      exact List.mem_append_left _ (List.mem_flatMap.2 ⟨n, hn, hu⟩)
  · rw [h.drawn_eq]
    exact List.mem_append_right _ hu

end Clipboard

namespace Editor

def isPaste (e : Editor) : EditorCall → Bool
  | .paste => true
  | .perform a => !e.modalOpen && a = .paste
  | .keyPressed k m => !e.modalOpen && EditorAction.ofKey? k m = some .paste
  | _ => false

def pasted (e : Editor) (c : EditorCall) : List Uuid :=
  if e.isPaste c then (e.call c).graph.pastedUuids e.paste.1 else []

theorem call_of_isPaste {e : Editor} {c : EditorCall} (h : e.isPaste c = true) :
    e.call c = e.paste.2 := by
  cases c with
  | paste => rfl
  | perform a =>
    simp only [isPaste, Bool.and_eq_true, Bool.not_eq_true', decide_eq_true_eq] at h
    obtain ⟨hmodal, rfl⟩ := h
    simp [call, perform, hmodal]
  | keyPressed k m =>
    simp only [isPaste, Bool.and_eq_true, Bool.not_eq_true', decide_eq_true_eq] at h
    obtain ⟨hmodal, hkey⟩ := h
    simp [call, keyPressed, perform, hkey, hmodal]
  | _ => exact (Bool.false_ne_true h).elim

theorem exists_draws_call (e : Editor) (c : EditorCall) :
    ∃ us, e.ids.Draws us (e.call c).ids := by
  have heffect : e.Effect c _ _ _ _ := e.becomes_call c
  generalize (e.call c).graph = g', (e.call c).selection = selection,
    (e.call c).clipboard = clipboard, (e.call c).ids = ids at heffect ⊢
  cases heffect with
  | addFunction f position => exact ⟨_, Node.draws_newFunction f (e.naming f.name e.graph) e.ids⟩
  | addStart => exact ⟨_, Node.draws_newStart (e.naming e.settings.startName e.graph) e.ids⟩
  | connect source target =>
    unfold Graph.connect
    split
    · exact ⟨_, .nil _⟩
    · exact ⟨_, .cons (.nil _)⟩
  | paste => exact Clipboard.exists_draws_paste _ _ _ _ _
  | _ => exact ⟨_, .nil _⟩

/-- The identifiers that a call draws are new: to all that were drawn before, to the graph and to
the clipboard. -/
def NovelCall (e : Editor) (c : EditorCall) : Prop :=
  e.ids.Fresh (e.call c).ids
    (e.ids.issued ++ (e.graph.snapshot.uuids ++ e.clipboard.contents.uuids))

instance (e : Editor) (c : EditorCall) : Decidable (e.NovelCall c) :=
  inferInstanceAs (Decidable (e.ids.Fresh _ _))

variable {e : Editor} {c : EditorCall} {calls : List EditorCall}

theorem NovelCall.fresh (h : e.NovelCall c) : e.ids.Fresh (e.call c).ids e.graph.snapshot.uuids :=
  h.mono fun _ hu ↦ List.mem_append_right _ (List.mem_append_left _ hu)

theorem pasted_subset (h : e.NovelCall c) : e.pasted c ⊆ e.ids.drawnUntil (e.call c).ids := by
  have hfresh := h.fresh
  unfold pasted
  split
  · rename_i hpaste
    rw [call_of_isPaste hpaste] at hfresh ⊢
    exact Clipboard.pastedUuids_subset _ _ _ _ _ hfresh
  · exact List.nil_subset _

theorem NovelCall.disjoint_graph (h : e.NovelCall c) :
    (e.pasted c).Disjoint e.graph.snapshot.uuids :=
  fun u hu hold ↦ h.fresh.2 u (pasted_subset h hu) hold

theorem NovelCall.disjoint_issued (h : e.NovelCall c) : (e.pasted c).Disjoint e.ids.issued :=
  fun u hu hold ↦ h.2 u (pasted_subset h hu) (List.mem_append_left _ hold)

theorem NovelCall.issued_subset (h : e.NovelCall c) :
    e.pasted c ++ e.ids.issued ⊆ (e.call c).ids.issued := by
  obtain ⟨us, hdraws⟩ := e.exists_draws_call c
  have hsub := pasted_subset h
  rw [hdraws.drawnUntil_eq] at hsub
  rw [hdraws.issued_eq]
  exact List.append_subset.2
    ⟨fun _ hu ↦ List.mem_append_right _ (hsub hu), List.subset_append_left _ _⟩

def pastes : Editor → List EditorCall → List (List Uuid)
  | _, [] => []
  | e, c :: calls => e.pasted c :: (e.call c).pastes calls

theorem disjoint_pastes (hnovel : e.Throughout NovelCall calls) :
    (∀ us ∈ e.pastes calls, us.Disjoint e.ids.issued) ∧
      (e.pastes calls).Pairwise List.Disjoint := by
  induction calls generalizing e with
  | nil => exact ⟨fun _ hus ↦ (nomatch hus), .nil⟩
  | cons c calls ih =>
    obtain ⟨hc, hcalls⟩ := hnovel
    obtain ⟨hlater, hapart⟩ := ih hcalls
    have hsub := hc.issued_subset
    refine ⟨fun us hus ↦ ?_, .cons (fun us hus u hu hu' ↦ ?_) hapart⟩
    · rcases List.mem_cons.1 hus with rfl | hus
      · exact hc.disjoint_issued
      · exact fun u hu hold ↦ hlater us hus hu (hsub (List.mem_append_right _ hold))
    · exact hlater us hus hu' (hsub (List.mem_append_left _ hu))

theorem nodup_portIds_call (hnovel : e.NovelCall c) (hload : (portIds c.loaded).Nodup)
    (h : (portIds e.graph.nodeList).Nodup) : (portIds (e.call c).graph.nodeList).Nodup := by
  have hfresh := hnovel.fresh
  have heffect : e.Effect c _ _ _ _ := e.becomes_call c
  generalize (e.call c).graph = g', (e.call c).selection = selection,
    (e.call c).clipboard = clipboard, (e.call c).ids = ids at heffect hfresh ⊢
  cases heffect with
  | keep => exact h
  | select script => exact h
  | addFunction f position =>
    have hdraws := Node.draws_newFunction f (e.naming f.name e.graph) e.ids
    exact Graph.nodup_portIds_addNode h hdraws hfresh
  | addStart =>
    have hdraws := Node.draws_newStart (e.naming e.settings.startName e.graph) e.ids
    exact Graph.nodup_portIds_addNode h hdraws hfresh
  | changeNode id change => rwa [portIds_congr (Graph.map_ports_changeNode _ _ _)]
  | changeEdge id change => exact h
  | drag d pointer => rwa [portIds_congr (Graph.map_ports_drag _ _ _)]
  | connect source target => rwa [Graph.nodeList, Graph.nodes_connect]
  | deleteNode id => exact Graph.nodup_portIds_removeNodes h _
  | deleteEdge id => exact h
  | deleteSelected => exact Graph.nodup_portIds_removeNodes h _
  | copy => exact h
  | cut => exact Graph.nodup_portIds_removeNodes h _
  | paste => exact Clipboard.nodup_portIds_paste _ _ _ _ _ h hfresh
  | load s hs => exact Graph.nodup_portIds_ofSnapshot (hs ▸ hload)

/-- If every loaded snapshot keeps its ports apart and new identifiers are new, no identifier is
ever that of two ports of the graph, and what is pasted has none in common with the graph before
or with any other paste. -/
theorem unique_ids_run (settings : Settings) (palette : Palette) (naming : NamingPolicy)
    (ids : IdSupply) (calls : List EditorCall)
    (hcalls : (new settings palette naming ids).Throughout
      (fun e c ↦ e.NovelCall c ∧ (portIds c.loaded).Nodup) calls) :
    (portIds ((new settings palette naming ids).run calls).graph.nodeList).Nodup ∧
    ((new settings palette naming ids).pastes calls).Pairwise List.Disjoint ∧
    (new settings palette naming ids).Throughout
      (fun e c ↦ (e.pasted c).Disjoint e.graph.snapshot.uuids) calls := by
  refine ⟨?_, (disjoint_pastes (hcalls.imp fun _ _ h ↦ h.1)).2,
    hcalls.imp fun _ _ h ↦ h.1.disjoint_graph⟩
  exact run_preserves (P := fun e ↦ (portIds e.graph.nodeList).Nodup)
    (fun _ _ h ↦ nodup_portIds_call h.1 h.2) hcalls List.nodup_nil

def oneIdTwice : Snapshot :=
  let n := (Node.newStart "a" (.ofStream fun n ↦ .ofNat (n + 500))).1
  let m := (Node.newStart "b" (.ofStream fun n ↦ .ofNat (n + 600))).1
  ⟨[n, { m with id := n.id }], []⟩

/-- A start node joined to a call is cut and pasted three times, the last time into what was
loaded. -/
def repeatedPastes : List EditorCall := [
  .addStart,
  .addFunction ⟨"f", .ofList [("x", .int32)], .ofList [("y", .bool)]⟩ .zero,
  .connect ⟨⟨.ofNat 0⟩, ⟨.ofNat 2⟩⟩ ⟨⟨.ofNat 3⟩, ⟨.ofNat 4⟩⟩,
  .perform .selectAll,
  .cut,
  .paste,
  .keyPressed .v { ctrl := true },
  .load oneIdTwice,
  .perform .paste]

theorem unique_ids_run_repeatedPastes :
    let e := new {} .empty uniqueName (.ofStream .ofNat)
    e.Throughout (fun e c ↦ e.NovelCall c ∧ (portIds c.loaded).Nodup) repeatedPastes ∧
    ((portIds (e.run repeatedPastes).graph.nodeList).Nodup ∧
      (e.pastes repeatedPastes).Pairwise List.Disjoint ∧
      e.Throughout (fun e c ↦ (e.pasted c).Disjoint e.graph.snapshot.uuids) repeatedPastes) ∧
    (portIds (e.run repeatedPastes).graph.nodeList).length = 8 ∧
    (e.pastes repeatedPastes).map List.length = [0, 0, 0, 0, 0, 9, 9, 0, 9] := by
  intro e
  have hcalls : e.Throughout (fun e c ↦ e.NovelCall c ∧ (portIds c.loaded).Nodup)
      repeatedPastes := by decide +kernel
  exact ⟨hcalls, unique_ids_run _ _ _ _ _ hcalls, by decide +kernel, by decide +kernel⟩

end Editor

end PipelineGraph
