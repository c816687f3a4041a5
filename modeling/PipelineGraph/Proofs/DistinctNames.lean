import PipelineGraph.Proofs.Calls
import PipelineGraph.Proofs.Naming
import PipelineGraph.Proofs.Removal

namespace PipelineGraph

namespace Graph

/-- Different nodes have different names. -/
def Unambiguous (g : Graph) : Prop :=
  ∀ m ∈ g.nodeList, ∀ n ∈ g.nodeList, m.name = n.name → m = n

variable {g h : Graph} {n : Node}

theorem unambiguous_iff_nodup : g.Unambiguous ↔ (g.nodeList.map (·.name)).Nodup :=
  (List.nodup_map_iff_inj_on g.nodup_nodeList).symm

theorem unambiguous_empty : empty.Unambiguous := fun _ hm ↦ nomatch hm

theorem Unambiguous.nodeNamed?_eq (hg : g.Unambiguous) (hn : n ∈ g.nodeList) :
    g.nodeNamed? n.name = some n := by
  have hused : (g.nodeNamed? n.name).isSome := usesName_iff.2 ⟨n, hn, rfl⟩
  obtain ⟨m, hfound⟩ := Option.isSome_iff_exists.1 hused
  obtain ⟨hm, hname⟩ := of_nodeNamed?_eq_some hfound
  rw [hfound, hg m hm n hn hname]

theorem Unambiguous.nodeNamed?_eq_some_iff (hg : g.Unambiguous) {name : String} :
    g.nodeNamed? name = some n ↔ n ∈ g.nodeList ∧ n.name = name := by
  constructor
  · exact of_nodeNamed?_eq_some
  · intro h
    rw [← h.2, hg.nodeNamed?_eq h.1]

theorem Unambiguous.of_subset (hg : g.Unambiguous) (hsub : h.nodeList ⊆ g.nodeList) :
    h.Unambiguous :=
  fun m hm n hn ↦ hg m (hsub hm) n (hsub hn)

theorem Unambiguous.congr_nodes (hg : g.Unambiguous) (hnodes : h.nodes = g.nodes) :
    h.Unambiguous :=
  hg.of_subset (by rw [nodeList, hnodes]; exact List.Subset.refl _)

theorem Unambiguous.addNode (hg : g.Unambiguous) (hname : g.usesName n.name = false) :
    (g.addNode n).Unambiguous := by
  have hfree := usesName_eq_false_iff.1 hname
  intro k hk m hm he
  rcases OrderedMap.of_mem_values_insert hk with hkold | hknew
  · rcases OrderedMap.of_mem_values_insert hm with hmold | hmnew
    · exact hg k hkold m hmold he
    · exact absurd (hmnew ▸ he) (hfree k hkold)
  · rcases OrderedMap.of_mem_values_insert hm with hmold | hmnew
    · exact absurd (hknew ▸ he.symm) (hfree m hmold)
    · rw [hknew, hmnew]

theorem exists_of_mem_changeNode {id : NodeId} {c : NodeChange}
    (hn : n ∈ (g.changeNode id c).nodeList) :
    ∃ m ∈ g.nodeList, m.id = n.id ∧ n.name = if m.id = id then c.name.getD m.name else m.name := by
  have hget : (g.changeNode id c).node? n.id = some n := node?_eq_some_iff.2 ⟨hn, rfl⟩
  rw [node?_changeNode] at hget
  split at hget
  · rename_i hid
    obtain ⟨m, hm, rfl⟩ := Option.map_eq_some_iff.1 hget
    obtain ⟨hm, hmid⟩ := node?_eq_some_iff.1 hm
    exact ⟨m, hm, hmid, by rw [if_pos (hmid.trans hid)]; rfl⟩
  · rename_i hid
    obtain ⟨hm, -⟩ := node?_eq_some_iff.1 hget
    exact ⟨n, hm, rfl, by rw [if_neg hid]⟩

theorem Unambiguous.changeNode (hg : g.Unambiguous) {id : NodeId} {c : NodeChange}
    (hname : ∀ name, c.name = some name → id ∈ g.nodes →
      ∀ n ∈ g.nodeList, n.id ≠ id → n.name ≠ name) :
    (g.changeNode id c).Unambiguous := by
  have hapart : ∀ m ∈ g.nodeList, ∀ n ∈ g.nodeList, m.id = id → n.id ≠ id →
      c.name.getD m.name ≠ n.name := by
    intro m hm n hn hmid hnid he
    cases hc : c.name with
    | none =>
      rw [hc, Option.getD_none] at he
      exact hnid (hg m hm n hn he ▸ hmid)
    | some name =>
      rw [hc, Option.getD_some] at he
      exact hname name hc (mem_nodes_iff.2 ⟨m, hm, hmid⟩) n hn hnid he.symm
  intro m hm n hn he
  refine eq_of_id_eq hm hn ?_
  obtain ⟨m₀, hm₀, hmid, hmname⟩ := exists_of_mem_changeNode hm
  obtain ⟨n₀, hn₀, hnid, hnname⟩ := exists_of_mem_changeNode hn
  rw [hmname, hnname] at he
  rw [← hmid, ← hnid]
  by_cases hm' : m₀.id = id
  · by_cases hn' : n₀.id = id
    · rw [hm', hn']
    · rw [if_pos hm', if_neg hn'] at he
      exact absurd he (hapart m₀ hm₀ n₀ hn₀ hm' hn')
  · by_cases hn' : n₀.id = id
    · rw [if_neg hm', if_pos hn'] at he
      exact absurd he.symm (hapart n₀ hn₀ m₀ hm₀ hn' hm')
    · rw [if_neg hm', if_neg hn'] at he
      rw [hg m₀ hm₀ n₀ hn₀ he]

theorem Unambiguous.drag (hg : g.Unambiguous) (d : Drag) (pointer : Point) :
    (d.update g pointer).2.Unambiguous :=
  d.update_preserves (fun _ _ _ _ hg ↦ hg.changeNode fun _ hc ↦ nomatch hc) hg pointer

theorem unambiguous_ofSnapshot {s : Snapshot} (hs : (s.nodes.map (·.name)).Nodup) :
    (ofSnapshot s).Unambiguous := by
  intro m hm n hn
  exact List.inj_on_of_nodup_map hs (OrderedMap.of_mem_values_index hm)
    (OrderedMap.of_mem_values_index hn)

end Graph

namespace Clipboard

variable {g : Graph}

/-- Each copy is named against the graph that the copies before it have grown. -/
theorem unambiguous_pasteNodes (hg : g.Unambiguous) (offset : Point) (ns : List Node)
    (ids : IdSupply) : (pasteNodes uniqueName offset ns g ids).2.1.Unambiguous := by
  induction ns generalizing g ids with
  | nil => exact hg
  | cons n ns ih => exact ih (hg.addNode (usesName_uniqueName _ _)) _

theorem unambiguous_paste (hg : g.Unambiguous) (c : Clipboard) (s : Selection) (offset : Point)
    (ids : IdSupply) : (c.paste g s uniqueName offset ids).2.1.Unambiguous := by
  cases hne : c.isEmpty with
  | true => rwa [paste, hne]
  | false =>
    obtain ⟨twins, es, dropped, ids', rfl, -, -, -, heq⟩ :=
      exists_paste_eq hne g s uniqueName offset ids
    rw [heq]
    refine (unambiguous_pasteNodes hg offset c.contents.nodes ids).congr_nodes ?_
    rw [graph_pasteNodes]
    exact Graph.nodes_foldl_addEdge _ _

end Clipboard

def EditorCall.renaming? : EditorCall → Option (NodeId × String)
  | .rename id name => some (id, name)
  | _ => none

namespace Editor

/-- No node is given the name of another. -/
def RenamesApart (e : Editor) (c : EditorCall) : Prop :=
  ∀ r ∈ c.renaming?, r.1 ∈ e.graph.nodes → ∀ n ∈ e.graph.nodeList, n.id ≠ r.1 → n.name ≠ r.2

instance (e : Editor) (c : EditorCall) : Decidable (e.RenamesApart c) :=
  inferInstanceAs (Decidable (∀ r ∈ c.renaming?, _ → ∀ n ∈ e.graph.nodeList, _))

variable {e : Editor} {c : EditorCall}

theorem unambiguous_call (hload : (c.loaded.map (·.name)).Nodup) (hrename : e.RenamesApart c)
    (hnaming : e.naming = uniqueName) (hg : e.graph.Unambiguous) :
    (e.call c).graph.Unambiguous := by
  have heffect : e.Effect c _ _ _ _ := e.becomes_call c
  generalize (e.call c).graph = g', (e.call c).selection = selection,
    (e.call c).clipboard = clipboard, (e.call c).ids = ids at heffect ⊢
  cases heffect with
  | keep => exact hg
  | select script => exact hg
  | addFunction f position =>
    refine hg.addNode ?_
    rw [hnaming]
    exact usesName_uniqueName _ _
  | addStart =>
    refine hg.addNode ?_
    rw [hnaming]
    exact usesName_uniqueName _ _
  | changeNode id change hc =>
    refine hg.changeNode fun name hname ↦ ?_
    have hcall := hc name hname
    subst hcall
    exact hrename (id, name) rfl
  | changeEdge id change => exact hg
  | drag d pointer => exact hg.drag d pointer
  | connect source target => exact hg.congr_nodes (Graph.nodes_connect _ _ _ _)
  | deleteNode id => exact hg.of_subset (Graph.nodeList_removeNodes_subset _ _)
  | deleteEdge id => exact hg
  | deleteSelected => exact hg.of_subset (Graph.nodeList_removeNodes_subset _ _)
  | copy => exact hg
  | cut => exact hg.of_subset (Graph.nodeList_removeNodes_subset _ _)
  | paste =>
    rw [hnaming]
    exact Clipboard.unambiguous_paste hg _ _ _ _
  | load s hs => exact Graph.unambiguous_ofSnapshot (hs ▸ hload)

/-- If no loaded snapshot has a name twice and no renaming takes the name of another node, the names
of the nodes stay distinct, and a node is found under its name. -/
theorem distinct_names_run (settings : Settings) (palette : Palette) (ids : IdSupply)
    (calls : List EditorCall)
    (hcalls : (new settings palette uniqueName ids).Throughout
      (fun e c ↦ (c.loaded.map (·.name)).Nodup ∧ e.RenamesApart c) calls) :
    let g := ((new settings palette uniqueName ids).run calls).graph
    (g.nodeList.map (·.name)).Nodup ∧ ∀ n ∈ g.nodeList, g.nodeNamed? n.name = some n := by
  intro g
  suffices hg : ((new settings palette uniqueName ids).run calls).naming = uniqueName ∧
      g.Unambiguous from
    ⟨Graph.unambiguous_iff_nodup.1 hg.2, fun n hn ↦ hg.2.nodeNamed?_eq hn⟩
  refine run_preserves (P := fun e ↦ e.naming = uniqueName ∧ e.graph.Unambiguous)
    (fun e c hc h ↦ ?_) hcalls ⟨rfl, Graph.unambiguous_empty⟩
  exact ⟨(e.naming_call c).trans h.1, unambiguous_call hc.1 hc.2 h.1 h.2⟩

/-- Nodes named a, a-1 and a-1-1 are copied, the first of them is renamed, and the copy is pasted
twice. -/
def suffixes : List EditorCall := [
  .addFunction ⟨"a", .empty, .empty⟩ .zero,
  .addFunction ⟨"a", .empty, .empty⟩ .zero,
  .addFunction ⟨"a-1", .empty, .empty⟩ .zero,
  .perform .selectAll,
  .copy,
  .rename ⟨.ofNat 0⟩ "b",
  .paste,
  .load ⟨[(Node.newStart "a-2" (.ofStream fun n ↦ .ofNat (n + 500))).1], []⟩,
  .paste,
  .paste]

theorem distinct_names_run_suffixes :
    let e := new {} .empty uniqueName (.ofStream .ofNat)
    let g := (e.run suffixes).graph
    e.Throughout (fun e c ↦ (c.loaded.map (·.name)).Nodup ∧ e.RenamesApart c) suffixes ∧
    ((g.nodeList.map (·.name)).Nodup ∧ ∀ n ∈ g.nodeList, g.nodeNamed? n.name = some n) ∧
    (e.run (suffixes.take 7)).graph.nodeList.map (·.name) =
      ["b", "a-1", "a-1-1", "a", "a-1-2", "a-1-1-1"] ∧
    g.nodeList.map (·.name) = ["a-2", "a", "a-1", "a-1-1", "a-3", "a-1-2", "a-1-1-1"] := by
  intro e g
  have hcalls : e.Throughout (fun e c ↦ (c.loaded.map (·.name)).Nodup ∧ e.RenamesApart c)
      suffixes := by decide +kernel
  exact ⟨hcalls, distinct_names_run _ _ _ _ hcalls, by decide +kernel, by decide +kernel⟩

end Editor

end PipelineGraph
