import PipelineGraph.Proofs.Extension
import PipelineGraph.Proofs.Paste

namespace PipelineGraph.Clipboard

variable {g g₀ h : Graph} {c : Snapshot} {offset : Point} {twins : List Twin} {es : List Edge}
  {outcome : PasteOutcome} {selected : Selected}

theorem exists_extends_paste (c : Clipboard) (g : Graph) (s : Selection) (naming : NamingPolicy)
    (offset : Point) (ids : IdSupply)
    (hfresh : ids.Fresh (c.paste g s naming offset ids).2.2.2 g.snapshot.uuids) :
    ∃ ns es, g.Extends (c.paste g s naming offset ids).2.1 ns es ∧
      (c.paste g s naming offset ids).1.nodes = ns.map (·.id) := by
  obtain ⟨ns, es, h⟩ := exists_appended_paste c g s naming offset ids hfresh
  refine ⟨ns, es, ⟨h.nodes, h.edges, fun e he hmem ↦ ?_⟩, h.nodeIds⟩
  obtain ⟨n, hn, htarget⟩ := h.targets e he
  exact hfresh.2 _ (h.uuid_mem_drawn hn) (htarget ▸ Graph.uuid_mem_of_mem_nodes hmem)

theorem IsCopy.isStart_eq {n m : Node} (hcopy : IsCopy offset n m) : m.isStart = n.isStart := by
  rw [hcopy.1]
  rfl

theorem IsCopy.supplies {n m : Node} (hcopy : IsCopy offset n m) {p q : Port} (hpq : p.Alike q)
    (hs : g.Supplies n p) : g.Supplies m q := by
  have htext : m.boundText q = n.boundText p := by
    rw [hcopy.1, hpq]
    rfl
  have htype : q.valueType = p.valueType := by rw [hpq]
  unfold Graph.Supplies
  rwa [htext, htype]

section Pasted

variable (hp : Pasted c offset g twins es outcome h selected)
include hp

theorem Pasted.copy_notMem {t : Twin} (ht : t ∈ twins) : t.copy.id ∉ g.nodes := by
  have hnodup := h.nodes_keyed.nodup
  have hnodes : h.nodes.values = g.nodeList ++ twins.map Twin.copy := hp.nodes
  rw [hnodes, List.map_append] at hnodup
  intro hmem
  obtain ⟨n, hn, hid⟩ := Graph.mem_nodes_iff.1 hmem
  refine (List.nodup_append.1 hnodup).2.2 n.id (List.mem_map_of_mem hn) t.copy.id ?_ hid
  exact List.mem_map_of_mem (List.mem_map_of_mem ht)

theorem Pasted.extends : g.Extends h (twins.map Twin.copy) es := by
  refine ⟨hp.nodes, hp.edges, fun e he ↦ ?_⟩
  obtain ⟨e₀, -, hcopy⟩ := exists_left_of_forall₂ hp.edgeCopies e he
  obtain ⟨t, ht, -, hid, -⟩ := hcopy.target
  rw [← hid]
  exact hp.copy_notMem ht

variable (hf : Faithful offset twins) (hc : c.PartOf g₀) (hg : g.Closed)
include hf hc hg

/-- A path to a copy runs through copies only, and so there is one between the nodes copied. -/
theorem Pasted.exists_controlPath {m k : NodeId} (hpath : h.ControlPath m k) :
    ∀ t ∈ twins, t.copy.id = k →
      ∃ t₀ ∈ twins, t₀.copy.id = m ∧ g₀.ControlPath t₀.source.id t.source.id := by
  induction hpath with
  | refl => exact fun t ht hid ↦ ⟨t, ht, hid, .refl _⟩
  | step _ arc ih =>
    intro t ht hid
    obtain ⟨e, he, hlayer, hsource, htarget⟩ := Graph.mem_controlArcs.1 arc
    rw [hp.edges] at he
    rcases List.mem_append.1 he with he | he
    · have hmem := (hg e he).2
      rw [htarget, ← hid] at hmem
      exact absurd hmem (hp.copy_notMem ht)
    · obtain ⟨e₀, he₀, hcopy⟩ := exists_left_of_forall₂ hp.edgeCopies e he
      obtain ⟨t₁, ht₁, hs₁, hc₁, -⟩ := hcopy.source
      obtain ⟨t₂, ht₂, hs₂, hc₂, -⟩ := hcopy.target
      have heq : t₂ = t := hf.eq_of_copy ht₂ ht (hc₂.trans (htarget.trans hid.symm))
      obtain ⟨t₀, ht₀, hm, hpath⟩ := ih t₁ ht₁ (hc₁.trans hsource)
      refine ⟨t₀, ht₀, hm, hpath.step (Graph.mem_controlArcs.2 ⟨e₀, ?_, ?_, hs₁.symm, ?_⟩)⟩
      · exact hc.edges.subset (List.mem_of_mem_filter he₀)
      · exact hcopy.layer.symm.trans hlayer
      · rw [← hs₂, heq]

theorem Pasted.onControlPath_source {t : Twin} (ht : t ∈ twins)
    (hpath : h.OnControlPath t.copy.id) : g₀.OnControlPath t.source.id := by
  obtain ⟨start, hstart, hkind, hpath⟩ := hpath
  obtain ⟨t₀, ht₀, hid, hpath⟩ := hp.exists_controlPath hf hc hg hpath t ht rfl
  have hmem : t₀.copy ∈ h.nodeList := by
    rw [hp.nodes]
    exact List.mem_append_right _ (List.mem_map_of_mem ht₀)
  refine ⟨t₀.source, hc.nodes.subset (hp.sources ▸ List.mem_map_of_mem ht₀), ?_, hpath⟩
  rw [← (hp.copies t₀ ht₀).isStart_eq, Graph.eq_of_id_eq hmem hstart hid]
  exact hkind

end Pasted

theorem Pasted.isValid (hp : Pasted c offset g twins es outcome h selected)
    (hf : Faithful offset twins) (hc : c.PartOf g) (hg : g.Closed)
    (hvalid : g.validate.isValid = true) : h.validate.isValid = true := by
  rw [Graph.isValid_iff_supplies] at hvalid ⊢
  intro n hn hpath input hinput
  rw [hp.nodes] at hn
  rcases List.mem_append.1 hn with hn | hn
  · have hpath' := (hp.extends.onControlPath_iff hg (Graph.mem_nodes_iff.2 ⟨n, hn, rfl⟩)).1 hpath
    exact hp.extends.supplies hg (hvalid n hn hpath' input hinput)
  · obtain ⟨t, ht, rfl⟩ := List.mem_map.1 hn
    have hcopy := hp.copies t ht
    obtain ⟨p, hinput', hpq⟩ := exists_left_of_forall₂ hcopy.2.dataInputs input hinput
    have hsource : t.source ∈ g.nodeList :=
      hc.nodes.subset (hp.sources ▸ List.mem_map_of_mem ht)
    have hpath' := hp.onControlPath_source hf hc hg ht hpath
    exact hp.extends.supplies hg (hcopy.supplies hpq (hvalid t.source hsource hpath' p hinput'))

/-- A paste changes neither which of the nodes that were there are reached, nor their issues, except
that a missing name may be found among the new nodes. What was copied from a valid graph can be
pasted into it without any issue. -/
theorem paste_keeps_report {g : Graph} (hg : g.WellFormed) (c : Clipboard) (s : Selection)
    (naming : NamingPolicy) (offset : Point) (ids : IdSupply)
    (hfresh : ids.Fresh (c.paste g s naming offset ids).2.2.2
      (g.snapshot.uuids ++ c.contents.uuids)) :
    let r := c.paste g s naming offset ids
    (∀ id ∈ g.nodes, id ∈ r.2.1.validate.reachable ↔ id ∈ g.validate.reachable) ∧
    (∃ ns, r.2.1.nodeList = g.nodeList ++ ns ∧ r.1.nodes = ns.map (·.id) ∧ ∀ n ∈ g.nodeList,
      Issue.ReviseAll ns (g.validate.issuesOf n.id) (r.2.1.validate.issuesOf n.id)) ∧
    ∀ (earlier : Clipboard) (copiedPart : Selected), c = earlier.copy g copiedPart →
      g.validate.isValid = true → r.2.1.validate.isValid = true := by
  intro r
  replace hfresh := hfresh.mono (List.subset_append_left _ _)
  obtain ⟨ns, es, hx, hids⟩ := exists_extends_paste c g s naming offset ids hfresh
  refine ⟨fun id hid ↦ ?_, ⟨ns, hx.nodes, hids, fun n hn ↦ hx.reviseAll_issuesOf hg.closed hn⟩,
    fun earlier copiedPart hc hvalid ↦ ?_⟩
  · exact Graph.mem_reachable.trans ((hx.onControlPath_iff hg.closed hid).trans
      Graph.mem_reachable.symm)
  · cases hne : c.isEmpty with
    | true =>
      have hr : r = ({}, g, s, ids) := by
        simp only [r, paste, hne, if_true]
      rwa [hr]
    | false =>
      have hpart : c.contents.PartOf g := hc ▸ copied_partOf g copiedPart
      obtain ⟨twins, es, hf, -, hp⟩ := exists_pasted hpart hg hne s naming offset ids hfresh
      exact hp.isValid hf hpart hg.closed hvalid

def suppliedChain (expr : String) : Graph :=
  chain.changeNode ⟨.ofNat 3⟩ { bindings := [("x", expr)] }

theorem paste_keeps_report_suppliedChain :
    let g := suppliedChain "7"
    let c := ({ offset := .zero } : Clipboard).copy g ⟨g.nodes.keys.take 2, []⟩
    let ids := IdSupply.ofStream fun n ↦ .ofNat (n + 100)
    let r := c.paste g {} uniqueName .zero ids
    g.WellFormed ∧ ids.Fresh r.2.2.2 (g.snapshot.uuids ++ c.contents.uuids) ∧
      g.validate.isValid = true ∧ r.2.1.validate.reachable.length = 5 ∧
      r.2.1.validate.isValid = true := by
  intro g c ids r
  have hg : g.WellFormed := wellFormed_chain.changeNode _ _
  have hfresh : ids.Fresh r.2.2.2 (g.snapshot.uuids ++ c.contents.uuids) := by decide +kernel
  have hvalid : g.validate.isValid = true := by decide +kernel
  have hkeeps := paste_keeps_report hg c {} uniqueName .zero ids hfresh
  exact ⟨hg, hfresh, hvalid, by decide +kernel, hkeeps.2.2 { offset := .zero } _ rfl hvalid⟩

/-- A copy takes the name that was missing, but without the start node it is not reached. -/
example :
    let g := suppliedChain "f-2.y"
    let c := ({ offset := .zero } : Clipboard).copy g ⟨[⟨.ofNat 3⟩], []⟩
    let r := c.paste g {} uniqueName .zero (.ofStream fun n ↦ .ofNat (n + 100))
    g.validate.issuesOf ⟨.ofNat 3⟩ = [{ input := "x", fault := .unknownNode "f-2" }] ∧
      r.2.1.validate.issuesOf ⟨.ofNat 3⟩ = [{ input := "x", fault := .unreachableNode "f-2" }] := by
  decide +kernel

end PipelineGraph.Clipboard
