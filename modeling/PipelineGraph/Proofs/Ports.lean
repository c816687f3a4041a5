import Mathlib.Data.List.Forall2
import Mathlib.Data.List.Nodup
import PipelineGraph.Node
import PipelineGraph.Proofs.Supply

namespace PipelineGraph

def Port.Alike (p q : Port) : Prop := q = { p with id := q.id }

theorem Port.Alike.canConnect_eq {a b a' b' : Port} (ha : a.Alike a') (hb : b.Alike b') :
    a'.canConnect b' = a.canConnect b := by
  rw [ha, hb]
  rfl

theorem Port.Alike.layer_eq {p q : Port} (h : p.Alike q) : q.layer = p.layer := by
  rw [h]

namespace NodePorts

def uuids (ps : NodePorts) : List Uuid :=
  ps.controlInput.id.uuid :: ps.controlOutput.id.uuid ::
    (ps.dataInputs ++ ps.dataOutputs).map (·.id.uuid)

/-- The ports of two nodes correspond and differ in nothing but their identifiers. -/
structure Alike (ps qs : NodePorts) : Prop where
  controlInput : ps.controlInput.Alike qs.controlInput
  controlOutput : ps.controlOutput.Alike qs.controlOutput
  dataInputs : List.Forall₂ Port.Alike ps.dataInputs qs.dataInputs
  dataOutputs : List.Forall₂ Port.Alike ps.dataOutputs qs.dataOutputs

variable {ps qs : NodePorts}

theorem Alike.toList (h : ps.Alike qs) : List.Forall₂ Port.Alike ps.toList qs.toList :=
  .cons h.controlInput (List.rel_append h.dataInputs (.cons h.controlOutput h.dataOutputs))

theorem perm_uuids (ps : NodePorts) : (ps.toList.map (·.id.uuid)).Perm ps.uuids := by
  rw [NodePorts.toList, uuids, List.cons_append, List.map_cons, List.map_append, List.map_cons,
    List.map_append]
  exact .cons _ List.perm_middle

theorem uuid_mem {p : Port} (hp : p ∈ ps.toList) : p.id.uuid ∈ ps.uuids :=
  (perm_uuids ps).subset (List.mem_map_of_mem hp)

theorem find?_eq_bind (ps : NodePorts) (id : PortId) :
    ps.find? id = (ps.index? id).bind ps.get? :=
  List.find?_eq_bind_findIdx?_getElem?

theorem index?_of_nodup (h : ps.uuids.Nodup) {i : Nat} {p : Port} (hp : ps.get? i = some p) :
    ps.index? p.id = some i := by
  have hn : (ps.toList.map (·.id.uuid)).Nodup := (perm_uuids ps).nodup_iff.2 h
  obtain ⟨hi, rfl⟩ := List.getElem?_eq_some_iff.1 hp
  refine List.findIdx?_eq_some_iff_getElem.2 ⟨hi, by simp, fun j hj ↦ ?_⟩
  have hne : ps.toList[j].id ≠ ps.toList[i].id := by
    intro he
    have hji : ps.toList[j] = ps.toList[i] :=
      List.inj_on_of_nodup_map hn (List.getElem_mem _) (List.getElem_mem _) (by rw [he])
    have := hn.of_map.getElem_inj_iff.1 hji
    omega
  simpa using hne

/-- Under an identifier that a port of the one node has, the corresponding port of the other has
its own. -/
theorem Alike.exists_port (h : ps.Alike qs) {id : PortId} {p : Port} (hp : ps.find? id = some p) :
    ∃ i q, ps.index? id = some i ∧ qs.get? i = some q ∧ p.Alike q := by
  rw [find?_eq_bind] at hp
  obtain ⟨i, hi, hip⟩ := Option.bind_eq_some_iff.1 hp
  obtain ⟨hlt, rfl⟩ := List.getElem?_eq_some_iff.1 hip
  have hlt' : i < qs.toList.length := h.toList.length_eq ▸ hlt
  exact ⟨i, qs.toList[i], hi, List.getElem?_eq_getElem hlt', h.toList.get hlt hlt'⟩

theorem alike_renewList (l : List Port) (s : IdSupply) :
    List.Forall₂ Port.Alike l (renewList l s).1 := by
  induction l generalizing s with
  | nil => exact .nil
  | cons p l ih => exact .cons rfl (ih _)

theorem draws_renewList (l : List Port) (s : IdSupply) :
    s.Draws ((renewList l s).1.map (·.id.uuid)) (renewList l s).2 := by
  induction l generalizing s with
  | nil => exact .nil s
  | cons p l ih => exact .cons (ih _)

theorem alike_renew (ps : NodePorts) (s : IdSupply) : ps.Alike (ps.renew s).1 :=
  ⟨rfl, rfl, alike_renewList _ _, alike_renewList _ _⟩

theorem draws_renew (ps : NodePorts) (s : IdSupply) :
    s.Draws (ps.renew s).1.uuids (ps.renew s).2 := by
  have hi := draws_renewList ps.dataInputs s.draw.2.draw.2
  have ho := draws_renewList ps.dataOutputs (renewList ps.dataInputs s.draw.2.draw.2).2
  have h := IdSupply.Draws.cons (.cons (hi.trans ho))
  rwa [← List.map_append] at h

theorem draws_dataPorts (d : Direction) (l : List (String × ValueType)) (s : IdSupply) :
    s.Draws ((dataPorts d l s).1.map (·.id.uuid)) (dataPorts d l s).2 := by
  induction l generalizing s with
  | nil => exact .nil s
  | cons p l ih => exact .cons (ih _)

theorem draws_ofParameters (inputs outputs : List (String × ValueType)) (s : IdSupply) :
    s.Draws (ofParameters inputs outputs s).1.uuids (ofParameters inputs outputs s).2 := by
  have hi := draws_dataPorts .input inputs s.draw.2.draw.2
  have ho := draws_dataPorts .output outputs (dataPorts .input inputs s.draw.2.draw.2).2
  have h := IdSupply.Draws.cons (.cons (hi.trans ho))
  rwa [← List.map_append] at h

end NodePorts

namespace Node

def uuids (n : Node) : List Uuid := n.id.uuid :: n.ports.uuids

theorem draws_newStart (name : String) (s : IdSupply) :
    s.Draws (newStart name s).1.uuids (newStart name s).2 :=
  .cons (NodePorts.draws_ofParameters [] [] _)

theorem draws_newFunction (f : FunctionSignature) (name : String) (s : IdSupply) :
    s.Draws (newFunction f name s).1.uuids (newFunction f name s).2 :=
  .cons (NodePorts.draws_ofParameters f.inputs.entries f.outputs.entries _)

end Node

end PipelineGraph
