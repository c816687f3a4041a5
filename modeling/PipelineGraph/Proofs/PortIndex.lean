import PipelineGraph.Proofs.Ports

namespace PipelineGraph.NodePorts

variable {ps qs : NodePorts} {id : PortId} {i : Nat}

theorem length_toList (ps : NodePorts) : ps.toList.length = ps.size := by
  simp only [toList, size, List.length_append, List.length_cons]
  omega

theorem isSome_get?_iff : (ps.get? i).isSome ↔ i < ps.size := by
  rw [get?, isSome_getElem?, length_toList]

theorem get?_of_index? (h : ps.index? id = some i) : ps.get? i = ps.find? id := by
  rw [find?_eq_bind, h, Option.bind_some]

theorem lt_size_of_index? (h : ps.index? id = some i) : i < ps.size := by
  obtain ⟨hi, -⟩ := List.findIdx?_eq_some_iff_getElem.1 h
  rwa [← length_toList]

theorem index?_eq_none_iff : ps.index? id = none ↔ ps.find? id = none := by
  constructor
  · intro h
    rw [find?_eq_bind, h, Option.bind_none]
  · intro h
    cases hi : ps.index? id with
    | none => rfl
    | some i =>
      have hport : (ps.get? i).isSome := isSome_get?_iff.2 (lt_size_of_index? hi)
      rw [get?_of_index? hi, h] at hport
      exact nomatch hport

theorem Alike.size_eq (h : ps.Alike qs) : qs.size = ps.size := by
  rw [← length_toList, ← length_toList]
  exact h.toList.length_eq.symm

theorem Alike.exists_get? (h : ps.Alike qs) (hi : i < ps.size) :
    ∃ p q, ps.get? i = some p ∧ qs.get? i = some q ∧ p.Alike q := by
  have hp : i < ps.toList.length := by rwa [length_toList]
  have hq : i < qs.toList.length := by rwa [length_toList, h.size_eq]
  exact ⟨ps.toList[i], qs.toList[i], List.getElem?_eq_getElem hp, List.getElem?_eq_getElem hq,
    h.toList.get hp hq⟩

/-- An identifier has an index exactly if a port has it, and there the index leads to the first such
port. The indices are the numbers below the number of ports. When every port has been given a new
identifier, at each index there still is the same port but for its identifier, which no port had
before, and under which it is found at that very index. -/
theorem index_renew (ps : NodePorts) :
    (∀ id i, ps.index? id = some i → i < ps.size ∧ ps.get? i = ps.find? id) ∧
    (∀ id, ps.index? id = none ↔ ps.find? id = none) ∧
    (∀ j, (ps.get? j).isSome ↔ j < ps.size) ∧
    ∀ s : IdSupply, s.Fresh (ps.renew s).2 ps.uuids →
      (ps.renew s).1.size = ps.size ∧
      ∀ j < ps.size, ∃ p q, ps.get? j = some p ∧ (ps.renew s).1.get? j = some q ∧ p.Alike q ∧
        (∀ old ∈ ps.toList, q.id ≠ old.id) ∧ (ps.renew s).1.index? q.id = some j := by
  refine ⟨fun id i hi ↦ ⟨lt_size_of_index? hi, get?_of_index? hi⟩, fun id ↦ index?_eq_none_iff,
    fun j ↦ isSome_get?_iff, fun s hfresh ↦ ?_⟩
  obtain ⟨hnodup, hnew⟩ := ((draws_renew ps s).fresh_iff _).1 hfresh
  have halike := alike_renew ps s
  refine ⟨halike.size_eq, fun j hj ↦ ?_⟩
  obtain ⟨p, q, hp, hq, hpq⟩ := halike.exists_get? hj
  refine ⟨p, q, hp, hq, hpq, fun old hold hid ↦ ?_, index?_of_nodup hnodup hq⟩
  have hq' : q ∈ (ps.renew s).1.toList := List.mem_of_getElem? hq
  exact hnew _ (uuid_mem hq') (hid ▸ uuid_mem hold)

def shared : NodePorts where
  controlInput := .control ⟨.ofNat 1⟩ .input
  controlOutput := .control ⟨.ofNat 2⟩ .output
  dataInputs := [.data ⟨.ofNat 2⟩ "x" .input .int32, .data ⟨.ofNat 3⟩ "flag" .input .bool]
  dataOutputs := [.data ⟨.ofNat 3⟩ "y" .output .int32]

/-- The control output gets the second identifier and is the fourth of the ports. -/
theorem index_renew_shared :
    let s := IdSupply.ofStream fun n ↦ .ofNat (n + 100)
    let qs := (shared.renew s).1
    s.Fresh (shared.renew s).2 shared.uuids ∧
    shared.index? ⟨.ofNat 2⟩ = some 1 ∧ shared.get? 1 = shared.find? ⟨.ofNat 2⟩ ∧
    qs.toList.map (·.id) = [⟨.ofNat 100⟩, ⟨.ofNat 102⟩, ⟨.ofNat 103⟩, ⟨.ofNat 101⟩, ⟨.ofNat 104⟩] ∧
    (∀ j < 5, ∃ p q, shared.get? j = some p ∧ qs.get? j = some q ∧ p.Alike q ∧
      (∀ old ∈ shared.toList, q.id ≠ old.id) ∧ qs.index? q.id = some j) ∧
    qs.index? ⟨.ofNat 101⟩ = some 3 := by
  intro s qs
  have hfresh : s.Fresh (shared.renew s).2 shared.uuids := by decide +kernel
  have hindex : shared.index? ⟨.ofNat 2⟩ = some 1 := by decide +kernel
  obtain ⟨hfound, -, -, hrenewed⟩ := index_renew shared
  exact ⟨hfresh, hindex, (hfound _ _ hindex).2, by decide +kernel, (hrenewed s hfresh).2,
    by decide +kernel⟩

end PipelineGraph.NodePorts
