import Mathlib.Data.List.Nodup
import Mathlib.Data.List.Perm.Subperm
import PipelineGraph.Naming

namespace PipelineGraph

theorem Graph.usesName_iff {g : Graph} {name : String} :
    g.usesName name = true ↔ ∃ n ∈ g.nodeList, n.name = name := by
  rw [usesName, nodeNamed?, List.find?_isSome]
  simp only [decide_eq_true_eq]

theorem Graph.usesName_eq_false_iff {g : Graph} {name : String} :
    g.usesName name = false ↔ ∀ n ∈ g.nodeList, n.name ≠ name := by
  rw [← Bool.not_eq_true, usesName_iff]
  simp only [not_exists, not_and, ne_eq]

theorem Graph.of_nodeNamed?_eq_some {g : Graph} {name : String} {n : Node}
    (h : g.nodeNamed? name = some n) : n ∈ g.nodeList ∧ n.name = name := by
  have hname := List.find?_some h
  exact ⟨List.mem_of_find?_eq_some h, of_decide_eq_true hname⟩

theorem toDigits_injective : Function.Injective (Nat.toDigits 10) := by
  intro i j h
  calc i = Nat.ofDigitChars 10 (Nat.toDigits 10 i) 0 := Nat.ofDigitChars_ten_toDigits.symm
    _ = Nat.ofDigitChars 10 (Nat.toDigits 10 j) 0 := by rw [h]
    _ = j := Nat.ofDigitChars_ten_toDigits

theorem toList_numbered (base : String) (i : Nat) :
    (numbered base i).toList = base.toList ++ '-' :: Nat.toDigits 10 i := by
  simp [numbered]

theorem numbered_injective (base : String) : Function.Injective (numbered base) := by
  intro i j h
  have hlist := congrArg String.toList h
  rw [toList_numbered, toList_numbered, List.append_cancel_left_eq] at hlist
  exact toDigits_injective (List.cons.inj hlist).2

theorem numbered_ne (base : String) (i : Nat) : numbered base i ≠ base := by
  intro h
  have hlength := congrArg (List.length ∘ String.toList) h
  simp only [Function.comp_apply, toList_numbered, List.length_append, List.length_cons] at hlength
  omega

variable {g : Graph} {wanted : String}

/-- The wanted name and as many numbered ones as there are nodes cannot all be used. -/
theorem exists_free_numbered (hused : g.usesName wanted = true) :
    ∃ i < g.nodes.size, g.usesName (numbered wanted (i + 1)) = false := by
  by_contra hnone
  push Not at hnone
  simp only [ne_eq, Bool.not_eq_false] at hnone
  let names := wanted :: (List.range g.nodes.size).map fun i ↦ numbered wanted (i + 1)
  have hnodup : names.Nodup := by
    refine List.nodup_cons.2 ⟨fun hmem ↦ ?_, ?_⟩
    · obtain ⟨i, -, hi⟩ := List.mem_map.1 hmem
      exact numbered_ne wanted (i + 1) hi
    · exact List.nodup_range.map fun i j h ↦ Nat.succ.inj (numbered_injective wanted h)
  have hsub : names ⊆ g.nodeList.map (·.name) := by
    intro name hname
    suffices htaken : g.usesName name = true from List.mem_map.2 (Graph.usesName_iff.1 htaken)
    rcases List.mem_cons.1 hname with rfl | hname
    · exact hused
    · obtain ⟨i, hi, rfl⟩ := List.mem_map.1 hname
      exact hnone i (List.mem_range.1 hi)
  have hlength := (hnodup.subperm hsub).length_le
  simp only [names, List.length_cons, List.length_map, List.length_range, Graph.nodeList,
    OrderedMap.values, OrderedMap.size] at hlength
  omega

theorem exists_uniqueName_eq (hused : g.usesName wanted = true) :
    ∃ i < g.nodes.size, uniqueName wanted g = numbered wanted (i + 1) ∧
      g.usesName (numbered wanted (i + 1)) = false ∧
      ∀ j < i, g.usesName (numbered wanted (j + 1)) = true := by
  obtain ⟨i, hi, hfree⟩ := exists_free_numbered hused
  let isFree (i : Nat) : Bool := !g.usesName (numbered wanted (i + 1))
  have hfound : ((List.range (g.nodes.size + 1)).find? isFree).isSome :=
    List.find?_isSome.2 ⟨i, List.mem_range.2 (Nat.lt_succ_of_lt hi), by simp [isFree, hfree]⟩
  obtain ⟨k, hk⟩ := Option.isSome_iff_exists.1 hfound
  obtain ⟨hkfree, -, hmin⟩ := List.find?_range_eq_some.1 hk
  simp only [isFree, Bool.not_not, Bool.not_eq_true'] at hkfree hmin
  have hki : k ≤ i := by
    by_contra hlt
    rw [hmin i (Nat.lt_of_not_le hlt)] at hfree
    exact nomatch hfree
  refine ⟨k, Nat.lt_of_le_of_lt hki hi, ?_, hkfree, hmin⟩
  rw [uniqueName, if_pos hused]
  dsimp only
  rw [List.find?_map]
  exact congrArg (fun found ↦ (found.map fun i ↦ numbered wanted (i + 1)).getD wanted) hk

theorem uniqueName_of_free (hfree : g.usesName wanted = false) : uniqueName wanted g = wanted := by
  rw [uniqueName, hfree]
  rfl

theorem usesName_uniqueName (wanted : String) (g : Graph) :
    g.usesName (uniqueName wanted g) = false := by
  cases hused : g.usesName wanted with
  | true =>
    obtain ⟨i, -, heq, hfree, -⟩ := exists_uniqueName_eq hused
    rwa [heq]
  | false => rwa [uniqueName_of_free hused]

end PipelineGraph
