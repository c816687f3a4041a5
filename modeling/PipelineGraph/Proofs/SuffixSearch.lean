import Mathlib.Algebra.Group.Nat.Defs
import Mathlib.Order.Nat
import PipelineGraph.Proofs.Graph
import PipelineGraph.Proofs.Naming

namespace PipelineGraph

variable {g : Graph} {wanted base : String} {i k : Nat}

/-- The search for a free numbered name, from one number on and without a last one. When a number is
tried, the one after it is already there, in a signed word of 32 bits. -/
inductive SuffixSearch (g : Graph) (base : String) : Nat → Nat → Prop
  | found {i : Nat} (hword : i + 1 < 2 ^ 31) (hfree : g.usesName (numbered base i) = false) :
      SuffixSearch g base i i
  | next {i k : Nat} (hword : i + 1 < 2 ^ 31) (hused : g.usesName (numbered base i) = true)
      (hrest : SuffixSearch g base (i + 1) k) : SuffixSearch g base i k

/-- The search ends at the first free number, if that leaves room for one more in a word. -/
theorem suffixSearch_iff : SuffixSearch g base i k ↔
    i ≤ k ∧ k + 1 < 2 ^ 31 ∧ g.usesName (numbered base k) = false ∧
      ∀ j, i ≤ j → j < k → g.usesName (numbered base j) = true := by
  constructor
  · intro h
    induction h with
    | found hword hfree => exact ⟨le_rfl, hword, hfree, fun j hij hji ↦ absurd hij hji.not_ge⟩
    | next _ hused _ ih =>
      obtain ⟨hle, hword, hfree, hbefore⟩ := ih
      refine ⟨Nat.le_of_succ_le hle, hword, hfree, fun j hij hjk ↦ ?_⟩
      rcases hij.eq_or_lt with rfl | hij
      · exact hused
      · exact hbefore j hij hjk
  · rintro ⟨hle, hword, hfree, hbefore⟩
    induction hle using Nat.decreasingInduction with
    | self => exact .found hword hfree
    | of_succ i hlt ih =>
      refine .next (by omega) (hbefore i le_rfl hlt) (ih fun j hij ↦ hbefore j ?_)
      exact Nat.le_of_succ_le hij

theorem SuffixSearch.unique {k' : Nat} (h : SuffixSearch g base i k)
    (h' : SuffixSearch g base i k') : k = k' := by
  obtain ⟨hle, -, hfree, hbefore⟩ := suffixSearch_iff.1 h
  obtain ⟨hle', -, hfree', hbefore'⟩ := suffixSearch_iff.1 h'
  rcases lt_trichotomy k k' with hlt | heq | hlt
  · exact absurd (hbefore' k hle hlt) (Bool.eq_false_iff.1 hfree)
  · exact heq
  · exact absurd (hbefore k' hle' hlt) (Bool.eq_false_iff.1 hfree')

namespace Graph

def nameEach : Graph → List Node → List String
  | _, [] => []
  | g, n :: ns =>
    let name := uniqueName n.name g
    name :: (g.addNode { n with name }).nameEach ns

theorem usesName_addNode {n : Node} (hn : n.id ∉ g.nodes) {name : String} :
    (g.addNode n).usesName name = true ↔ g.usesName name = true ∨ n.name = name := by
  rw [usesName_iff, usesName_iff, nodeList_addNode hn]
  constructor
  · rintro ⟨m, hm, hname⟩
    rcases List.mem_append.1 hm with hm | hm
    · exact .inl ⟨m, hm, hname⟩
    · exact .inr (List.mem_singleton.1 hm ▸ hname)
  · rintro (⟨m, hm, hname⟩ | hname)
    · exact ⟨m, List.mem_append_left _ hm, hname⟩
    · exact ⟨n, List.mem_append_right _ (List.mem_singleton_self n), hname⟩

theorem nameEach_spec {ns : List Node} (hids : (ns.map (·.id)).Nodup)
    (hnew : ∀ n ∈ ns, n.id ∉ g.nodes) :
    (g.nameEach ns).Nodup ∧ ∀ name ∈ g.nameEach ns, g.usesName name = false := by
  induction ns generalizing g with
  | nil => exact ⟨.nil, nofun⟩
  | cons n ns ih =>
    obtain ⟨hn, hids⟩ := List.nodup_cons.1 hids
    let named : Node := { n with name := uniqueName n.name g }
    have hnamed : named.id ∉ g.nodes := hnew n List.mem_cons_self
    have hnew' : ∀ m ∈ ns, m.id ∉ (g.addNode named).nodes := by
      intro m hm hmem
      rcases OrderedMap.mem_insert.1 hmem with hmem | he
      · exact hnew m (List.mem_cons_of_mem _ hm) hmem
      · exact hn (List.mem_map.2 ⟨m, hm, he⟩)
    obtain ⟨hnodup, hfree⟩ := ih hids hnew'
    have hfree (name : String) (hname : name ∈ (g.addNode named).nameEach ns) :
        g.usesName name = false ∧ named.name ≠ name := by
      have hnot := Bool.eq_false_iff.1 (hfree name hname)
      rw [ne_eq, usesName_addNode hnamed, not_or, Bool.not_eq_true] at hnot
      exact hnot
    refine ⟨List.nodup_cons.2 ⟨fun hmem ↦ (hfree _ hmem).2 rfl, hnodup⟩, ?_⟩
    exact List.forall_mem_cons.2 ⟨usesName_uniqueName _ _, fun name hname ↦ (hfree name hname).1⟩

end Graph

/-- A name is chosen that no node has. If the wanted one is used, it is the first free one that has
a number, and the search for that ends before any number is too large for a word. Names chosen one
after the other differ. -/
theorem uniqueName_first_free (g : Graph) (wanted : String) (hsize : g.nodes.size < 2 ^ 31 - 1) :
    (∀ n ∈ g.nodeList, n.name ≠ uniqueName wanted g) ∧
    (g.usesName wanted = false → uniqueName wanted g = wanted) ∧
    (g.usesName wanted = true → ∃ i, 1 ≤ i ∧ i ≤ g.nodes.size ∧
      uniqueName wanted g = numbered wanted i ∧
      (∀ j, 1 ≤ j → j < i → g.usesName (numbered wanted j) = true) ∧
      ∀ k, SuffixSearch g wanted 1 k ↔ k = i) ∧
    ∀ ns : List Node, (ns.map (·.id)).Nodup → (∀ n ∈ ns, n.id ∉ g.nodes) →
      (g.nameEach ns).Nodup ∧ ∀ name ∈ g.nameEach ns, ∀ n ∈ g.nodeList, n.name ≠ name := by
  refine ⟨?_, uniqueName_of_free, fun hused ↦ ?_, fun ns hids hnew ↦ ?_⟩
  · exact Graph.usesName_eq_false_iff.1 (usesName_uniqueName wanted g)
  · obtain ⟨i, hi, heq, hfree, hbefore⟩ := exists_uniqueName_eq hused
    have hbefore' : ∀ j, 1 ≤ j → j < i + 1 → g.usesName (numbered wanted j) = true := by
      intro j hj hji
      obtain ⟨j, rfl⟩ := Nat.exists_eq_add_of_le' hj
      exact hbefore j (Nat.lt_of_succ_lt_succ hji)
    have hends : SuffixSearch g wanted 1 (i + 1) :=
      suffixSearch_iff.2 ⟨Nat.le_add_left 1 i, by omega, hfree, hbefore'⟩
    refine ⟨i + 1, Nat.le_add_left 1 i, hi, heq, hbefore', fun k ↦ ⟨fun h ↦ h.unique hends, ?_⟩⟩
    rintro rfl
    exact hends
  · obtain ⟨hnodup, hfree⟩ := Graph.nameEach_spec hids hnew
    exact ⟨hnodup, fun name hname ↦ Graph.usesName_eq_false_iff.1 (hfree name hname)⟩

def startsNamed (first : Nat) : List String → List Node
  | [] => []
  | name :: rest =>
    (Node.newStart name (.ofStream fun n ↦ .ofNat (first + n))).1 :: startsNamed (first + 3) rest

theorem uniqueName_first_free_gaps :
    let g := Graph.empty.addAll (startsNamed 0 ["a", "a-1", "a-3", "a"]) []
    let ns := startsNamed 100 ["a", "a", "b", "a-2"]
    g.nodes.size < 2 ^ 31 - 1 ∧ g.usesName "a" = true ∧ (∀ k, SuffixSearch g "a" 1 k ↔ k = 2) ∧
    (ns.map (·.id)).Nodup ∧ (∀ n ∈ ns, n.id ∉ g.nodes) ∧ (g.nameEach ns).Nodup ∧
    g.nameEach ns = ["a-2", "a-4", "b", "a-2-1"] := by
  intro g ns
  have hsize : g.nodes.size < 2 ^ 31 - 1 := by decide +kernel
  have hused : g.usesName "a" = true := by decide +kernel
  have hname : uniqueName "a" g = numbered "a" 2 := by decide +kernel
  have hids : (ns.map (·.id)).Nodup := by decide +kernel
  have hnew : ∀ n ∈ ns, n.id ∉ g.nodes := by decide +kernel
  obtain ⟨-, -, hnumber, heach⟩ := uniqueName_first_free g "a" hsize
  obtain ⟨i, -, -, heq, -, hsearch⟩ := hnumber hused
  obtain rfl := numbered_injective "a" (heq.symm.trans hname)
  exact ⟨hsize, hused, hsearch, hids, hnew, (heach ns hids hnew).1, by decide +kernel⟩

end PipelineGraph
