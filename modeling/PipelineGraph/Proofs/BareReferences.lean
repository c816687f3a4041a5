import PipelineGraph.Graph.Snapshot
import PipelineGraph.Proofs.Resolution

namespace PipelineGraph

namespace Expression

variable {cs : List Char}

def Qualified (cs : List Char) : Prop :=
  ∃ node output, Identifier node ∧ Identifier output ∧ cs = node ++ '.' :: output

theorem Qualified.mem_dot (h : Qualified cs) : '.' ∈ cs := by
  obtain ⟨node, output, -, -, rfl⟩ := h
  exact List.mem_append_right _ List.mem_cons_self

theorem Signed.ne_nil {L : List Char → Prop} (hL : ¬ L []) (h : Signed L cs) : cs ≠ [] := by
  rintro rfl
  cases h with
  | plain h => exact hL h

theorem not_decimal_nil : ¬ Decimal [] := by
  generalize hcs : [] = cs
  intro h
  cases h with
  | whole h => exact h.1 hcs.symm
  | fraction => exact List.append_ne_nil_of_right_ne_nil _ (List.cons_ne_nil _ _) hcs.symm

theorem Literal.ne_nil {type : ValueType} (h : Literal type cs) : cs ≠ [] := by
  cases type with
  | string =>
    obtain ⟨q, w, -, rfl⟩ := h
    exact List.cons_ne_nil _ _
  | bool => rcases h with rfl | rfl <;> decide
  | int32 => exact Signed.ne_nil (fun h ↦ h.1 rfl) h
  | int64 => exact Signed.ne_nil (fun h ↦ h.1 rfl) h
  | uint32 => exact h.1
  | uint64 => exact h.1
  | float => exact Signed.ne_nil not_decimal_nil h
  | double => exact Signed.ne_nil not_decimal_nil h
  | none => exact h.elim

end Expression

open Expression

namespace Graph

variable {g : Graph} {n : Node} {input : Port}

theorem issueAt?_eq_none_iff : g.issueAt? n input = none ↔ g.Supplies n input := by
  rw [issueAt?, Option.map_eq_none_iff]
  exact bindingFault?_eq_none_iff

theorem supplies_iff : g.Supplies n input ↔
    Literal input.valueType (n.boundText input) ∨
    (∃ node output, Identifier node ∧ Identifier output ∧
      n.boundText input = node ++ '.' :: output ∧
      g.Resolves ⟨.ofList node, .ofList output⟩ input.valueType) ∨
    Identifier (n.boundText input) ∧
      g.Resolves ⟨.ofList (n.boundText input), ""⟩ input.valueType := by
  unfold Supplies
  generalize n.boundText input = cs
  constructor
  · rintro ⟨-, hliteral | ⟨r, hr, hresolves⟩⟩
    · exact .inl hliteral
    · cases hr with
      | node h => exact .inr (.inr ⟨h, hresolves⟩)
      | output hc hd => exact .inr (.inl ⟨_, _, hc, hd, rfl, hresolves⟩)
  · rintro (hliteral | ⟨node, output, hc, hd, rfl, hresolves⟩ | ⟨h, hresolves⟩)
    · exact ⟨hliteral.ne_nil, .inl hliteral⟩
    · have hr := Names.output hc hd
      exact ⟨hr.ne_nil, .inr ⟨_, hr, hresolves⟩⟩
    · exact ⟨h.ne_nil, .inr ⟨_, .node h, hresolves⟩⟩

theorem Supplies.qualified (h : g.Supplies n input)
    (hnamed : ∀ m ∈ g.nodeList, g.OnControlPath m.id → m.dataOutput? "" = none) :
    Literal input.valueType (n.boundText input) ∨ Qualified (n.boundText input) := by
  rcases supplies_iff.1 h with hliteral | ⟨node, output, hc, hd, htext, -⟩ |
    ⟨-, source, output, hsource, hpath, houtput, -⟩
  · exact .inl hliteral
  · exact .inr ⟨node, output, hc, hd, htext⟩
  · have hnone := hnamed source (List.mem_of_find?_eq_some hsource) hpath
    exact nomatch hnone.symm.trans houtput

/-- An input without an issue holds a literal, a node and an output of it, or a node alone. The last
is the case exactly if the node is reached and the first of its outputs without a name has the type
of the input. -/
theorem accepted_forms (g : Graph) {n : Node} (hn : n ∈ g.nodeList)
    (hreached : n.id ∈ g.validate.reachable) :
    g.validate.issuesOf n.id = n.ports.dataInputs.filterMap (g.issueAt? n) ∧
    ∀ input ∈ n.ports.dataInputs,
      (g.issueAt? n input = none ↔
        Literal input.valueType (n.boundText input) ∨
        (∃ node output, Identifier node ∧ Identifier output ∧
          n.boundText input = node ++ '.' :: output ∧
          g.Resolves ⟨.ofList node, .ofList output⟩ input.valueType) ∨
        Identifier (n.boundText input) ∧
          g.Resolves ⟨.ofList (n.boundText input), ""⟩ input.valueType) ∧
      ((∀ m ∈ g.nodeList, m.id ∈ g.validate.reachable → m.dataOutput? "" = none) →
        g.issueAt? n input = none →
          Literal input.valueType (n.boundText input) ∨ Qualified (n.boundText input)) := by
  refine ⟨issuesOf_validate_of_reached hn (mem_reachable.1 hreached), fun input _ ↦ ⟨?_, ?_⟩⟩
  · exact issueAt?_eq_none_iff.trans supplies_iff
  · intro hnamed hclear
    refine (issueAt?_eq_none_iff.1 hclear).qualified fun m hm hpath ↦ hnamed m hm ?_
    exact mem_reachable.2 hpath

/-- One call has an output without a name and one with a name, and the next call wants both
values. -/
def namelessOutput : Snapshot :=
  let (start, ids) := Node.newStart "S" (.ofStream .ofNat)
  let outputs := .ofList [("", .int32), ("y", .bool)]
  let (source, ids) := Node.newFunction ⟨"A", .empty, outputs⟩ "A" ids
  let inputs := .ofList [("x", .int32), ("flag", .bool), ("z", .int32)]
  let (user, _) := Node.newFunction ⟨"F", inputs, .empty⟩ "F" ids
  let user := ((user.bind "x" "A").bind "flag" " A.y ").bind "z" "A.z"
  let arc (id : Nat) (m n : Node) : Edge :=
    { id := ⟨.ofNat id⟩
      layer := .control
      source := ⟨m.id, m.ports.controlOutput.id⟩
      target := ⟨n.id, n.ports.controlInput.id⟩ }
  ⟨[start, source, user], [arc 100 start source, arc 101 source user]⟩

theorem exists_bare_input :
    let g := ofSnapshot namelessOutput
    ∃ n ∈ g.nodeList, n.id ∈ g.validate.reachable ∧
      g.validate.issuesOf n.id = [{ input := "z", fault := .unknownOutput "A" "z" }] ∧
      ∃ input ∈ n.ports.dataInputs, n.boundText input = ['A'] ∧ g.issueAt? n input = none ∧
        isBareLiteral (n.boundText input) input.valueType = false ∧ '.' ∉ n.boundText input := by
  decide +kernel

theorem accepted_forms_namelessOutput :
    let g := ofSnapshot namelessOutput
    ∃ n ∈ g.nodeList, n.id ∈ g.validate.reachable ∧
      n.ports.dataInputs.filterMap (g.issueAt? n) =
        [{ input := "z", fault := .unknownOutput "A" "z" }] ∧
      ∃ input ∈ n.ports.dataInputs, n.boundText input = ['A'] ∧
        g.Resolves ⟨"A", ""⟩ input.valueType := by
  intro g
  obtain ⟨n, hn, hreached, hissues, input, hinput, htext, hclear, hliteral, hdot⟩ :=
    exists_bare_input
  obtain ⟨hlist, hforms⟩ := accepted_forms g hn hreached
  refine ⟨n, hn, hreached, hlist.symm.trans hissues, input, hinput, htext, ?_⟩
  rcases (hforms input hinput).1.1 hclear with hl | ⟨node, output, -, -, hdotted, -⟩ | ⟨-, hres⟩
  · exact absurd (isBareLiteral_iff.2 hl) (Bool.eq_false_iff.1 hliteral)
  · exact absurd (hdotted ▸ List.mem_append_right _ List.mem_cons_self) hdot
  · rwa [htext] at hres

/-- The name of a call is accepted for the value of its output without a name. -/
theorem bare_name_accepted :
    let g := ofSnapshot namelessOutput
    ∃ n ∈ g.nodeList, n.id ∈ g.validate.reachable ∧ ∃ input ∈ n.ports.dataInputs,
      n.boundText input = ['A'] ∧ g.issueAt? n input = none ∧
        ¬ (Literal input.valueType (n.boundText input) ∨ Qualified (n.boundText input)) := by
  intro g
  obtain ⟨n, hn, hreached, -, input, hinput, htext, hclear, hliteral, hdot⟩ := exists_bare_input
  refine ⟨n, hn, hreached, input, hinput, htext, hclear, ?_⟩
  rintro (hl | hq)
  · exact absurd (isBareLiteral_iff.2 hl) (Bool.eq_false_iff.1 hliteral)
  · exact hdot hq.mem_dot

end Graph

end PipelineGraph
