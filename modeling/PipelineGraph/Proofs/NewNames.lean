import PipelineGraph.Graph.Snapshot
import PipelineGraph.Proofs.Recognition
import PipelineGraph.Proofs.Resolution
import PipelineGraph.Proofs.SuffixSearch

namespace PipelineGraph

namespace Expression

variable {cs ds : List Char}

theorem isBlank_of_isAlphanum {c : Char} (h : c.isAlphanum = true) : Text.isBlank c = false := by
  have hranges : 48 ≤ c.toNat ∧ c.toNat ≤ 57 ∨ 65 ≤ c.toNat ∧ c.toNat ≤ 90 ∨
      97 ≤ c.toNat ∧ c.toNat ≤ 122 := by
    rcases Bool.or_eq_true_iff.1 h with halpha | hdigit
    · exact .inr (toNat_of_isAlpha halpha)
    · exact .inl (toNat_of_isDigit hdigit)
  simp only [Text.isBlank, Bool.or_eq_false_iff, Bool.and_eq_false_iff, decide_eq_false_iff_not]
  omega

theorem Identifier.isBlank (h : Identifier cs) : ∀ c ∈ cs, Text.isBlank c = false := by
  cases cs with
  | nil => exact h.elim
  | cons c cs =>
    refine List.forall_mem_cons.2 ⟨?_, fun x hx ↦ ?_⟩
    · rcases h.1 with halpha | rfl
      · exact isBlank_of_isAlphanum (by rw [Char.isAlphanum, halpha, Bool.true_or])
      · rfl
    · rcases h.2 x hx with halphanum | rfl | rfl
      · exact isBlank_of_isAlphanum halphanum
      · rfl
      · rfl

theorem Names.trim_eq {r : Reference} (h : Names cs r) : Text.trim cs = cs := by
  apply Text.trim_of_forall
  cases h with
  | node h => exact h.isBlank
  | output hc hd =>
    exact List.forall_mem_append.2 ⟨hc.isBlank, List.forall_mem_cons.2 ⟨rfl, hd.isBlank⟩⟩

theorem Identifier.append (h : Identifier cs)
    (hds : ∀ c ∈ ds, c.isAlphanum = true ∨ c = '_' ∨ c = '-') : Identifier (cs ++ ds) := by
  cases cs with
  | nil => exact h.elim
  | cons c cs => exact ⟨h.1, List.forall_mem_append.2 ⟨h.2, hds⟩⟩

end Expression

open Expression

section Names

variable {wanted : String}

theorem identifier_numbered (h : Identifier wanted.toList) (i : Nat) :
    Identifier (numbered wanted i).toList := by
  rw [toList_numbered]
  refine h.append (List.forall_mem_cons.2 ⟨.inr (.inr rfl), fun c hc ↦ .inl ?_⟩)
  have hdigit := Nat.isDigit_of_mem_toDigits (by decide) (by decide) hc
  rw [Char.isAlphanum, hdigit, Bool.or_true]

theorem identifier_uniqueName (h : Identifier wanted.toList) (g : Graph) :
    Identifier (uniqueName wanted g).toList := by
  cases hused : g.usesName wanted with
  | true =>
    obtain ⟨i, -, heq, -⟩ := exists_uniqueName_eq hused
    rw [heq]
    exact identifier_numbered h (i + 1)
  | false => rwa [uniqueName_of_free hused]

end Names

section Dotted

variable {node output : String}

theorem names_dotted (hnode : Identifier node.toList) (houtput : Identifier output.toList) :
    Names (node ++ "." ++ output).toList ⟨node, output⟩ := by
  have hnames := Names.output hnode houtput
  rw [String.ofList_toList, String.ofList_toList] at hnames
  simpa using hnames

theorem isReference_dotted (hnode : Identifier node.toList) (houtput : Identifier output.toList) :
    isReference (node ++ "." ++ output) = true := by
  have hnames := names_dotted hnode houtput
  refine isReference_iff.2 ⟨⟨node, output⟩, ?_⟩
  rwa [hnames.trim_eq]

theorem not_literal_dotted (hnode : Identifier node.toList) (houtput : Identifier output.toList)
    (type : ValueType) : ¬ Literal type (node ++ "." ++ output).toList := by
  intro hliteral
  have hdot : '.' ∈ (node ++ "." ++ output).toList := by simp
  have hnames := names_dotted hnode houtput
  rcases (names_and_literal_iff.1 ⟨⟨_, hnames⟩, hliteral⟩).2 with htext | htext
  · exact absurd (htext ▸ hdot) (by decide)
  · exact absurd (htext ▸ hdot) (by decide)

theorem isLiteral_dotted (hnode : Identifier node.toList) (houtput : Identifier output.toList)
    (type : ValueType) : isLiteral (node ++ "." ++ output) type = false := by
  rw [Bool.eq_false_iff, ne_eq, isLiteral_iff, (names_dotted hnode houtput).trim_eq]
  exact not_literal_dotted hnode houtput type

end Dotted

/-- What the check of an input finds once the node that it refers to is known. -/
def sourceFault? (reachable : List NodeId) (source : Node) (r : Reference) (type : ValueType) :
    Option Fault :=
  if source.id ∉ reachable then some (.unreachableNode r.node) else
    match source.dataOutput? r.output with
    | none => some (.unknownOutput r.node r.output)
    | some output =>
      if output.valueType ≠ type then some (.typeMismatch type output.valueType) else none

theorem sourceFault?_eq_none {reachable : List NodeId} {source : Node} {r : Reference}
    {output : Port} (hreached : source.id ∈ reachable)
    (houtput : source.dataOutput? r.output = some output) :
    sourceFault? reachable source r output.valueType = none := by
  simp [sourceFault?, hreached, houtput]

namespace Graph

/-- The text bound to an input is a reference to the node and no literal of the input's type. -/
structure RefersTo (g : Graph) (m : Node) (input : Port) (r : Reference) (source : Node) :
    Prop where
  notLiteral : ¬ Literal input.valueType (m.boundText input)
  names : Names (m.boundText input) r
  found : g.nodeNamed? r.node = some source

variable {g h : Graph} {m n source : Node} {input : Port} {r : Reference}

theorem RefersTo.bindingFault?_eq (hr : g.RefersTo m input r source) :
    bindingFault? g g.reachable m input = sourceFault? g.reachable source r input.valueType := by
  rw [bindingFault?_eq_of_names hr.notLiteral hr.names, hr.found]
  rfl

theorem RefersTo.of_append {ns : List Node} (hlist : h.nodeList = g.nodeList ++ ns)
    (hr : g.RefersTo m input r source) : h.RefersTo m input r source := by
  refine ⟨hr.notLiteral, hr.names, ?_⟩
  rw [nodeNamed?_of_append hlist, hr.found, Option.some_or]

theorem nodeNamed?_last (hlist : h.nodeList = g.nodeList ++ [n])
    (hfree : g.usesName n.name = false) : h.nodeNamed? n.name = some n := by
  have hnone : g.nodeNamed? n.name = none :=
    Option.not_isSome_iff_eq_none.1 (Bool.eq_false_iff.1 hfree)
  rw [nodeNamed?_of_append hlist, hnone, Option.none_or]
  exact List.find?_cons_of_pos (decide_eq_true rfl)

/-- A text with a dot between two identifiers refers to the node that bears the first as its
name, and to no other. -/
theorem refersTo_dotted_iff {node output : String} (hnode : Identifier node.toList)
    (houtput : Identifier output.toList) (htext : m.boundText input = (node ++ "." ++ output).toList)
    (hnamed : g.nodeNamed? node = some n) :
    g.RefersTo m input r source ↔ r = ⟨node, output⟩ ∧ source = n := by
  have hnames : Names (m.boundText input) ⟨node, output⟩ := htext ▸ names_dotted hnode houtput
  constructor
  · rintro ⟨-, hr, hfound⟩
    obtain rfl := hr.unique hnames
    exact ⟨rfl, Option.some.inj (hfound.symm.trans hnamed)⟩
  · rintro ⟨rfl, rfl⟩
    exact ⟨htext ▸ not_literal_dotted hnode houtput _, hnames, hnamed⟩

/-- A name chosen for an identifier is an identifier. A new node can be referred to by it, and
what other references lead to stays as it was. -/
theorem referable_uniqueName (g : Graph) {wanted : String} (hwanted : Identifier wanted.toList) :
    let name := uniqueName wanted g
    Identifier name.toList ∧
    ∀ (n : Node) (h : Graph), n.name = name → n.id ∉ g.nodes → h.nodes = (g.addNode n).nodes →
      (∀ output : String, Identifier output.toList →
        let text := name ++ "." ++ output
        isReference text = true ∧ (∀ type, isLiteral text type = false) ∧
        ∀ (m : Node) (input : Port), m.boundText input = text.toList →
          (∀ r source, h.RefersTo m input r source ↔ r = ⟨name, output⟩ ∧ source = n) ∧
          bindingFault? h h.reachable m input =
            sourceFault? h.reachable n ⟨name, output⟩ input.valueType ∧
          ∀ p, h.OnControlPath n.id → n.dataOutput? output = some p →
            p.valueType = input.valueType → bindingFault? h h.reachable m input = none) ∧
      ∀ m input r source, g.RefersTo m input r source → h.RefersTo m input r source := by
  intro name
  have hname : Identifier name.toList := identifier_uniqueName hwanted g
  refine ⟨hname, fun n h hn hnew hnodes ↦ ?_⟩
  have hlist : h.nodeList = g.nodeList ++ [n] := by
    rw [← nodeList_addNode hnew, nodeList, hnodes]
    rfl
  refine ⟨fun output houtput ↦ ?_, fun m input r source hr ↦ hr.of_append hlist⟩
  have hfree : g.usesName n.name = false := hn ▸ usesName_uniqueName wanted g
  have hnamed : h.nodeNamed? name = some n := hn ▸ nodeNamed?_last hlist hfree
  refine ⟨isReference_dotted hname houtput, isLiteral_dotted hname houtput,
    fun m input htext ↦ ?_⟩
  have hrefers {r : Reference} {source : Node} :
      h.RefersTo m input r source ↔ r = ⟨name, output⟩ ∧ source = n :=
    refersTo_dotted_iff hname houtput htext hnamed
  have hfault := (hrefers.2 ⟨rfl, rfl⟩).bindingFault?_eq
  refine ⟨fun r source ↦ hrefers, hfault, fun p hpath hp htype ↦ ?_⟩
  rw [hfault, ← htype]
  exact sourceFault?_eq_none (mem_reachable.2 hpath) hp

/-- A call wants a value from a node that does not exist, under the name that the next call of the
first function will get. -/
def awaiting : Snapshot :=
  let (start, ids) := Node.newStart "Start" (.ofStream .ofNat)
  let (call, ids) := Node.newFunction ⟨"f", .empty, .ofList [("y", .int32)]⟩ "f" ids
  let (user, _) := Node.newFunction ⟨"g", .ofList [("x", .int32)], .empty⟩ "g" ids
  ⟨[start, call, user.bind "x" " f-1.y "], []⟩

theorem referable_uniqueName_awaiting :
    let g := ofSnapshot awaiting
    let n := (Node.newFunction ⟨"f", .empty, .ofList [("y", .int32)]⟩ (uniqueName "f" g)
      (.ofStream fun k ↦ .ofNat (k + 100))).1
    let h := (g.addNode n).addEdge
      { id := ⟨.ofNat 200⟩
        layer := .control
        source := ⟨⟨.ofNat 0⟩, ⟨.ofNat 2⟩⟩
        target := ⟨n.id, n.ports.controlInput.id⟩ }
    Identifier "f".toList ∧ n.name = "f-1" ∧ n.id ∉ g.nodes ∧ h.nodes = (g.addNode n).nodes ∧
    h.OnControlPath n.id ∧ ∃ m ∈ g.nodeList, ∃ input ∈ m.ports.dataInputs,
      m.boundText input = "f-1.y".toList ∧
      bindingFault? g g.reachable m input = some (.unknownNode "f-1") ∧
      bindingFault? h h.reachable m input = none := by
  intro g n h
  have hwanted : Identifier "f".toList := isIdentifier_iff.1 rfl
  have houtput : Identifier "y".toList := isIdentifier_iff.1 rfl
  have hname : uniqueName "f" g = "f-1" := by decide +kernel
  have hnew : n.id ∉ g.nodes := by decide +kernel
  have hpath : h.OnControlPath n.id := mem_reachable.1 (by decide +kernel)
  have hport : (n.dataOutput? "y").map (·.valueType) = some .int32 := by decide +kernel
  have hinput : ∃ m ∈ g.nodeList, ∃ input ∈ m.ports.dataInputs, input.valueType = .int32 ∧
      m.boundText input = "f-1.y".toList ∧
      bindingFault? g g.reachable m input = some (.unknownNode "f-1") := by decide +kernel
  obtain ⟨m, hm, input, hinput, htype, htext, hfault⟩ := hinput
  obtain ⟨p, hp, hptype⟩ := Option.map_eq_some_iff.1 hport
  obtain ⟨-, hadded⟩ := referable_uniqueName g hwanted
  obtain ⟨-, -, hclear⟩ := (hadded n h rfl hnew rfl).1 "y" houtput
  obtain ⟨-, -, hclear⟩ := hclear m input (by rw [hname]; exact htext)
  exact ⟨hwanted, hname, hnew, rfl, hpath, m, hm, input, hinput, htext, hfault,
    hclear p hpath hp (hptype.trans htype.symm)⟩

end Graph

end PipelineGraph
