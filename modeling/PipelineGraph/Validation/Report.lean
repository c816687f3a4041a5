import PipelineGraph.Graph.Reachability
import PipelineGraph.Validation.Expression
import PipelineGraph.Validation.Issue

namespace PipelineGraph

open Expression

/-- The outcome of checking every binding that control flow reaches. Only nodes with issues have
an entry. -/
structure Report where
  reachable : List NodeId
  issues : OrderedMap NodeId (List Issue)

/-- The fault of the expression bound to an input, if it has one: it has to be a literal of the
input's type or refer to an output of that type on a reachable node. -/
def bindingFault? (g : Graph) (reachable : List NodeId) (n : Node) (input : Port) : Option Fault :=
  let expr := Text.trim ((n.bindings.get? input.name).getD "").toList
  if expr.isEmpty then some .unbound
  else if isBareLiteral expr input.valueType then none
  else if !isBareReference expr then some (.malformed input.valueType)
  else
    let r := splitReference expr
    match g.nodeNamed? r.node with
    | none => some (.unknownNode r.node)
    | some source =>
      if source.id ∉ reachable then some (.unreachableNode r.node) else
        match source.dataOutput? r.output with
        | none => some (.unknownOutput r.node r.output)
        | some output =>
          if output.valueType ≠ input.valueType then
            some (.typeMismatch input.valueType output.valueType)
          else none

def nodeIssues (g : Graph) (reachable : List NodeId) (n : Node) : List Issue :=
  n.ports.dataInputs.filterMap fun input ↦
    (bindingFault? g reachable n input).map fun fault ↦ { input := input.name, fault }

def Graph.validate (g : Graph) : Report :=
  let reachable := g.reachable
  let checked := g.nodeList.filter fun n ↦ n.id ∈ reachable
  let found := checked.map fun n ↦ (n.id, nodeIssues g reachable n)
  { reachable, issues := .ofList (found.filter fun e ↦ !e.2.isEmpty) }

namespace Report

def issuesOf (r : Report) (n : NodeId) : List Issue := (r.issues.get? n).getD []

def counts (r : Report) (n : NodeId) : IssueCounts := .ofList (r.issuesOf n)

def hasIssues (r : Report) (n : NodeId) : Bool := n ∈ r.issues

def isValid (r : Report) : Bool := r.issues.values.all fun l ↦ l.all fun i ↦ i.severity ≠ .error

def total (r : Report) : IssueCounts :=
  r.issues.keys.foldl (fun sum n ↦ sum + r.counts n) {}

def issueLines (r : Report) (g : Graph) : List String :=
  r.issues.entries.flatMap fun (id, issues) ↦
    let name := ((g.node? id).map (·.name)).getD "<removed>"
    issues.map fun i ↦ i.severity.tag ++ ": [" ++ name ++ "] " ++ i.message

def skipped (r : Report) (g : Graph) : List String :=
  (g.nodeList.filter fun n ↦ n.id ∉ r.reachable).map (·.name)

def skippedLines (r : Report) (g : Graph) : List String :=
  match r.skipped g with
  | [] => []
  | names => ["skipped (not reachable): " ++ ", ".intercalate names]

def summaryLine (r : Report) (g : Graph) : String :=
  toString g.nodes.size ++ " nodes, " ++ toString r.reachable.length ++ " reachable, " ++
    toString r.total.errors ++ " errors, " ++ toString r.total.warnings ++ " warnings"

/-- One line for each issue, one for the nodes that were not checked, and a summary. -/
def render (r : Report) (g : Graph) : String :=
  "\n".intercalate (r.issueLines g ++ r.skippedLines g ++ [r.summaryLine g]) ++ "\n"

end Report

end PipelineGraph
