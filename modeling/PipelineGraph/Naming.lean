import PipelineGraph.Graph.Basic

namespace PipelineGraph

abbrev NamingPolicy := String → Graph → String

def numbered (base : String) (number : Nat) : String :=
  base ++ "-" ++ String.ofList (Nat.toDigits 10 number)

/-- The wanted name if no node has it, otherwise the first free one of `name-1`, `name-2`, and so
on. One more candidate than there are nodes is enough. -/
def uniqueName : NamingPolicy := fun wanted g ↦
  if g.usesName wanted then
    let candidates := (List.range (g.nodes.size + 1)).map fun i ↦ numbered wanted (i + 1)
    (candidates.find? fun name ↦ !g.usesName name).getD wanted
  else wanted

end PipelineGraph
