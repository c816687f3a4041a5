import PipelineGraph.Graph.Snapshot
import PipelineGraph.Text.Path

namespace PipelineGraph

structure ViewTransform where
  scale : Float32 := 1
  panX : Option Float32 := none
  panY : Option Float32 := none
deriving BEq

structure Document where
  snapshot : Snapshot
  transform : ViewTransform := {}
deriving BEq

inductive DocumentFormat where
  | json
  | ron
deriving DecidableEq

namespace DocumentFormat

/-- Files with the extension `json` in any letter case are JSON, all others RON. -/
def ofPath (path : String) : DocumentFormat :=
  match (Text.pathParts path.toList).getLast?.bind Text.extension? with
  | some ext => if ext.map Char.toLower = "json".toList then json else ron
  | none => ron

end DocumentFormat

inductive DocumentError where
  | io
  | json
  | ron
deriving DecidableEq

end PipelineGraph
