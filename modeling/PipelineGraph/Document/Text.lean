import PipelineGraph.Document.Json
import PipelineGraph.Document.Ron

namespace PipelineGraph.Document

def encode (d : Document) : DocumentFormat → String
  | .json => d.toJson.toString
  | .ron => String.ofList (d.toRon.render false 0)

def parse (text : String) : DocumentFormat → Except DocumentError Document
  | .json =>
    match (Json.parse? text).bind ofJson? with
    | some d => .ok d
    | none => .error .json
  | .ron =>
    match (Ron.parse? text).bind fun (e, t) ↦ ofRon? e t with
    | some d => .ok d
    | none => .error .ron

end PipelineGraph.Document
