import PipelineGraph.Document.Json
import PipelineGraph.Payload

namespace PipelineGraph

open Json

namespace PayloadNode

def fieldNames : List String := ["id", "title", "type", "inputVariables", "function_name"]

def toJson (n : PayloadNode) : Json :=
  .ofFields ([
    ("id", n.id.toJson),
    ("title", .ofString n.title),
    ("type", .ofString n.kind),
    ("inputVariables", .ofMap Json.ofString n.bindings)] ++
    (n.functionName.map fun name ↦ ("function_name", Json.ofString name)).toList)

def ofJson? (j : Json) : Option PayloadNode := do
  let r ← j.asRecord? fieldNames
  return {
    id := ← r.get? "id" NodeId.ofJson?
    title := ← r.get? "title" asString?
    kind := ← r.get? "type" asString?
    bindings := ← r.get? "inputVariables" (asMap? asString?)
    functionName := ← r.getOr? "function_name" (asOption? asString?) none }

end PayloadNode

namespace PayloadEdge

def fieldNames : List String := ["source", "source_port", "target", "target_port"]

def toJson (e : PayloadEdge) : Json :=
  .ofFields [
    ("source", e.source.node.toJson),
    ("source_port", e.source.port.toJson),
    ("target", e.target.node.toJson),
    ("target_port", e.target.port.toJson)]

def ofJson? (j : Json) : Option PayloadEdge := do
  let r ← j.asRecord? fieldNames
  return {
    source := ⟨← r.get? "source" NodeId.ofJson?, ← r.get? "source_port" PortId.ofJson?⟩
    target := ⟨← r.get? "target" NodeId.ofJson?, ← r.get? "target_port" PortId.ofJson?⟩ }

end PayloadEdge

namespace Payload

def fieldNames : List String := ["nodes", "edges"]

def toJson (p : Payload) : Json :=
  .ofFields [
    ("nodes", .array (p.nodes.map PayloadNode.toJson)),
    ("edges", .array (p.edges.map PayloadEdge.toJson))]

def ofJson? (j : Json) : Option Payload := do
  let r ← j.asRecord? fieldNames
  return {
    nodes := ← r.get? "nodes" (asList? PayloadNode.ofJson?)
    edges := ← r.get? "edges" (asList? PayloadEdge.ofJson?) }

def encode (p : Payload) : String := p.toJson.toString

def decode? (text : String) : Option Payload := do ofJson? (← Json.parse? text)

end Payload

end PipelineGraph
