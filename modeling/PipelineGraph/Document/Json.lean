import PipelineGraph.Document.Fields
import PipelineGraph.Json.Decode
import PipelineGraph.Json.Parser
import PipelineGraph.Validation.Issue

namespace PipelineGraph

open Json

namespace Uuid

def toJson (u : Uuid) : Json := .ofString u.toString

def ofJson? (j : Json) : Option Uuid := do ofString? (← j.asString?)

end Uuid

namespace NodeId

def toJson (id : NodeId) : Json := id.uuid.toJson

def ofJson? (j : Json) : Option NodeId := (Uuid.ofJson? j).map .mk

end NodeId

namespace PortId

def toJson (id : PortId) : Json := id.uuid.toJson

def ofJson? (j : Json) : Option PortId := (Uuid.ofJson? j).map .mk

end PortId

namespace EdgeId

def toJson (id : EdgeId) : Json := id.uuid.toJson

def ofJson? (j : Json) : Option EdgeId := (Uuid.ofJson? j).map .mk

end EdgeId

namespace Point

def toJson (p : Point) : Json := .array [.ofFloat32 p.x, .ofFloat32 p.y]

def ofJson? : Json → Option Point
  | .array [x, y] => do return ⟨← x.asFloat32?, ← y.asFloat32?⟩
  | _ => none

end Point

namespace Direction

def toJson (d : Direction) : Json := .ofString d.tag

def ofJson? : Json → Option Direction := asTag? ofTag?

end Direction

namespace Layer

def toJson (l : Layer) : Json := .ofString l.tag

def ofJson? : Json → Option Layer := asTag? ofTag?

end Layer

namespace ValueType

def toJson (t : ValueType) : Json := .ofString t.tag

def ofJson? : Json → Option ValueType := asTag? ofTag?

end ValueType

namespace Severity

def toJson (s : Severity) : Json := .ofString s.tag

def ofJson? : Json → Option Severity := asTag? ofTag?

end Severity

namespace Port

def toJson (p : Port) : Json :=
  .ofFields [
    ("id", p.id.toJson),
    ("name", .ofString p.name),
    ("direction", p.direction.toJson),
    ("layer", p.layer.toJson),
    ("data_type", p.valueType.toJson)]

def ofJson? (j : Json) : Option Port := do
  let r ← j.asRecord? fieldNames
  return {
    id := ← r.get? "id" PortId.ofJson?
    name := ← r.get? "name" asString?
    direction := ← r.get? "direction" Direction.ofJson?
    layer := ← r.get? "layer" Layer.ofJson?
    valueType := ← r.get? "data_type" ValueType.ofJson? }

end Port

namespace FunctionSignature

def toJson (f : FunctionSignature) : Json :=
  .ofFields [
    ("function_name", .ofString f.name),
    ("inputs", .ofMap ValueType.toJson f.inputs),
    ("outputs", .ofMap ValueType.toJson f.outputs)]

def ofJson? (j : Json) : Option FunctionSignature := do
  let r ← j.asRecord? fieldNames
  return {
    name := ← r.get? "function_name" asString?
    inputs := ← r.get? "inputs" (asMap? ValueType.ofJson?)
    outputs := ← r.get? "outputs" (asMap? ValueType.ofJson?) }

end FunctionSignature

namespace NodeKind

def toJson : NodeKind → Json
  | start => .ofString "start"
  | function f => .ofFields [("function", f.toJson)]

def ofJson? (j : Json) : Option NodeKind :=
  match asVariant? j with
  | some ("start", .null) => some start
  | some ("function", j) => (FunctionSignature.ofJson? j).map function
  | _ => none

end NodeKind

namespace NodePorts

def toJson (ps : NodePorts) : Json :=
  .ofFields [
    ("control_input", ps.controlInput.toJson),
    ("control_output", ps.controlOutput.toJson),
    ("data_inputs", .array (ps.dataInputs.map Port.toJson)),
    ("data_outputs", .array (ps.dataOutputs.map Port.toJson))]

def ofJson? (j : Json) : Option NodePorts := do
  let r ← j.asRecord? fieldNames
  return {
    controlInput := ← r.get? "control_input" Port.ofJson?
    controlOutput := ← r.get? "control_output" Port.ofJson?
    dataInputs := ← r.get? "data_inputs" (asList? Port.ofJson?)
    dataOutputs := ← r.get? "data_outputs" (asList? Port.ofJson?) }

end NodePorts

namespace Node

def toJson (n : Node) : Json :=
  .ofFields [
    ("id", n.id.toJson),
    ("name", .ofString n.name),
    ("position", n.position.toJson),
    ("width", .ofFloat32 n.width),
    ("ports", n.ports.toJson),
    ("kind", n.kind.toJson),
    ("input_bindings", .ofMap Json.ofString n.bindings)]

def ofJson? (j : Json) : Option Node := do
  let r ← j.asRecord? fieldNames
  return {
    id := ← r.get? "id" NodeId.ofJson?
    name := ← r.get? "name" asString?
    position := ← r.get? "position" Point.ofJson?
    width := ← r.get? "width" asFloat32?
    ports := ← r.get? "ports" NodePorts.ofJson?
    kind := ← r.get? "kind" NodeKind.ofJson?
    bindings := ← r.getOr? "input_bindings" (asMap? asString?) .empty }

end Node

namespace Edge

def toJson (e : Edge) : Json :=
  .ofFields [
    ("id", e.id.toJson),
    ("layer", e.layer.toJson),
    ("source_node", e.source.node.toJson),
    ("source_port", e.source.port.toJson),
    ("target_node", e.target.node.toJson),
    ("target_port", e.target.port.toJson),
    ("x1", .ofFloat32 e.drawnFrom.x),
    ("y1", .ofFloat32 e.drawnFrom.y),
    ("x2", .ofFloat32 e.drawnTo.x),
    ("y2", .ofFloat32 e.drawnTo.y)]

def ofJson? (j : Json) : Option Edge := do
  let r ← j.asRecord? fieldNames
  return {
    id := ← r.get? "id" EdgeId.ofJson?
    layer := ← r.get? "layer" Layer.ofJson?
    source := ⟨← r.get? "source_node" NodeId.ofJson?, ← r.get? "source_port" PortId.ofJson?⟩
    target := ⟨← r.get? "target_node" NodeId.ofJson?, ← r.get? "target_port" PortId.ofJson?⟩
    drawnFrom := ⟨← r.getOr? "x1" asFloat32? 0, ← r.getOr? "y1" asFloat32? 0⟩
    drawnTo := ⟨← r.getOr? "x2" asFloat32? 0, ← r.getOr? "y2" asFloat32? 0⟩ }

end Edge

namespace ViewTransform

def panField (name : String) : Option Float32 → List (String × Json)
  | none => []
  | some x => [(name, .ofFloat32 x)]

def toJson (t : ViewTransform) : Json :=
  .ofFields (("scale", .ofFloat32 t.scale) :: (panField "panX" t.panX ++ panField "panY" t.panY))

def ofJson? (j : Json) : Option ViewTransform := do
  let r ← j.asRecord? fieldNames
  return {
    scale := ← r.get? "scale" asFloat32?
    panX := ← r.getOr? "panX" (asOption? asFloat32?) none
    panY := ← r.getOr? "panY" (asOption? asFloat32?) none }

end ViewTransform

namespace Document

def toJson (d : Document) : Json :=
  .ofFields [
    ("nodes", .array (d.snapshot.nodes.map Node.toJson)),
    ("edges", .array (d.snapshot.edges.map Edge.toJson)),
    ("transform", d.transform.toJson)]

def ofJson? (j : Json) : Option Document := do
  let r ← j.asRecord? fieldNames
  return {
    snapshot := {
      nodes := ← r.get? "nodes" (asList? Node.ofJson?)
      edges := ← r.get? "edges" (asList? Edge.ofJson?) }
    transform := ← r.getOr? "transform" ViewTransform.ofJson? {} }

end Document

end PipelineGraph
