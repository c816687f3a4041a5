import PipelineGraph.Document.Fields
import PipelineGraph.Ron.Decode

namespace PipelineGraph

open Ron (asWrapped? asTag? asList? asMap? asString? asFloat32? asOption? Extensions)

namespace Uuid

def toRon (u : Uuid) : Ron := .tuple none [.ofString u.toString]

def ofRon? (e : Extensions) (type : String) (t : Ron) : Option Uuid := do
  ofString? (← asWrapped? e type asString? t)

end Uuid

def NodeId.ofRon? (e : Extensions) (t : Ron) : Option NodeId := (Uuid.ofRon? e "NodeId" t).map .mk

def PortId.ofRon? (e : Extensions) (t : Ron) : Option PortId := (Uuid.ofRon? e "PortId" t).map .mk

def EdgeId.ofRon? (e : Extensions) (t : Ron) : Option EdgeId := (Uuid.ofRon? e "EdgeId" t).map .mk

namespace Point

def toRon (p : Point) : Ron := .tuple none [.ofFloat32 p.x, .ofFloat32 p.y]

def ofRon? : Ron → Option Point
  | .tuple none [x, y] => do return ⟨← x.asFloat32?, ← y.asFloat32?⟩
  | _ => none

end Point

namespace Port

def toRon (p : Port) : Ron :=
  .ofFields [
    ("id", p.id.uuid.toRon),
    ("name", .ofString p.name),
    ("direction", .ofTag p.direction.tag),
    ("layer", .ofTag p.layer.tag),
    ("data_type", .ofTag p.valueType.tag)]

def ofRon? (e : Extensions) (t : Ron) : Option Port := do
  let r ← t.asRecord? e "Port" fieldNames
  return {
    id := ← r.get? "id" (PortId.ofRon? e)
    name := ← r.get? "name" asString?
    direction := ← r.get? "direction" (asTag? Direction.ofTag?)
    layer := ← r.get? "layer" (asTag? Layer.ofTag?)
    valueType := ← r.get? "data_type" (asTag? ValueType.ofTag?) }

end Port

namespace FunctionSignature

def ronFields (f : FunctionSignature) : List (String × Ron) := [
  ("function_name", .ofString f.name),
  ("inputs", .ofMap (fun type ↦ .ofTag type.tag) f.inputs),
  ("outputs", .ofMap (fun type ↦ .ofTag type.tag) f.outputs)]

def ofRonRecord? (r : Record Ron) : Option FunctionSignature := do
  return {
    name := ← r.get? "function_name" asString?
    inputs := ← r.get? "inputs" (asMap? (asTag? ValueType.ofTag?))
    outputs := ← r.get? "outputs" (asMap? (asTag? ValueType.ofTag?)) }

def ofRon? (e : Extensions) (t : Ron) : Option FunctionSignature := do
  ofRonRecord? (← t.asRecord? e "FunctionConfig" fieldNames)

end FunctionSignature

namespace NodeKind

def toRon : NodeKind → Ron
  | start => .ofTag "start"
  | function f => .tuple (some (Ron.identifier "function")) [.ofFields f.ronFields]

/-- A start, or a function with its signature in parentheses of its own unless they are left out
by agreement. -/
def ofRon? (e : Extensions) : Ron → Option NodeKind
  | .word i => if String.ofList i.name = "start" then some start else none
  | .tuple (some i) [t] =>
    if String.ofList i.name = "function" ∧ ¬ e.unwrapVariants then
      (FunctionSignature.ofRon? e t).map function
    else none
  | .record (some i) fields =>
    if String.ofList i.name = "function" ∧ e.unwrapVariants then do
      let r ← Ron.recordOf? FunctionSignature.fieldNames fields
      (FunctionSignature.ofRonRecord? r).map function
    else none
  | _ => none

end NodeKind

namespace NodePorts

def toRon (ps : NodePorts) : Ron :=
  .ofFields [
    ("control_input", ps.controlInput.toRon),
    ("control_output", ps.controlOutput.toRon),
    ("data_inputs", .list (ps.dataInputs.map Port.toRon)),
    ("data_outputs", .list (ps.dataOutputs.map Port.toRon))]

def ofRon? (e : Extensions) (t : Ron) : Option NodePorts := do
  let r ← t.asRecord? e "NodePorts" fieldNames
  return {
    controlInput := ← r.get? "control_input" (Port.ofRon? e)
    controlOutput := ← r.get? "control_output" (Port.ofRon? e)
    dataInputs := ← r.get? "data_inputs" (asList? (Port.ofRon? e))
    dataOutputs := ← r.get? "data_outputs" (asList? (Port.ofRon? e)) }

end NodePorts

namespace Node

def toRon (n : Node) : Ron :=
  .ofFields [
    ("id", n.id.uuid.toRon),
    ("name", .ofString n.name),
    ("position", n.position.toRon),
    ("width", .ofFloat32 n.width),
    ("ports", n.ports.toRon),
    ("kind", n.kind.toRon),
    ("input_bindings", .ofMap Ron.ofString n.bindings)]

def ofRon? (e : Extensions) (t : Ron) : Option Node := do
  let r ← t.asRecord? e "Node" fieldNames
  return {
    id := ← r.get? "id" (NodeId.ofRon? e)
    name := ← r.get? "name" asString?
    position := ← r.get? "position" Point.ofRon?
    width := ← r.get? "width" asFloat32?
    ports := ← r.get? "ports" (NodePorts.ofRon? e)
    kind := ← r.get? "kind" (NodeKind.ofRon? e)
    bindings := ← r.getOr? "input_bindings" (asMap? asString?) .empty }

end Node

namespace Edge

def toRon (e : Edge) : Ron :=
  .ofFields [
    ("id", e.id.uuid.toRon),
    ("layer", .ofTag e.layer.tag),
    ("source_node", e.source.node.uuid.toRon),
    ("source_port", e.source.port.uuid.toRon),
    ("target_node", e.target.node.uuid.toRon),
    ("target_port", e.target.port.uuid.toRon),
    ("x1", .ofFloat32 e.drawnFrom.x),
    ("y1", .ofFloat32 e.drawnFrom.y),
    ("x2", .ofFloat32 e.drawnTo.x),
    ("y2", .ofFloat32 e.drawnTo.y)]

def ofRon? (e : Extensions) (t : Ron) : Option Edge := do
  let r ← t.asRecord? e "Edge" fieldNames
  return {
    id := ← r.get? "id" (EdgeId.ofRon? e)
    layer := ← r.get? "layer" (asTag? Layer.ofTag?)
    source := {
      node := ← r.get? "source_node" (NodeId.ofRon? e)
      port := ← r.get? "source_port" (PortId.ofRon? e) }
    target := {
      node := ← r.get? "target_node" (NodeId.ofRon? e)
      port := ← r.get? "target_port" (PortId.ofRon? e) }
    drawnFrom := ⟨← r.getOr? "x1" asFloat32? 0, ← r.getOr? "y1" asFloat32? 0⟩
    drawnTo := ⟨← r.getOr? "x2" asFloat32? 0, ← r.getOr? "y2" asFloat32? 0⟩ }

end Edge

namespace ViewTransform

def panRonField (name : String) : Option Float32 → List (String × Ron)
  | none => []
  | some x => [(name, .ofSome (.ofFloat32 x))]

def toRon (v : ViewTransform) : Ron :=
  .ofFields (("scale", .ofFloat32 v.scale) ::
    (panRonField "panX" v.panX ++ panRonField "panY" v.panY))

def ofRon? (e : Extensions) (t : Ron) : Option ViewTransform := do
  let r ← t.asRecord? e "ViewTransform" fieldNames
  return {
    scale := ← r.get? "scale" asFloat32?
    panX := ← r.getOr? "panX" (asOption? e asFloat32?) none
    panY := ← r.getOr? "panY" (asOption? e asFloat32?) none }

end ViewTransform

namespace Document

def toRon (d : Document) : Ron :=
  .ofFields [
    ("nodes", .list (d.snapshot.nodes.map Node.toRon)),
    ("edges", .list (d.snapshot.edges.map Edge.toRon)),
    ("transform", d.transform.toRon)]

def ofRon? (e : Extensions) (t : Ron) : Option Document := do
  let r ← t.asRecord? e "GraphDocument" fieldNames
  return {
    snapshot := {
      nodes := ← r.get? "nodes" (asList? (Node.ofRon? e))
      edges := ← r.get? "edges" (asList? (Edge.ofRon? e)) }
    transform := ← r.getOr? "transform" (ViewTransform.ofRon? e) {} }

end Document

end PipelineGraph
