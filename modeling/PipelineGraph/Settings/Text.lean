import PipelineGraph.Document.Json
import PipelineGraph.Document.Ron
import PipelineGraph.Settings

namespace PipelineGraph.Settings

def fieldNames : List String :=
  ["paste_offset", "fallback_node_height", "drag_threshold", "start_node_name",
    "start_node_position", "start_node_width", "function_node_width"]

def ofJson? (j : Json) : Option Settings := do
  let r ← j.asRecord? fieldNames
  let base : Settings := {}
  return {
    pasteOffset := ← r.getOr? "paste_offset" Point.ofJson? base.pasteOffset
    nodeHeight := ← r.getOr? "fallback_node_height" Json.asFloat32? base.nodeHeight
    dragThreshold := ← r.getOr? "drag_threshold" Json.asFloat32? base.dragThreshold
    startName := ← r.getOr? "start_node_name" Json.asString? base.startName
    startPosition := ← r.getOr? "start_node_position" Point.ofJson? base.startPosition
    startWidth := ← r.getOr? "start_node_width" Json.asFloat32? base.startWidth
    functionWidth := ← r.getOr? "function_node_width" Json.asFloat32? base.functionWidth }

def toRon (s : Settings) : Ron :=
  .ofFields [
    ("paste_offset", s.pasteOffset.toRon),
    ("fallback_node_height", .ofFloat32 s.nodeHeight),
    ("drag_threshold", .ofFloat32 s.dragThreshold),
    ("start_node_name", .ofString s.startName),
    ("start_node_position", s.startPosition.toRon),
    ("start_node_width", .ofFloat32 s.startWidth),
    ("function_node_width", .ofFloat32 s.functionWidth)]

def ofRon? (e : Ron.Extensions) (t : Ron) : Option Settings := do
  let r ← t.asRecord? e "EditorConfig" fieldNames
  let base : Settings := {}
  return {
    pasteOffset := ← r.getOr? "paste_offset" Point.ofRon? base.pasteOffset
    nodeHeight := ← r.getOr? "fallback_node_height" Ron.asFloat32? base.nodeHeight
    dragThreshold := ← r.getOr? "drag_threshold" Ron.asFloat32? base.dragThreshold
    startName := ← r.getOr? "start_node_name" Ron.asString? base.startName
    startPosition := ← r.getOr? "start_node_position" Point.ofRon? base.startPosition
    startWidth := ← r.getOr? "start_node_width" Ron.asFloat32? base.startWidth
    functionWidth := ← r.getOr? "function_node_width" Ron.asFloat32? base.functionWidth }

def encode (s : Settings) : String := String.ofList (s.toRon.render true 0)

def parse? (text : String) : Option Settings := do
  let (e, t) ← Ron.parse? text
  ofRon? e t

end PipelineGraph.Settings
