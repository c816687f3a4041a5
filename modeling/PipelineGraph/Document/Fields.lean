import PipelineGraph.Document.Basic

namespace PipelineGraph

/-- The names of fields in a file, in the order in which they are written. -/
def Port.fieldNames : List String := ["id", "name", "direction", "layer", "data_type"]

def FunctionSignature.fieldNames : List String := ["function_name", "inputs", "outputs"]

def NodePorts.fieldNames : List String :=
  ["control_input", "control_output", "data_inputs", "data_outputs"]

def Node.fieldNames : List String :=
  ["id", "name", "position", "width", "ports", "kind", "input_bindings"]

def Edge.fieldNames : List String :=
  ["id", "layer", "source_node", "source_port", "target_node", "target_port",
    "x1", "y1", "x2", "y2"]

def ViewTransform.fieldNames : List String := ["scale", "panX", "panY"]

def Document.fieldNames : List String := ["nodes", "edges", "transform"]

end PipelineGraph
