import PipelineGraph.Function
import PipelineGraph.Geometry

namespace PipelineGraph

inductive NodeKind where
  | start
  | function (signature : FunctionSignature)
deriving BEq

namespace NodeKind

def tag : NodeKind → String
  | start => "start"
  | function _ => "function"

def signature? : NodeKind → Option FunctionSignature
  | start => none
  | function f => some f

end NodeKind

structure NodePorts where
  controlInput : Port
  controlOutput : Port
  dataInputs : List Port
  dataOutputs : List Port
deriving DecidableEq

namespace NodePorts

/-- All ports in the order that numbers them: inputs before outputs, control before data. -/
def toList (ps : NodePorts) : List Port :=
  ps.controlInput :: ps.dataInputs ++ ps.controlOutput :: ps.dataOutputs

def size (ps : NodePorts) : Nat := 2 + ps.dataInputs.length + ps.dataOutputs.length

def get? (ps : NodePorts) (index : Nat) : Option Port := ps.toList[index]?

def find? (ps : NodePorts) (id : PortId) : Option Port := ps.toList.find? fun p ↦ p.id = id

def index? (ps : NodePorts) (id : PortId) : Option Nat := ps.toList.findIdx? fun p ↦ p.id = id

def renewList : List Port → IdSupply → List Port × IdSupply
  | [], ids => ([], ids)
  | p :: rest, ids =>
    let (id, ids) := ids.drawPort
    let (rest, ids) := renewList rest ids
    ({ p with id } :: rest, ids)

def renew (ps : NodePorts) (ids : IdSupply) : NodePorts × IdSupply :=
  let (input, ids) := ids.drawPort
  let (output, ids) := ids.drawPort
  let (dataInputs, ids) := renewList ps.dataInputs ids
  let (dataOutputs, ids) := renewList ps.dataOutputs ids
  ({ controlInput := { ps.controlInput with id := input }
     controlOutput := { ps.controlOutput with id := output }
     dataInputs, dataOutputs }, ids)

def dataPorts (direction : Direction) : List (String × ValueType) → IdSupply → List Port × IdSupply
  | [], ids => ([], ids)
  | (name, type) :: rest, ids =>
    let (id, ids) := ids.drawPort
    let (rest, ids) := dataPorts direction rest ids
    (.data id name direction type :: rest, ids)

def ofParameters (inputs outputs : List (String × ValueType)) (ids : IdSupply) :
    NodePorts × IdSupply :=
  let (input, ids) := ids.drawPort
  let (output, ids) := ids.drawPort
  let (dataInputs, ids) := dataPorts .input inputs ids
  let (dataOutputs, ids) := dataPorts .output outputs ids
  ({ controlInput := .control input .input
     controlOutput := .control output .output
     dataInputs, dataOutputs }, ids)

end NodePorts

/-- A placed start point or function call. The bindings give each data input, by name, the
expression that supplies its value. -/
structure Node where
  id : NodeId
  name : String
  position : Point
  width : Float32
  ports : NodePorts
  kind : NodeKind
  bindings : OrderedMap String String
deriving BEq

namespace Node

def defaultStartPosition : Point := ⟨50, 50⟩

def defaultStartWidth : Float32 := 100

def defaultFunctionWidth : Float32 := 150

def newStart (name : String) (ids : IdSupply) : Node × IdSupply :=
  let (id, ids) := ids.drawNode
  let (ports, ids) := NodePorts.ofParameters [] [] ids
  ({ id, name, ports
     position := defaultStartPosition
     width := defaultStartWidth
     kind := .start
     bindings := .empty }, ids)

def newFunction (f : FunctionSignature) (name : String) (ids : IdSupply) : Node × IdSupply :=
  let (id, ids) := ids.drawNode
  let (ports, ids) := NodePorts.ofParameters f.inputs.entries f.outputs.entries ids
  ({ id, name, ports
     position := .zero
     width := defaultFunctionWidth
     kind := .function f
     bindings := .empty }, ids)

def isStart (n : Node) : Bool :=
  match n.kind with
  | .start => true
  | .function _ => false

def dataInput? (n : Node) (name : String) : Option Port :=
  n.ports.dataInputs.find? fun p ↦ p.name = name

def dataOutput? (n : Node) (name : String) : Option Port :=
  n.ports.dataOutputs.find? fun p ↦ p.name = name

def bind (n : Node) (input expr : String) : Node :=
  { n with bindings := n.bindings.insert input expr }

end Node

structure NodeChange where
  name : Option String := none
  position : Option Point := none
  width : Option Float32 := none
  bindings : List (String × String) := []

def NodeChange.apply (c : NodeChange) (n : Node) : Node :=
  { n with
    name := c.name.getD n.name
    position := c.position.getD n.position
    width := c.width.getD n.width
    bindings := c.bindings.foldl (fun m b ↦ m.insert b.1 b.2) n.bindings }

end PipelineGraph
