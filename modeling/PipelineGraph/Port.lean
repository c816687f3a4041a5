import PipelineGraph.Identity

namespace PipelineGraph

inductive Direction where
  | input
  | output
deriving DecidableEq

def Direction.tag : Direction → String
  | input => "input"
  | output => "output"

def Direction.all : List Direction := [input, output]

/-- Control edges order the execution, data edges record the flow of values. -/
inductive Layer where
  | control
  | data
deriving DecidableEq

namespace Layer

def tag : Layer → String
  | control => "control"
  | data => "data"

def all : List Layer := [control, data]

def toggled : Layer → Layer
  | control => data
  | data => control

end Layer

inductive ValueType where
  | string
  | bool
  | int32
  | int64
  | uint32
  | uint64
  | float
  | double
  | none
deriving DecidableEq

namespace ValueType

def tag : ValueType → String
  | string => "string"
  | bool => "bool"
  | int32 => "int32"
  | int64 => "int64"
  | uint32 => "uint32"
  | uint64 => "uint64"
  | float => "float"
  | double => "double"
  | none => "None"

def all : List ValueType := [string, bool, int32, int64, uint32, uint64, float, double, none]

/-- Two types have a second name that is only read. -/
def alias? : String → Option ValueType
  | "int" => some int32
  | "none" => some none
  | _ => Option.none

def isSigned : ValueType → Bool
  | int32 | int64 => true
  | _ => false

def isUnsigned : ValueType → Bool
  | uint32 | uint64 => true
  | _ => false

def isFloating : ValueType → Bool
  | float | double => true
  | _ => false

end ValueType

def Direction.ofTag? (s : String) : Option Direction := all.find? fun d ↦ d.tag = s

def Layer.ofTag? (s : String) : Option Layer := all.find? fun l ↦ l.tag = s

def ValueType.ofTag? (s : String) : Option ValueType :=
  (all.find? fun t ↦ t.tag = s) <|> alias? s

structure Port where
  id : PortId
  name : String
  direction : Direction
  layer : Layer
  valueType : ValueType
deriving DecidableEq

namespace Port

/-- An edge may run from `a` to `b`: out of one node and into another on a single layer. -/
def canConnect (a b : Port) : Bool :=
  a.direction = .output && b.direction = .input && a.layer = b.layer

def control (id : PortId) (direction : Direction) : Port :=
  ⟨id, "control", direction, .control, .none⟩

def data (id : PortId) (name : String) (direction : Direction) (valueType : ValueType) : Port :=
  ⟨id, name, direction, .data, valueType⟩

end Port

end PipelineGraph
