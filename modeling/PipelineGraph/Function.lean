import PipelineGraph.OrderedMap
import PipelineGraph.Port

namespace PipelineGraph

/-- What a function consumes and produces. The order of the parameters is the order of the data
ports of its nodes. -/
structure FunctionSignature where
  name : String
  inputs : OrderedMap String ValueType
  outputs : OrderedMap String ValueType
deriving BEq

structure Palette where
  functions : OrderedMap String FunctionSignature

namespace Palette

def empty : Palette := ⟨.empty⟩

def register (p : Palette) (f : FunctionSignature) : Palette := ⟨p.functions.insert f.name f⟩

def ofList (fs : List FunctionSignature) : Palette := fs.foldl register empty

def find? (p : Palette) (name : String) : Option FunctionSignature := p.functions.get? name

end Palette

end PipelineGraph
