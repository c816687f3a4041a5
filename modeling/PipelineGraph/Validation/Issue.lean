import PipelineGraph.Port

namespace PipelineGraph

inductive Severity where
  | error
  | warning
  | info
deriving DecidableEq

namespace Severity

def tag : Severity → String
  | error => "error"
  | warning => "warning"
  | info => "info"

def all : List Severity := [error, warning, info]

end Severity

def Severity.ofTag? (s : String) : Option Severity := all.find? fun x ↦ x.tag = s

inductive Fault where
  | unbound
  | malformed (expected : ValueType)
  | unknownNode (node : String)
  | unreachableNode (node : String)
  | unknownOutput (node output : String)
  | typeMismatch (expected found : ValueType)
deriving DecidableEq

structure Issue where
  severity : Severity := .error
  input : String
  fault : Fault
deriving DecidableEq

def Issue.message (i : Issue) : String :=
  match i.fault with
  | .unbound => "Input \"" ++ i.input ++ "\" is not mapped to a variable"
  | .malformed expected =>
    "Invalid value for input \"" ++ i.input ++ "\": must be a " ++ expected.tag ++
      " literal or a valid variable reference"
  | .unknownNode node => "Source node \"" ++ node ++ "\" not found for input \"" ++ i.input ++ "\""
  | .unreachableNode node => "Source node \"" ++ node ++ "\" is not connected to start node"
  | .unknownOutput node output => "Output \"" ++ output ++ "\" not found in node \"" ++ node ++ "\""
  | .typeMismatch expected found =>
    "Type mismatch for input \"" ++ i.input ++ "\": expected " ++ expected.tag ++ ", got " ++
      found.tag

structure IssueCounts where
  errors : Nat := 0
  warnings : Nat := 0
  infos : Nat := 0
deriving DecidableEq

namespace IssueCounts

instance : Add IssueCounts :=
  ⟨fun a b ↦ ⟨a.errors + b.errors, a.warnings + b.warnings, a.infos + b.infos⟩⟩

def ofSeverity : Severity → IssueCounts
  | .error => { errors := 1 }
  | .warning => { warnings := 1 }
  | .info => { infos := 1 }

def ofList (issues : List Issue) : IssueCounts :=
  issues.foldl (fun counts i ↦ counts + ofSeverity i.severity) {}

end IssueCounts

end PipelineGraph
