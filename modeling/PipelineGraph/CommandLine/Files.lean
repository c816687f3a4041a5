import PipelineGraph.OrderedMap
import PipelineGraph.Text.Path

namespace PipelineGraph.CommandLine

/-- How a program gets at files. A file that cannot be read gives nothing, and writing tells
whether it succeeded. -/
structure FileAccess (m : Type → Type) where
  read : String → m (Option String)
  write : String → String → m Bool
  occupied : String → m Bool

/-- The text files in a directory and below it, by the parts of their paths. -/
structure Directory where
  files : OrderedMap (List String) String

namespace Directory

def isFolder (d : Directory) (location : List String) : Bool :=
  location.isEmpty || d.files.keys.any fun key ↦
    location.length < key.length && key.take location.length = location

def follow (d : Directory) : List String → List String → Option (List String)
  | location, [] => some location
  | location, part :: rest =>
    if !d.isFolder location then none
    else if part = "" ∨ part = "." then d.follow location rest
    else if part = ".." then
      if location.isEmpty then none else d.follow location.dropLast rest
    else d.follow (location ++ [part]) rest

def locate (d : Directory) (path : String) : Option (List String) :=
  if path.toList.head? = some '/' then none
  else d.follow [] ((Text.splitSlashes path.toList).map String.ofList)

def read (d : Directory) (path : String) : Option String := do d.files.get? (← d.locate path)

def occupied (d : Directory) (path : String) : Bool :=
  match d.locate path with
  | some location => location ∈ d.files || d.isFolder location
  | none => false

def write (d : Directory) (path text : String) : Bool × Directory :=
  match d.locate path with
  | some location =>
    if d.isFolder location then (false, d) else (true, ⟨d.files.insert location text⟩)
  | none => (false, d)

def access : FileAccess (StateM Directory) where
  read path := do return (← get).read path
  write path text := modifyGet fun d ↦ d.write path text
  occupied path := do return (← get).occupied path

end Directory

end PipelineGraph.CommandLine
