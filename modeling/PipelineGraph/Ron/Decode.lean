import PipelineGraph.OrderedMap
import PipelineGraph.Record
import PipelineGraph.Ron.Parser

namespace PipelineGraph.Ron

open Number

/-- Words that have a meaning of their own, so that a name spelled like one is written raw. -/
def reserved : List String := ["None", "Some", "true", "false", "inf", "NaN"]

def identifier (name : String) : Identifier := ⟨name.toList, name ∈ reserved⟩

def ofTag (tag : String) : Ron := word (identifier tag)

def ofString (s : String) : Ron := string s.toList

/-- A number. Those that are not finite are words, except for negative infinity with its sign. -/
def ofFloat32 (x : Float32) : Ron :=
  let text := numberText numberStyle x
  if x.isFinite ∨ isNegative x ∧ ¬ x.isNaN then number text else word ⟨text, false⟩

def ofMap {α : Type} (encode : α → Ron) (m : OrderedMap String α) : Ron :=
  map (m.entries.map fun e ↦ (ofString e.1, encode e.2))

def ofFields (fields : List (String × Ron)) : Ron :=
  record none (fields.map fun f ↦ (identifier f.1, f.2))

def ofSome (t : Ron) : Ron := tuple (some ⟨"Some".toList, false⟩) [t]

def asString? : Ron → Option String
  | string content => some (String.ofList content)
  | _ => none

def asFloat32? : Ron → Option Float32
  | number literal => float32? literal
  | word ⟨name, false⟩ => float32? name
  | _ => none

def asList? {α : Type} (decode : Ron → Option α) : Ron → Option (List α)
  | list items => items.mapM decode
  | _ => none

def asMap? {α : Type} (decode : Ron → Option α) : Ron → Option (OrderedMap String α)
  | map entries => do
    return .ofList (← entries.mapM fun (key, t) ↦ do return (← key.asString?, ← decode t))
  | _ => none

def asOption? {α : Type} (e : Extensions) (decode : Ron → Option α) : Ron → Option (Option α)
  | word ⟨['N', 'o', 'n', 'e'], false⟩ => some none
  | tuple (some ⟨['S', 'o', 'm', 'e'], false⟩) [t] => (decode t).map some
  | t => if e.implicitSome then (decode t).map some else none

def asTag? {α : Type} (ofTag? : String → Option α) : Ron → Option α
  | word i => ofTag? (String.ofList i.name)
  | _ => none

/-- Whether a value of a type may be called so. It need not be called anything. -/
def names (e : Extensions) (type : String) : Option Identifier → Bool
  | none => !e.explicitNames
  | some i => i.name = type.toList

def asWrapped? {α : Type} (e : Extensions) (type : String) (decode : Ron → Option α) (t : Ron) :
    Option α :=
  if e.unwrapNewtypes then decode t
  else match t with
    | tuple name [t] => if names e type name then decode t else none
    | _ => none

def recordOf? (fieldNames : List String) (fields : List (Identifier × Ron)) : Option (Record Ron) :=
  Record.ofFields? fieldNames (fields.map fun f ↦ (String.ofList f.1.name, f.2))

def asRecord? (e : Extensions) (type : String) (fieldNames : List String) :
    Ron → Option (Record Ron)
  | record name fields => if names e type name then recordOf? fieldNames fields else none
  | tuple name [] => if names e type name then some ⟨[]⟩ else none
  | _ => none

end PipelineGraph.Ron
