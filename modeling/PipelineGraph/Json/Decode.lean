import PipelineGraph.Json.Number
import PipelineGraph.Json.Text
import PipelineGraph.OrderedMap
import PipelineGraph.Record

namespace PipelineGraph.Json

open Number

/-- Numbers are written without an exponent if the leading digit stands for 10 ^ -6 to 10 ^ 12. -/
def numberStyle : NumberStyle := ⟨.even, fun e ↦ -6 ≤ e && e ≤ 12⟩

def ofString (s : String) : Json := string (escape s.toList)

def ofFloat32 (x : Float32) : Json := if x.isFinite then number (finiteText numberStyle x) else null

def ofMap {α : Type} (encode : α → Json) (m : OrderedMap String α) : Json :=
  object (m.entries.map fun e ↦ (escape e.1.toList, encode e.2))

def ofFields (fields : List (String × Json)) : Json :=
  object (fields.map fun f ↦ (f.1.toList, f.2))

def text? (literal : List Char) : Option String := (unescape? literal).map String.ofList

def asString? : Json → Option String
  | string literal => text? literal
  | _ => none

def asFloat32? : Json → Option Float32
  | number literal => float32? literal
  | _ => none

def asList? {α : Type} (decode : Json → Option α) : Json → Option (List α)
  | array items => items.mapM decode
  | _ => none

/-- An object as a map. The last value of a repeated key counts. -/
def asMap? {α : Type} (decode : Json → Option α) : Json → Option (OrderedMap String α)
  | object members => do
    return .ofList (← members.mapM fun (key, j) ↦ do return (← text? key, ← decode j))
  | _ => none

def asOption? {α : Type} (decode : Json → Option α) : Json → Option (Option α)
  | null => some none
  | j => (decode j).map some

def asVariant? : Json → Option (String × Json)
  | string literal => (text? literal).map fun name ↦ (name, null)
  | object [(key, j)] => (text? key).map fun name ↦ (name, j)
  | _ => none

def asTag? {α : Type} (ofTag? : String → Option α) (j : Json) : Option α :=
  match asVariant? j with
  | some (name, null) => ofTag? name
  | _ => none

/-- The fields of a record among the given names: those of an object, or the items of an array in
the order of the names. -/
def asRecord? (names : List String) : Json → Option (Record Json)
  | object members => do
    Record.ofFields? names (← members.mapM fun (key, j) ↦ do return (← text? key, j))
  | array items => Record.ofItems? names items
  | _ => none

end PipelineGraph.Json
