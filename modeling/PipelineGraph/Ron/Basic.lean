import PipelineGraph.Ron.Text

namespace PipelineGraph

/-- The name of a field, a record or an alternative. A raw one is marked and may be a word that
means something else, or hold signs and dots. -/
structure Ron.Identifier where
  name : List Char
  raw : Bool := false
deriving DecidableEq

/-- A RON text as a tree. Numbers keep the characters they are written with. -/
inductive Ron where
  | number (literal : List Char)
  | string (content : List Char)
  | character (content : Char)
  | bytes (content : List Char)
  | word (name : Ron.Identifier)
  | list (items : List Ron)
  | map (entries : List (Ron × Ron))
  | tuple (name : Option Ron.Identifier) (items : List Ron)
  | record (name : Option Ron.Identifier) (fields : List (Ron.Identifier × Ron))

namespace Ron

def Identifier.render (i : Identifier) : List Char := if i.raw then 'r' :: '#' :: i.name else i.name

def line (depth : Nat) : List Char := '\n' :: List.replicate (4 * depth) ' '

def quoted (cs : List Char) : List Char := '"' :: (escape cs ++ ['"'])

def optionalName : Option Identifier → List Char
  | none => []
  | some i => i.render

def separates (separate : Bool) : List Ron → Bool
  | _ :: _ :: _ => separate
  | _ => false

mutual

def render (separate : Bool) (depth : Nat) : Ron → List Char
  | number literal => literal
  | string content => quoted content
  | character content => '\'' :: (escapeChar content ++ ['\''])
  | bytes content => 'b' :: quoted content
  | word name => name.render
  | list [] => ['[', ']']
  | list items => '[' :: (renderLines separate (depth + 1) items ++ line depth ++ [']'])
  | map [] => ['{', '}']
  | map entries => '{' :: (renderEntries separate (depth + 1) entries ++ line depth ++ ['}'])
  | tuple name items =>
    optionalName name ++ '(' :: (if separates separate items then
      renderLines separate (depth + 1) items ++ line depth ++ [')']
    else renderItems separate depth items ++ [')'])
  | record name [] => optionalName name ++ ['(', ')']
  | record name fields =>
    optionalName name ++ '(' :: (renderFields separate (depth + 1) fields ++ line depth ++ [')'])

def renderItems (separate : Bool) (depth : Nat) : List Ron → List Char
  | [] => []
  | [t] => render separate depth t
  | t :: rest => render separate depth t ++ ',' :: ' ' :: renderItems separate depth rest

def renderLines (separate : Bool) (depth : Nat) : List Ron → List Char
  | [] => []
  | t :: rest => line depth ++ render separate depth t ++ ',' :: renderLines separate depth rest

def renderEntries (separate : Bool) (depth : Nat) : List (Ron × Ron) → List Char
  | [] => []
  | (key, t) :: rest =>
    line depth ++ render separate depth key ++ ':' :: ' ' :: render separate depth t ++
      ',' :: renderEntries separate depth rest

def renderFields (separate : Bool) (depth : Nat) : List (Identifier × Ron) → List Char
  | [] => []
  | (name, t) :: rest =>
    line depth ++ name.render ++ ':' :: ' ' :: render separate depth t ++
      ',' :: renderFields separate depth rest

end

end Ron

end PipelineGraph
