namespace PipelineGraph

/-- A JSON text as a tree. Numbers and strings, also those that are keys, keep the characters they
are written with; for a string these stand between the quotes. -/
inductive Json where
  | null
  | bool (value : Bool)
  | number (literal : List Char)
  | string (literal : List Char)
  | array (items : List Json)
  | object (members : List (List Char × Json))

namespace Json

def line (depth : Nat) : List Char := '\n' :: List.replicate (2 * depth) ' '

def quoted (literal : List Char) : List Char := '"' :: (literal ++ ['"'])

def separator (last : Bool) : List Char := if last then [] else [',']

mutual

def render (depth : Nat) : Json → List Char
  | null => ['n', 'u', 'l', 'l']
  | bool true => ['t', 'r', 'u', 'e']
  | bool false => ['f', 'a', 'l', 's', 'e']
  | number literal => literal
  | string literal => quoted literal
  | array [] => ['[', ']']
  | array items => '[' :: (renderItems (depth + 1) items ++ line depth ++ [']'])
  | object [] => ['{', '}']
  | object members => '{' :: (renderMembers (depth + 1) members ++ line depth ++ ['}'])

def renderItems (depth : Nat) : List Json → List Char
  | [] => []
  | j :: rest => line depth ++ render depth j ++ separator rest.isEmpty ++ renderItems depth rest

def renderMembers (depth : Nat) : List (List Char × Json) → List Char
  | [] => []
  | (key, j) :: rest =>
    line depth ++ quoted key ++ [':', ' '] ++ render depth j ++ separator rest.isEmpty ++
      renderMembers depth rest

end

def toString (j : Json) : String := String.ofList (j.render 0)

end Json

end PipelineGraph
