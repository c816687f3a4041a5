namespace PipelineGraph.Text

def splitSlashes (cs : List Char) : List (List Char) :=
  cs.foldr (fun c pieces ↦
    match c, pieces with
    | '/', pieces => [] :: pieces
    | c, [] => [[c]]
    | c, p :: rest => (c :: p) :: rest) [[]]

/-- The parts of a path, without empty ones and those that are a single dot. -/
def pathParts (path : List Char) : List (List Char) :=
  (splitSlashes path).filter fun p ↦ p ≠ [] ∧ p ≠ ['.']

/-- What follows the last dot of a file name, unless the dot comes first. -/
def extension? (name : List Char) : Option (List Char) :=
  if name = ['.', '.'] then none
  else
    let suffix := (name.reverse.takeWhile (· ≠ '.')).reverse
    if suffix.length + 1 < name.length then some suffix else none

def folderOf (path : List Char) : List Char :=
  let root := if path.head? = some '/' then ['/'] else []
  match (pathParts path).dropLast with
  | [] => root ++ ['.']
  | parts => root ++ List.intercalate ['/'] parts

end PipelineGraph.Text
