namespace PipelineGraph

structure Record (τ : Type) where
  fields : List (String × τ)

namespace Record

variable {τ α : Type}

/-- Keeps the fields with the given names. None of them may be repeated. -/
def ofFields? (names : List String) (fields : List (String × τ)) : Option (Record τ) :=
  let known := fields.filter fun f ↦ f.1 ∈ names
  if (known.map Prod.fst).Nodup then some ⟨known⟩ else none

/-- Gives the items the names in their order. There may be fewer items than names. -/
def ofItems? (names : List String) (items : List τ) : Option (Record τ) :=
  if items.length ≤ names.length then some ⟨names.zip items⟩ else none

def get? (r : Record τ) (name : String) (decode : τ → Option α) : Option α := do
  decode (← r.fields.lookup name)

def getOr? (r : Record τ) (name : String) (decode : τ → Option α) (default : α) : Option α :=
  match r.fields.lookup name with
  | some t => decode t
  | none => some default

end Record

end PipelineGraph
