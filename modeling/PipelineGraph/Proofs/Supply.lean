import PipelineGraph.Identity

namespace PipelineGraph.IdSupply

/-- All identifiers handed out so far. -/
def issued (s : IdSupply) : List Uuid := (List.range s.drawn).map s.stream

/-- The supply hands out these identifiers, in this order, on the way to a later state. -/
inductive Draws : IdSupply → List Uuid → IdSupply → Prop
  | nil (s : IdSupply) : Draws s [] s
  | cons {s t : IdSupply} {us : List Uuid} :
      Draws s.draw.2 us t → Draws s (s.draw.1 :: us) t

variable {s t u : IdSupply} {us vs : List Uuid}

theorem Fresh.mono {used used' : List Uuid} (h : s.Fresh t used) (hsub : used' ⊆ used) :
    s.Fresh t used' :=
  ⟨h.1, fun u hu hused ↦ h.2 u hu (hsub hused)⟩

theorem Draws.trans (h : s.Draws us t) (h' : t.Draws vs u) : s.Draws (us ++ vs) u := by
  induction h with
  | nil => exact h'
  | cons _ ih => exact .cons (ih h')

theorem Draws.issued_eq (h : s.Draws us t) : t.issued = s.issued ++ us := by
  induction h with
  | nil => rw [List.append_nil]
  | @cons s t us _ ih =>
    have hdraw : s.draw.2.issued = s.issued ++ [s.draw.1] := by
      change (List.range (s.drawn + 1)).map s.stream = _
      rw [List.range_succ, List.map_append]
      rfl
    rw [ih, hdraw, List.append_assoc, List.singleton_append]

theorem Draws.drawn_eq (h : s.Draws us t) : t.drawn = s.drawn + us.length := by
  induction h with
  | nil => rfl
  | cons _ ih =>
    rw [ih, List.length_cons]
    change _ + 1 + _ = _
    omega

theorem Draws.drawnUntil_eq (h : s.Draws us t) : s.drawnUntil t = us := by
  rw [drawnUntil, h.drawn_eq, Nat.add_sub_cancel_left]
  induction h with
  | nil => rfl
  | cons _ ih =>
    rw [List.length_cons, List.range'_succ, List.map_cons]
    exact congrArg (_ :: ·) ih

theorem Draws.fresh_iff (h : s.Draws us t) (used : List Uuid) :
    s.Fresh t used ↔ us.Nodup ∧ ∀ u ∈ us, u ∉ used := by
  rw [Fresh, h.drawnUntil_eq]

end PipelineGraph.IdSupply
