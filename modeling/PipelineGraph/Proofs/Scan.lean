import Mathlib.Data.Bool.AllAny
import PipelineGraph.Text.Reader

namespace PipelineGraph.Text

variable {p q : Char → Bool} {ds rest : List Char} {c : Char}

def Digits (cs : List Char) : Prop := cs ≠ [] ∧ ∀ c ∈ cs, c.isDigit = true

theorem Digits.append (hc : Digits ds) (hd : ∀ d ∈ rest, d.isDigit = true) :
    Digits (ds ++ rest) :=
  ⟨List.append_ne_nil_of_left_ne_nil hc.1 rest, List.forall_mem_append.2 ⟨hc.2, hd⟩⟩

theorem Digits.notMem (h : Digits ds) (hc : c.isDigit = false) : c ∉ ds := fun hmem ↦ by
  rw [h.2 c hmem] at hc
  cases hc

/-- The text does not go on with a character of the class. -/
def Stops (p : Char → Bool) (cs : List Char) : Prop := ∀ c ∈ cs.head?, p c = false

theorem stops_cons (h : p c = false) : Stops p (c :: rest) := by
  intro d hd
  rw [List.head?_cons, Option.mem_some] at hd
  rwa [← hd]

theorem Stops.mono (h : Stops p rest) (hpq : ∀ c, q c = true → p c = true) : Stops q rest := by
  intro c hc
  have hp := h c hc
  cases hq : q c with
  | false => rfl
  | true => rw [hpq c hq] at hp; cases hp

theorem Stops.takeWhile_eq_nil (h : Stops p rest) : rest.takeWhile p = [] := by
  cases rest with
  | nil => rfl
  | cons c rest => rw [List.takeWhile_cons_of_neg (by simp [h c rfl])]

theorem Stops.dropWhile_eq_self (h : Stops p rest) : rest.dropWhile p = rest := by
  cases rest with
  | nil => rfl
  | cons c rest => rw [List.dropWhile_cons_of_neg (by simp [h c rfl])]

theorem Stops.takeWhile_append (h : Stops p rest) (hd : ∀ c ∈ ds, p c = true) :
    (ds ++ rest).takeWhile p = ds := by
  rw [List.takeWhile_append_of_pos hd, h.takeWhile_eq_nil, List.append_nil]

theorem Stops.dropWhile_append (h : Stops p rest) (hd : ∀ c ∈ ds, p c = true) :
    (ds ++ rest).dropWhile p = rest := by
  rw [List.dropWhile_append_of_pos hd, h.dropWhile_eq_self]

def FollowedBy (marks cs : List Char) : Prop := ∀ c ∈ cs.head?, c ∈ marks

theorem followedBy_nil (marks : List Char) : FollowedBy marks [] := fun _ hc ↦ nomatch hc

theorem followedBy_cons {marks : List Char} (h : c ∈ marks) (cs : List Char) :
    FollowedBy marks (c :: cs) := by
  intro d hd
  rw [List.head?_cons, Option.mem_some] at hd
  rwa [← hd]

theorem FollowedBy.mono {marks marks' : List Char} (h : FollowedBy marks rest)
    (hsub : marks ⊆ marks') : FollowedBy marks' rest := fun c hc ↦ hsub (h c hc)

theorem FollowedBy.stops {marks : List Char} (h : FollowedBy marks rest)
    (hp : marks.all fun c ↦ p c = false) : Stops p rest :=
  fun c hc ↦ List.all_iff_forall_prop.1 hp c (h c hc)

end PipelineGraph.Text
