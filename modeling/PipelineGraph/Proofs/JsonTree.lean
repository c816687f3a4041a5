import PipelineGraph.Proofs.JsonText

namespace PipelineGraph.Json

open Number Text

/-- A tree whose numbers and strings are written as they should be. -/
inductive Legible : Json → Prop
  | null : Legible .null
  | bool (value : Bool) : Legible (.bool value)
  | number {literal : List Char} (h : Literal literal) : Legible (.number literal)
  | string (cs : List Char) : Legible (.string (escape cs))
  | array {items : List Json} (h : ∀ j ∈ items, Legible j) : Legible (.array items)
  | object {members : List (List Char × Json)} (hkeys : ∀ m ∈ members, ∃ cs, m.1 = escape cs)
      (hvalues : ∀ m ∈ members, Legible m.2) : Legible (.object members)

def joinLines (depth : Nat) : List (List Char) → List Char
  | [] => []
  | text :: rest => line depth ++ text ++ separator rest.isEmpty ++ joinLines depth rest

theorem renderItems_eq (depth : Nat) (items : List Json) :
    renderItems depth items = joinLines depth (items.map (render depth)) := by
  induction items with
  | nil => rfl
  | cons j items ih => simp [renderItems, joinLines, ih]

def renderMember (depth : Nat) (m : List Char × Json) : List Char :=
  quoted m.1 ++ [':', ' '] ++ render depth m.2

theorem renderMembers_eq (depth : Nat) (members : List (List Char × Json)) :
    renderMembers depth members = joinLines depth (members.map (renderMember depth)) := by
  induction members with
  | nil => rfl
  | cons m members ih => simp [renderMembers, joinLines, renderMember, ih]

theorem length_joinLines (depth : Nat) (texts : List (List Char)) :
    texts.length ≤ (joinLines depth texts).length ∧
      ∀ text ∈ texts, text.length < (joinLines depth texts).length := by
  induction texts with
  | nil => exact ⟨Nat.le_refl 0, nofun⟩
  | cons text texts ih =>
    have hlength : (joinLines depth (text :: texts)).length =
        (2 * depth + 1) + text.length + (separator texts.isEmpty).length +
          (joinLines depth texts).length := by
      simp [joinLines, line]
      omega
    refine ⟨?_, fun t ht ↦ ?_⟩
    · rw [List.length_cons]
      omega
    · rcases List.mem_cons.1 ht with rfl | ht
      · omega
      · have hlt := ih.2 t ht
        omega

section Blanks

variable {c : Char} {cs ds rest : List Char} {depth fuel : Nat}

theorem skipBlanks_blank (h : isBlank c = true) (cs : List Char) :
    skipBlanks (c :: cs) = skipBlanks cs := List.dropWhile_cons_of_pos h

theorem skipBlanks_cons (h : isBlank c = false) (cs : List Char) :
    skipBlanks (c :: cs) = c :: cs := List.dropWhile_cons_of_neg (by simp [h])

theorem skipBlanks_line (depth : Nat) (cs : List Char) :
    skipBlanks (line depth ++ cs) = skipBlanks cs := by
  rw [skipBlanks, line, List.cons_append, List.dropWhile_cons_of_pos (by decide),
    List.dropWhile_append_of_pos]
  · rfl
  · intro c hc
    rw [(List.mem_replicate.1 hc).2]
    decide

theorem value_congr (h : skipBlanks cs = skipBlanks ds) (fuel : Nat) :
    value fuel cs = value fuel ds := by
  cases fuel with
  | zero => rfl
  | succ fuel => rw [value, value, h]

theorem member_congr {α : Type} (h : skipBlanks cs = skipBlanks ds) (value : Reader α) :
    member value cs = member value ds := by
  rw [member, member, h]

end Blanks

def Ends (rest : List Char) : Prop := FollowedBy [',', '\n'] rest

theorem ends_line (depth : Nat) (rest : List Char) : Ends (line depth ++ rest) :=
  followedBy_cons (by decide) _

theorem Ends.stops_isNumberPart {rest : List Char} (h : Ends rest) : Stops isNumberPart rest :=
  FollowedBy.stops h (by decide)

section Sequence

variable {α : Type} {item : Reader α} {write : α → List Char} {close : Char} {xs : List α}

def SkipsBlanks (item : Reader α) : Prop :=
  ∀ cs ds, skipBlanks cs = skipBlanks ds → item cs = item ds

theorem sepBy_joinLines (hskip : SkipsBlanks item) (hcomma : close ≠ ',')
    (hclose : isBlank close = false) (hxs : xs ≠ [])
    (hitem : ∀ x ∈ xs, ∀ rest, Ends rest → item (write x ++ rest) = some (x, rest))
    {fuel : Nat} (hfuel : xs.length ≤ fuel) (inner outer : Nat) (rest : List Char) :
    sepBy item close fuel (joinLines inner (xs.map write) ++ (line outer ++ close :: rest)) =
      some (xs, rest) := by
  induction xs generalizing fuel with
  | nil => exact absurd rfl hxs
  | cons x xs ih =>
    obtain ⟨hx, hitem⟩ := List.forall_mem_cons.1 hitem
    obtain ⟨fuel, rfl⟩ := Nat.exists_eq_add_one_of_ne_zero (show fuel ≠ 0 by simp at hfuel; omega)
    have hread : ∀ after, Ends after →
        item (line inner ++ (write x ++ after)) = some (x, after) := by
      intro after hafter
      rw [hskip _ _ (skipBlanks_line _ _), hx after hafter]
    cases xs with
    | nil =>
      have hlast := hread (line outer ++ close :: rest) (ends_line _ _)
      have htext : joinLines inner ([x].map write) ++ (line outer ++ close :: rest) =
          line inner ++ (write x ++ (line outer ++ close :: rest)) := by
        simp [joinLines, separator]
      rw [htext, sepBy, hlast]
      simp only [Option.bind_eq_bind, Option.bind_some, skipBlanks_line, skipBlanks_cons hclose,
        if_neg hcomma, if_true, Option.pure_def]
    | cons y ys =>
      have hfirst := hread (',' :: (joinLines inner ((y :: ys).map write) ++
        (line outer ++ close :: rest))) (followedBy_cons (by decide) _)
      have htext : joinLines inner ((x :: y :: ys).map write) ++ (line outer ++ close :: rest) =
          line inner ++ (write x ++ (',' :: (joinLines inner ((y :: ys).map write) ++
            (line outer ++ close :: rest)))) := by
        simp [joinLines, separator]
      have hcons : isBlank ',' = false := by decide
      rw [htext, sepBy, hfirst]
      simp only [Option.bind_eq_bind, Option.bind_some, skipBlanks_cons hcons, if_true]
      rw [ih (by simp) hitem (by simpa using hfuel)]
      rfl

theorem enclosed_joinLines (hskip : SkipsBlanks item) (hcomma : close ≠ ',')
    (hclose : isBlank close = false) (hxs : xs ≠ [])
    (hhead : ∀ x ∈ xs, ∃ c cs, write x = c :: cs ∧ isBlank c = false ∧ c ≠ close)
    (hitem : ∀ x ∈ xs, ∀ rest, Ends rest → item (write x ++ rest) = some (x, rest))
    {fuel : Nat} (hfuel : xs.length ≤ fuel) (inner outer : Nat) (rest : List Char) :
    enclosed item close fuel (joinLines inner (xs.map write) ++ (line outer ++ close :: rest)) =
      some (xs, rest) := by
  have hread := sepBy_joinLines hskip hcomma hclose hxs hitem hfuel inner outer rest
  obtain ⟨x, xs, rfl⟩ := List.exists_cons_of_ne_nil hxs
  obtain ⟨c, cs, hwrite, hblank, hne⟩ := hhead x List.mem_cons_self
  obtain ⟨after, hafter⟩ : ∃ after, joinLines inner ((x :: xs).map write) ++
      (line outer ++ close :: rest) = line inner ++ c :: after := by
    simp [joinLines, hwrite]
  rw [hafter] at hread ⊢
  have hitems : ∀ fuel, sepBy item close fuel (line inner ++ c :: after) =
      sepBy item close fuel (c :: after) := by
    intro fuel
    cases fuel with
    | zero => rfl
    | succ fuel => rw [sepBy, sepBy, hskip _ _ (skipBlanks_line _ _)]
  rw [enclosed, skipBlanks_line, skipBlanks_cons hblank]
  simp only [if_neg hne]
  rw [← hitems, hread]

end Sequence

theorem value_skipsBlanks (fuel : Nat) : SkipsBlanks (value fuel) := fun _ _ h ↦ value_congr h fuel

theorem member_skipsBlanks {α : Type} (value : Reader α) : SkipsBlanks (member value) :=
  fun _ _ h ↦ member_congr h value

def otherStarts : List Char := [' ', '\n', '\t', '\r', 'n', 't', 'f', '"', '[', '{', ']']

theorem exists_cons_of_literal {literal : List Char} (h : Literal literal) :
    ∃ c cs, literal = c :: cs ∧ c ∉ otherStarts := by
  have hdigit : ∀ c ∈ otherStarts, c.isDigit = false :=
    List.all_iff_forall_prop.1 (by decide)
  cases h with
  | positive h =>
    obtain ⟨d, ds, rfl, hd⟩ := h.exists_cons
    refine ⟨d, ds, rfl, fun hmem ↦ ?_⟩
    rw [hdigit d hmem] at hd
    cases hd
  | negative => exact ⟨'-', _, rfl, by decide⟩

theorem value_number {literal rest : List Char} (h : Literal literal) (hrest : Ends rest)
    (fuel : Nat) : value (fuel + 1) (literal ++ rest) = some (.number literal, rest) := by
  have hscan := scanNumber_append h hrest.stops_isNumberPart
  obtain ⟨c, cs, rfl, hc⟩ := exists_cons_of_literal h
  simp only [otherStarts, List.mem_cons, List.not_mem_nil, or_false, not_or] at hc
  have hblank : isBlank c = false := by simp [isBlank, hc]
  rw [List.cons_append] at hscan ⊢
  simp [value, skipBlanks_cons hblank, hc, hscan]

/-- What is written for a tree begins with no blank and does not close an array. -/
theorem Legible.exists_cons {j : Json} (h : Legible j) (depth : Nat) :
    ∃ c cs, render depth j = c :: cs ∧ isBlank c = false ∧ c ≠ ']' := by
  cases h with
  | null => exact ⟨'n', _, rfl, by decide, by decide⟩
  | bool b => cases b <;> exact ⟨_, _, rfl, by decide, by decide⟩
  | number h =>
    obtain ⟨c, cs, hcs, hc⟩ := exists_cons_of_literal h
    simp only [otherStarts, List.mem_cons, List.not_mem_nil, or_false, not_or] at hc
    exact ⟨c, cs, hcs, by simp [isBlank, hc], by simp [hc]⟩
  | string => exact ⟨'"', _, rfl, by decide, by decide⟩
  | @array items => cases items <;> exact ⟨'[', _, rfl, by decide, by decide⟩
  | @object members => cases members <;> exact ⟨'{', _, rfl, by decide, by decide⟩

theorem member_renderMember {m : List Char × Json} {fuel depth : Nat} {rest : List Char}
    (hkey : ∃ cs, m.1 = escape cs)
    (hvalue : value fuel (render depth m.2 ++ rest) = some (m.2, rest)) :
    member (value fuel) (renderMember depth m ++ rest) = some (m, rest) := by
  obtain ⟨key, j⟩ := m
  obtain ⟨cs, rfl⟩ := hkey
  have htext : renderMember depth (escape cs, j) ++ rest =
      '"' :: (escape cs ++ '"' :: ':' :: ' ' :: (render depth j ++ rest)) := by
    simp [renderMember, quoted]
  have hblank : value fuel (' ' :: (render depth j ++ rest)) = some (j, rest) := by
    rw [value_congr (skipBlanks_blank (by decide) _), hvalue]
  rw [htext, member, skipBlanks_cons (by decide)]
  simp only [scanString_escape, Option.bind_eq_bind, Option.bind_some,
    skipBlanks_cons (show isBlank ':' = false by decide), hblank, Option.pure_def]

/-- What is written for a tree is read as that tree, whatever comes after it. -/
theorem value_render {j : Json} (hj : Legible j) {depth fuel : Nat} {rest : List Char}
    (hfuel : (render depth j).length < fuel) (hrest : Ends rest) :
    value fuel (render depth j ++ rest) = some (j, rest) := by
  induction hj generalizing depth fuel rest with
  | null =>
    obtain ⟨fuel, rfl⟩ := Nat.exists_eq_add_one_of_ne_zero (show fuel ≠ 0 by omega)
    rfl
  | bool b =>
    obtain ⟨fuel, rfl⟩ := Nat.exists_eq_add_one_of_ne_zero (show fuel ≠ 0 by omega)
    cases b <;> rfl
  | number h =>
    obtain ⟨fuel, rfl⟩ := Nat.exists_eq_add_one_of_ne_zero (show fuel ≠ 0 by omega)
    exact value_number h hrest fuel
  | string cs =>
    obtain ⟨fuel, rfl⟩ := Nat.exists_eq_add_one_of_ne_zero (show fuel ≠ 0 by omega)
    have htext : render depth (.string (escape cs)) ++ rest =
        '"' :: (escape cs ++ '"' :: rest) := by
      simp [render, quoted]
    rw [htext, value, skipBlanks_cons (by decide)]
    simp only [scanString_escape, Option.map_some]
  | @array items h ih =>
    obtain ⟨fuel, rfl⟩ := Nat.exists_eq_add_one_of_ne_zero (show fuel ≠ 0 by omega)
    by_cases hempty : items = []
    · subst hempty
      rfl
    · have htext : render depth (.array items) =
          '[' :: (joinLines (depth + 1) (items.map (render (depth + 1))) ++
            (line depth ++ [']'])) := by
        cases items with
        | nil => exact absurd rfl hempty
        | cons j items => simp [render, renderItems_eq]
      have hlength := length_joinLines (depth + 1) (items.map (render (depth + 1)))
      rw [htext] at hfuel ⊢
      simp only [List.length_cons, List.length_append, List.length_map] at hfuel hlength
      have hitem : ∀ j ∈ items, ∀ rest, Ends rest →
          value fuel (render (depth + 1) j ++ rest) = some (j, rest) := by
        intro j hmem rest hrest
        have hlt := hlength.2 _ (List.mem_map_of_mem hmem)
        exact ih j hmem (by omega) hrest
      have hcount : items.length ≤ fuel := by omega
      have hread := enclosed_joinLines (value_skipsBlanks fuel) (by decide) (by decide) hempty
        (fun j hmem ↦ (h j hmem).exists_cons _) hitem hcount (depth + 1) depth rest
      rw [List.cons_append, List.append_assoc, List.append_assoc, List.singleton_append, value,
        skipBlanks_cons (by decide)]
      simp only [hread, Option.map_some]
  | @object members hkeys hvalues ih =>
    obtain ⟨fuel, rfl⟩ := Nat.exists_eq_add_one_of_ne_zero (show fuel ≠ 0 by omega)
    by_cases hempty : members = []
    · subst hempty
      rfl
    · have htext : render depth (.object members) =
          '{' :: (joinLines (depth + 1) (members.map (renderMember (depth + 1))) ++
            (line depth ++ ['}'])) := by
        cases members with
        | nil => exact absurd rfl hempty
        | cons m members => simp [render, renderMembers_eq]
      have hlength := length_joinLines (depth + 1) (members.map (renderMember (depth + 1)))
      rw [htext] at hfuel ⊢
      simp only [List.length_cons, List.length_append, List.length_map] at hfuel hlength
      have hitem : ∀ m ∈ members, ∀ rest, Ends rest →
          member (value fuel) (renderMember (depth + 1) m ++ rest) = some (m, rest) := by
        intro m hmem rest hrest
        have hlt := hlength.2 _ (List.mem_map_of_mem hmem)
        rw [renderMember, List.length_append] at hlt
        exact member_renderMember (hkeys m hmem) (ih m hmem (by omega) hrest)
      have hhead : ∀ m ∈ members, ∃ c cs, renderMember (depth + 1) m = c :: cs ∧
          isBlank c = false ∧ c ≠ '}' := fun m _ ↦ ⟨'"', _, rfl, by decide, by decide⟩
      have hcount : members.length ≤ fuel := by omega
      have hread := enclosed_joinLines (member_skipsBlanks _) (by decide) (by decide) hempty
        hhead hitem hcount (depth + 1) depth rest
      rw [List.cons_append, List.append_assoc, List.append_assoc, List.singleton_append, value,
        skipBlanks_cons (by decide)]
      simp only [hread, Option.map_some]

theorem parse?_toString {j : Json} (hj : Legible j) : parse? j.toString = some j := by
  have hread := value_render hj (Nat.lt_succ_self (render 0 j).length) (followedBy_nil _)
  rw [List.append_nil] at hread
  rw [parse?, toString, String.toList_ofList, parseChars?, hread]
  rfl

end PipelineGraph.Json
