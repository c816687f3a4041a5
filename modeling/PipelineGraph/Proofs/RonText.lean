import PipelineGraph.Proofs.NumberText
import PipelineGraph.Proofs.Scan
import PipelineGraph.Proofs.Uuid
import PipelineGraph.Ron.Basic
import PipelineGraph.Ron.Parser

namespace PipelineGraph.Ron

open Number Text

variable {c : Char} {cs rest : List Char}

section Strings

theorem escapeChar_cases (c : Char) :
    (∃ e, e ≠ 'x' ∧ e ≠ 'u' ∧ shortEscape? e = some c ∧ escapeChar c = ['\\', e]) ∨
      escapeChar c = numberedEscape c ∨ (c ≠ '"' ∧ c ≠ '\\' ∧ escapeChar c = [c]) := by
  unfold escapeChar
  split
  · exact .inl ⟨'0', by decide, by decide, rfl, rfl⟩
  · exact .inl ⟨'t', by decide, by decide, rfl, rfl⟩
  · exact .inl ⟨'n', by decide, by decide, rfl, rfl⟩
  · exact .inl ⟨'r', by decide, by decide, rfl, rfl⟩
  · exact .inl ⟨'"', by decide, by decide, rfl, rfl⟩
  · exact .inl ⟨'\'', by decide, by decide, rfl, rfl⟩
  · exact .inl ⟨'\\', by decide, by decide, rfl, rfl⟩
  · rename_i hquote _ hbackslash
    split
    · exact .inr (.inr ⟨hquote, hbackslash, rfl⟩)
    · exact .inr (.inl rfl)

theorem numberedChar?_toDigits (c : Char) : numberedChar? (Nat.toDigits 16 c.toNat) = some c := by
  have hvalid : c.toNat.isValidChar := c.valid
  have hbound : c.toNat < 0x110000 := by
    rcases hvalid with h | h
    · omega
    · exact h.2
  have hlength : (Nat.toDigits 16 c.toNat).length ≤ 6 := by
    rw [Nat.length_toDigits_le_iff (by decide) (by decide)]
    omega
  have hcond : ¬ ((Nat.toDigits 16 c.toNat).isEmpty = true ∨
      6 < (Nat.toDigits 16 c.toNat).length) := by
    rw [not_or, List.isEmpty_iff]
    exact ⟨Nat.toDigits_ne_nil, by omega⟩
  rw [numberedChar?, if_neg hcond, hexNumber?_toDigits]
  simp [hvalid]

theorem scanEscape_short {e : Char} (hx : e ≠ 'x') (hu : e ≠ 'u') (h : shortEscape? e = some c)
    (rest : List Char) : scanEscape (e :: rest) = some (c, rest) := by
  simp [scanEscape, hx, hu, h]

theorem scanEscape_numbered (c : Char) (rest : List Char) :
    scanEscape ('u' :: '{' :: (Nat.toDigits 16 c.toNat ++ '}' :: rest)) = some (c, rest) := by
  have hdigits : ∀ d ∈ Nat.toDigits 16 c.toNat, decide (d ≠ '}') = true := by
    intro d hd
    refine decide_eq_true ?_
    rintro rfl
    exact absurd (hexValue?_of_mem_toDigits hd) (by decide)
  have hstop : Stops (fun d ↦ decide (d ≠ '}')) ('}' :: rest) := stops_cons (by decide)
  have hdrop := hstop.dropWhile_append hdigits
  have htake := hstop.takeWhile_append hdigits
  rw [scanEscape]
  simp only [hdrop, htake, numberedChar?_toDigits, Option.map_some]

theorem scanQuoted_escapeChar (c : Char) (fuel : Nat) (cs : List Char) :
    scanQuoted scanEscape (fuel + 1) (escapeChar c ++ cs) =
      (scanQuoted scanEscape fuel cs).bind fun r ↦ some (c :: r.1, r.2) := by
  obtain ⟨e, hx, hu, hshort, hc⟩ | hc | ⟨hquote, hbackslash, hc⟩ := escapeChar_cases c
  · simp [hc, scanQuoted, scanEscape_short hx hu hshort]
  · simp [hc, numberedEscape, scanQuoted, scanEscape_numbered]
  · rw [hc, List.singleton_append, scanQuoted]
    · rfl
    · exact hquote
    · exact fun h ↦ hbackslash h

/-- A written string is read up to its closing quote. -/
theorem scanQuoted_escape {fuel : Nat} (hfuel : cs.length < fuel) (rest : List Char) :
    scanQuoted scanEscape fuel (escape cs ++ '"' :: rest) = some (cs, rest) := by
  induction cs generalizing fuel with
  | nil =>
    obtain ⟨fuel, rfl⟩ := Nat.exists_eq_add_one_of_ne_zero (show fuel ≠ 0 by omega)
    rfl
  | cons c cs ih =>
    obtain ⟨fuel, rfl⟩ := Nat.exists_eq_add_one_of_ne_zero (show fuel ≠ 0 by omega)
    have hrest := ih (Nat.lt_of_succ_lt_succ hfuel)
    rw [escape] at hrest
    rw [escape, List.flatMap_cons, List.append_assoc, scanQuoted_escapeChar, hrest,
      Option.bind_some]

end Strings

section Blanks

theorem skipBlanks_nil : skipBlanks [] = some [] := rfl

theorem skipFrom_cons (hc : c ≠ '/') (cs : List Char) :
    skipFrom .outside (c :: cs) =
      if isBlank c then skipFrom .outside cs else some (c :: cs) := by
  rw [skipFrom]
  · exact fun _ h ↦ (hc h).elim
  · exact fun _ h ↦ (hc h).elim

theorem skipBlanks_blank (h : isBlank c = true) (hc : c ≠ '/') (cs : List Char) :
    skipBlanks (c :: cs) = skipBlanks cs := by
  rw [skipBlanks, skipFrom_cons hc, if_pos h, skipBlanks]

theorem skipBlanks_cons (h : isBlank c = false) (hc : c ≠ '/') (cs : List Char) :
    skipBlanks (c :: cs) = some (c :: cs) := by
  rw [skipBlanks, skipFrom_cons hc, if_neg (by simp [h])]

/-- The rest of a comment between marks, in which others may be nested. -/
inductive CommentBody : List Char → Prop
  | close : CommentBody ['*', '/']
  | nested {inner cs : List Char} (hinner : CommentBody inner) (h : CommentBody cs) :
      CommentBody ('/' :: '*' :: (inner ++ cs))
  | char {c : Char} {cs : List Char} (hopen : ¬ ['/', '*'] <+: c :: cs)
      (hclose : ¬ ['*', '/'] <+: c :: cs) (h : CommentBody cs) : CommentBody (c :: cs)

/-- Blanks and comments, as they may stand between any two tokens. -/
inductive Gap : List Char → Prop
  | nil : Gap []
  | blank {c : Char} {cs : List Char} (hc : isBlank c = true) (h : Gap cs) : Gap (c :: cs)
  | line {comment cs : List Char} (hcomment : '\n' ∉ comment) (h : Gap cs) :
      Gap ('/' :: '/' :: (comment ++ '\n' :: cs))
  | block {comment cs : List Char} (hcomment : CommentBody comment) (h : Gap cs) :
      Gap ('/' :: '*' :: (comment ++ cs))

theorem gap_line (depth : Nat) : Gap (line depth) := by
  refine .blank (by decide) ?_
  induction 4 * depth with
  | zero => exact .nil
  | succ n ih => exact .blank (by decide) ih

theorem skipFrom_line (h : '\n' ∉ cs) (rest : List Char) :
    skipFrom .line (cs ++ '\n' :: rest) = skipFrom .outside rest := by
  induction cs with
  | nil => rfl
  | cons c cs ih =>
    simp only [List.mem_cons, not_or] at h
    rw [List.cons_append, skipFrom, if_neg (Ne.symm h.1), ih h.2]

theorem CommentBody.skipFrom (h : CommentBody cs) (depth : Nat) (rest : List Char) :
    Ron.skipFrom (.block depth) (cs ++ rest) =
      Ron.skipFrom (if depth = 0 then .outside else .block (depth - 1)) rest := by
  induction h generalizing depth rest with
  | close => cases depth <;> rfl
  | nested _ _ ihinner ih =>
    rw [List.cons_append, List.cons_append, List.append_assoc, Ron.skipFrom, ihinner]
    exact ih depth rest
  | @char c cs hopen hclose h ih =>
    have hne : cs ≠ [] := by
      rintro rfl
      cases h
    have hmarks : ∀ a b : Char, ¬ [a, b] <+: c :: cs → c = a → ∀ tail, cs ++ rest ≠ b :: tail := by
      rintro a b hpair rfl tail htail
      obtain ⟨d, ds, rfl⟩ := List.exists_cons_of_ne_nil hne
      obtain ⟨rfl, -⟩ := List.cons.inj htail
      exact hpair (List.prefix_append _ ds)
    rw [List.cons_append, Ron.skipFrom, ih]
    · exact fun tail hc ↦ hmarks _ _ hopen hc tail
    · exact fun tail _ hc ↦ hmarks _ _ hclose hc tail
    · exact fun _ tail _ hc ↦ hmarks _ _ hclose hc tail

theorem Gap.skipBlanks {gap : List Char} (h : Gap gap) (rest : List Char) :
    Ron.skipBlanks (gap ++ rest) = Ron.skipBlanks rest := by
  induction h with
  | nil => rfl
  | @blank c cs hc _ ih =>
    have hslash : c ≠ '/' := by
      rintro rfl
      exact absurd hc (by decide)
    rw [List.cons_append, skipBlanks_blank hc hslash, ih]
  | line hcomment _ ih =>
    rw [← ih, Ron.skipBlanks, List.cons_append, List.cons_append, List.append_assoc, skipFrom]
    exact skipFrom_line hcomment _
  | block hcomment _ ih =>
    rw [← ih, Ron.skipBlanks, List.cons_append, List.cons_append, List.append_assoc, skipFrom]
    exact hcomment.skipFrom 0 _

theorem Gap.append {gap gap' : List Char} (h : Gap gap) (h' : Gap gap') : Gap (gap ++ gap') := by
  induction h with
  | nil => exact h'
  | blank hc _ ih => exact .blank hc ih
  | line hcomment _ ih =>
    rw [List.cons_append, List.cons_append, List.append_assoc]
    exact .line hcomment ih
  | block hcomment _ ih =>
    rw [List.cons_append, List.cons_append, List.append_assoc]
    exact .block hcomment ih

theorem Gap.expect {gap : List Char} (h : Gap gap) (c : Char) (rest : List Char) :
    Ron.expect c (gap ++ rest) = Ron.expect c rest := by
  rw [Ron.expect, Ron.expect, h.skipBlanks]

theorem expect_self (h : isBlank c = false) (hc : c ≠ '/') (cs : List Char) :
    expect c (c :: cs) = some cs := by
  simp [expect, skipBlanks_cons h hc]

theorem expect_of_ne {d : Char} (h : isBlank c = false) (hc : c ≠ '/') (hd : c ≠ d)
    (cs : List Char) : expect d (c :: cs) = none := by
  simp [expect, skipBlanks_cons h hc, hd]

end Blanks

section Words

def marks : List Char :=
  [' ', '\n', '\t', '\r', '\x0b', '\x0c', '\u0085', '\u200e', '\u200f', '\u2028', '\u2029',
    '/', '#', '"', '\'', '(', ')', '[', ']', '{', '}', ',', ':']

theorem notMem_marks_of_isIdentifierStart (h : isIdentifierStart c = true) : c ∉ marks := by
  have hmarks : ∀ d ∈ marks, isIdentifierStart d = false :=
    List.all_iff_forall_prop.1 (by decide +kernel)
  intro hc
  rw [hmarks c hc] at h
  cases h

theorem notMem_marks_of_isNumberStart (h : isNumberStart c = true) : c ∉ marks := by
  have hmarks : ∀ d ∈ marks, isNumberStart d = false := List.all_iff_forall_prop.1 (by decide)
  intro hc
  rw [hmarks c hc] at h
  cases h

theorem toNat_lt_of_isNumberStart (h : isNumberStart c = true) : c.toNat < 64 := by
  simp only [isNumberStart, Bool.or_eq_true, decide_eq_true_eq] at h
  obtain ((h | rfl) | rfl) | rfl := h
  · have hdigit : 48 ≤ c.val.toNat ∧ c.val.toNat ≤ 57 := by
      simpa [Char.isDigit, UInt32.le_iff_toNat_le] using h
    rw [Char.toNat]
    omega
  · decide
  · decide
  · decide

theorem isNumberStart_eq_false (h : isIdentifierStart c = true) : isNumberStart c = false := by
  have hlow : ∀ n < 64, isIdentifierStart (Char.ofNat n) = false := by decide
  cases hc : isNumberStart c with
  | false => rfl
  | true =>
    have hidentifier := hlow c.toNat (toNat_lt_of_isNumberStart hc)
    rw [Char.ofNat_toNat, h] at hidentifier
    cases hidentifier

def Identifier.isLegible (i : Identifier) : Bool :=
  if i.raw then !i.name.isEmpty && i.name.all isRawPart
  else (i.name.head?.map isIdentifierStart).getD false && i.name.all isIdentifierPart

def followers : List Char := [',', ':', ')', ']', '}']

def blanks : List Char :=
  [' ', '\n', '\t', '\r', '\x0b', '\x0c', '\u0085', '\u200e', '\u200f', '\u2028', '\u2029']

def Closes (rest : List Char) : Prop := FollowedBy ('(' :: '/' :: (blanks ++ followers)) rest

theorem Gap.closes {gap : List Char} (h : Gap gap) (hrest : Closes rest) :
    Closes (gap ++ rest) := by
  cases h with
  | nil => exact hrest
  | @blank c cs hc =>
    have hmem : c ∈ blanks := by simpa [isBlank, blanks, or_assoc] using hc
    exact followedBy_cons (by simp [hmem]) _
  | line | block => exact followedBy_cons (by decide) _

theorem startsLiteral_eq_false (h : Closes (cs.dropWhile isIdentifierPart)) :
    startsLiteral cs = false := by
  unfold startsLiteral
  split
  case h_8 => rfl
  all_goals exact absurd (h _ rfl) (by decide)

theorem scanIdentifier_plain (hstart : isIdentifierStart c = true)
    (hparts : ∀ d ∈ c :: cs, isIdentifierPart d = true) (hrest : Closes rest) :
    startsLiteral (c :: cs ++ rest) = false ∧
      scanIdentifier (c :: cs ++ rest) = some (⟨c :: cs, false⟩, rest) := by
  have hstop : Stops isIdentifierPart rest := FollowedBy.stops hrest (by decide +kernel)
  have htake := hstop.takeWhile_append hparts
  have hdrop := hstop.dropWhile_append hparts
  have hliteral : startsLiteral (c :: cs ++ rest) = false :=
    startsLiteral_eq_false (by rwa [hdrop])
  have hraw : Stops isRawPart rest := FollowedBy.stops hrest (by decide +kernel)
  have hend : (rest.head?.map isRawPart).getD false = false := by
    cases rest with
    | nil => rfl
    | cons d rest => exact hraw d rfl
  refine ⟨hliteral, ?_⟩
  unfold scanIdentifier
  rw [hliteral, if_neg Bool.false_ne_true]
  split
  · rename_i heq
    rw [heq] at hdrop
    exact absurd (hrest '#' (by rw [← hdrop]; rfl)) (by decide)
  · rename_i d ds _ heq
    obtain ⟨rfl, -⟩ := List.cons.inj heq
    rw [if_pos hstart]
    simp only [hdrop, htake, hend, Bool.false_eq_true, if_false]
  · rename_i heq
    cases heq

theorem scanIdentifier_raw (hparts : ∀ d ∈ c :: cs, isRawPart d = true) (hrest : Closes rest) :
    startsLiteral ('r' :: '#' :: (c :: cs ++ rest)) = false ∧
      scanIdentifier ('r' :: '#' :: (c :: cs ++ rest)) = some (⟨c :: cs, true⟩, rest) := by
  have hstop : Stops isRawPart rest := FollowedBy.stops hrest (by decide +kernel)
  have htake := hstop.takeWhile_append hparts
  have hdrop := hstop.dropWhile_append hparts
  have hliteral : startsLiteral ('r' :: '#' :: (c :: cs ++ rest)) = false := by
    have hpart := hparts c List.mem_cons_self
    have hquote : c ≠ '"' := by
      rintro rfl
      exact absurd hpart (by decide)
    have hhash : c ≠ '#' := by
      rintro rfl
      exact absurd hpart (by decide)
    simp [startsLiteral, hquote, hhash]
  refine ⟨hliteral, ?_⟩
  unfold scanIdentifier
  rw [hliteral, if_neg Bool.false_ne_true]
  simp only [htake, hdrop]

theorem scanIdentifier_render {i : Identifier} (h : i.isLegible = true) (hrest : Closes rest) :
    startsLiteral (i.render ++ rest) = false ∧
      scanIdentifier (i.render ++ rest) = some (i, rest) := by
  obtain ⟨name, raw⟩ := i
  cases name with
  | nil => cases raw <;> cases h
  | cons c cs =>
    cases raw with
    | false =>
      have h := Bool.and_eq_true_iff.1 h
      exact scanIdentifier_plain h.1 (List.all_eq_true.1 h.2) hrest
    | true =>
      exact scanIdentifier_raw (List.all_eq_true.1 h) hrest

theorem Identifier.exists_cons {i : Identifier} (h : i.isLegible = true) :
    ∃ c cs, i.render = c :: cs ∧ isIdentifierStart c = true := by
  obtain ⟨name, raw⟩ := i
  cases name with
  | nil => cases raw <;> cases h
  | cons c cs =>
    cases raw with
    | false => exact ⟨c, cs, rfl, (Bool.and_eq_true_iff.1 h).1⟩
    | true => exact ⟨'r', '#' :: c :: cs, rfl, by decide⟩

end Words

section Atoms

theorem length_le_escape (content : List Char) : content.length ≤ (escape content).length := by
  induction content with
  | nil => exact Nat.le_refl 0
  | cons c cs ih =>
    have hc : 0 < (escapeChar c).length := by
      obtain ⟨e, -, -, -, hc⟩ | hc | ⟨-, -, hc⟩ := escapeChar_cases c <;> rw [hc] <;>
        exact Nat.succ_pos _
    rw [escape] at ih
    rw [escape, List.flatMap_cons, List.length_append, List.length_cons]
    omega

theorem scanAtom_string (content rest : List Char) :
    scanAtom (quoted content ++ rest) = some (string content, rest) := by
  have htext : quoted content ++ rest = '"' :: (escape content ++ '"' :: rest) := by
    simp [quoted]
  have hfuel : content.length < (escape content ++ '"' :: rest).length + 1 := by
    have hlength := length_le_escape content
    rw [List.length_append]
    omega
  rw [htext]
  simp only [scanAtom, scanQuoted_escape hfuel, Option.map_some]

theorem scanAtom_word {i : Identifier} (h : i.isLegible = true) (hrest : Closes rest) :
    scanAtom (i.render ++ rest) = some (word i, rest) := by
  obtain ⟨hliteral, hscan⟩ := scanIdentifier_render h hrest
  obtain ⟨c, cs, hcs, hstart⟩ := Identifier.exists_cons h
  have hmarks := notMem_marks_of_isIdentifierStart hstart
  have hnumber := isNumberStart_eq_false hstart
  rw [hcs, List.cons_append] at hliteral hscan ⊢
  generalize cs ++ rest = tail at hliteral hscan ⊢
  unfold scanAtom
  split
  · rename_i heq
    cases heq
    exact absurd (by decide) hmarks
  · rename_i heq
    cases heq
    exact absurd (by decide) hmarks
  · rename_i heq
    cases heq
    cases hliteral
  · rename_i heq
    cases heq
    cases hliteral
  · rw [hliteral, if_neg Bool.false_ne_true, hscan, Option.map_some]
  · rw [hliteral, if_neg Bool.false_ne_true, hscan, Option.map_some]
  · rename_i heq
    cases heq
    rw [hnumber, if_neg Bool.false_ne_true, hscan, Option.map_some]
  · rename_i heq
    cases heq

def isLegibleNumber (literal : List Char) : Bool :=
  (literal.head?.map isNumberStart).getD false && literal.all isNumberPart && isNumber literal

theorem scanAtom_number {literal : List Char} (h : isLegibleNumber literal = true)
    (hrest : Closes rest) : scanAtom (literal ++ rest) = some (number literal, rest) := by
  simp only [isLegibleNumber, Bool.and_eq_true, List.all_eq_true] at h
  obtain ⟨⟨hstart, hparts⟩, hnumber⟩ := h
  have hstop : Stops isNumberPart rest := FollowedBy.stops hrest (by decide)
  have htake := hstop.takeWhile_append hparts
  have hdrop := hstop.dropWhile_append hparts
  cases literal with
  | nil => cases hstart
  | cons c cs =>
    have hstart : isNumberStart c = true := hstart
    have hmarks : c ∉ ['"', '\'', 'b', 'r'] := by
      intro hc
      have hstarts : ∀ d ∈ ['"', '\'', 'b', 'r'], isNumberStart d = false :=
        List.all_iff_forall_prop.1 (by decide)
      rw [hstarts c hc] at hstart
      cases hstart
    rw [List.cons_append] at htake hdrop ⊢
    generalize cs ++ rest = tail at htake hdrop ⊢
    simp only [List.mem_cons, List.not_mem_nil, or_false, not_or] at hmarks
    simp [scanAtom, hmarks, hstart, htake, hdrop, hnumber]

theorem isLegibleNumber_of_literal (h : Literal cs) (hnumber : isNumber cs = true) :
    isLegibleNumber cs = true := by
  have hparts : ∀ c ∈ cs, isNumberPart c = true := by
    refine h.forall_mem (fun c hc ↦ ?_) (List.all_eq_true.1 (by decide))
    simp [isNumberPart, Char.isAlphanum, hc]
  rw [isLegibleNumber, hnumber, Bool.and_true, Bool.and_eq_true_iff, List.all_eq_true]
  refine ⟨?_, hparts⟩
  cases h with
  | positive h =>
    obtain ⟨d, ds, rfl, hd⟩ := h.exists_cons
    simp [isNumberStart, hd]
  | negative h => rfl

theorem notFinite?_eq_none (h : ∀ c ∈ cs, c ∉ ['n', 'N']) : notFinite? cs = none := by
  unfold notFinite?
  split <;> simp at h ⊢

theorem dropUnderscores?_eq_some (h : '_' ∉ cs) (afterDigit : Bool) :
    dropUnderscores? afterDigit cs = some cs := by
  induction cs generalizing afterDigit with
  | nil => rfl
  | cons c cs ih =>
    simp only [List.mem_cons, not_or] at h
    simp [dropUnderscores?, Ne.symm h.1, ih h.2]

theorem dropSuffix?_eq_none {suffix : List Char} {c : Char} (hc : c ∈ suffix) (h : c ∉ cs) :
    dropSuffix? suffix cs = none := by
  rw [dropSuffix?, if_neg]
  intro hsuffix
  exact h ((List.isSuffixOf_iff_suffix.1 hsuffix).subset hc)

theorem float32?_of_literal (h : Literal cs) :
    float32? cs = (decimal? cs).map Decimal.toFloat32 := by
  have hchars : ∀ c ∈ cs, c ∉ ['n', 'N', 'f', '_'] := by
    have hdigits : ∀ c ∈ ['n', 'N', 'f', '_'], ¬ c.isDigit = true := by
      simp [Char.isDigit]
    exact h.forall_mem (fun c hc hmem ↦ hdigits c hmem hc) (by simp)
  have hsuffix : dropSuffix? ['f', '3', '2'] cs = none :=
    dropSuffix?_eq_none (c := 'f') (by decide) fun hmem ↦ hchars 'f' hmem (by decide)
  have hwords : notFinite? cs = none :=
    notFinite?_eq_none fun c hc hmem ↦ hchars c hc (by simp_all)
  have hunderscores : dropUnderscores? false cs = some cs :=
    dropUnderscores?_eq_some (fun hmem ↦ hchars '_' hmem (by decide)) false
  rw [float32?, hsuffix, Option.getD_none, plainFloat32?, hwords, plainDecimal?, hunderscores]
  rfl

end Atoms

end PipelineGraph.Ron
