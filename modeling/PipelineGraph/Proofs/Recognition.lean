import PipelineGraph.Proofs.Expression
import PipelineGraph.Proofs.Scan

namespace PipelineGraph

namespace Text

variable {cs t : List Char}

structure Stripped (cs t : List Char) : Prop where
  parts : ∃ before after, cs = before ++ t ++ after ∧ ∀ c ∈ before ++ after, isBlank c = true
  starts : Stops isBlank t
  ends : Stops isBlank t.reverse

theorem stops_dropWhile (p : Char → Bool) (cs : List Char) : Stops p (cs.dropWhile p) := by
  intro c hc
  have hhead := List.head?_dropWhile_not p cs
  rwa [hc] at hhead

theorem trimRight_append (cs : List Char) :
    trimRight cs ++ (cs.reverse.takeWhile isBlank).reverse = cs := by
  calc trimRight cs ++ (cs.reverse.takeWhile isBlank).reverse
      = (cs.reverse.takeWhile isBlank ++ cs.reverse.dropWhile isBlank).reverse :=
        List.reverse_append.symm
    _ = cs.reverse.reverse := congrArg List.reverse List.takeWhile_append_dropWhile
    _ = cs := List.reverse_reverse cs

theorem stripped_trim (cs : List Char) : Stripped cs (trim cs) := by
  let rest := cs.dropWhile isBlank
  have hrest : trim cs ++ (rest.reverse.takeWhile isBlank).reverse = rest := trimRight_append rest
  refine ⟨⟨cs.takeWhile isBlank, (rest.reverse.takeWhile isBlank).reverse, ?_, ?_⟩, ?_, ?_⟩
  · rw [List.append_assoc, hrest]
    exact List.takeWhile_append_dropWhile.symm
  · intro c hc
    rcases List.mem_append.1 hc with hc | hc
    · exact List.mem_takeWhile_imp hc
    · exact List.mem_takeWhile_imp (List.mem_reverse.1 hc)
  · intro c hc
    refine stops_dropWhile isBlank cs c ?_
    change c ∈ rest.head?
    rw [← hrest, List.head?_append, hc]
    rfl
  · rw [trim, trimRight, List.reverse_reverse]
    exact stops_dropWhile isBlank _

theorem Stripped.eq_trim (h : Stripped cs t) : t = trim cs := by
  obtain ⟨⟨before, after, rfl, hblank⟩, hstarts, hends⟩ := h
  obtain ⟨hbefore, hafter⟩ := List.forall_mem_append.1 hblank
  have hafter' : ∀ c ∈ after.reverse, isBlank c = true :=
    fun c hc ↦ hafter c (List.mem_reverse.1 hc)
  unfold trim
  rw [List.append_assoc, List.dropWhile_append_of_pos hbefore]
  cases t with
  | nil =>
    rw [List.nil_append, List.dropWhile_eq_nil_iff.2 hafter]
    rfl
  | cons c t =>
    have hstops : Stops isBlank (c :: t ++ after) := stops_cons (hstarts c rfl)
    rw [hstops.dropWhile_eq_self, trimRight, List.reverse_append, hends.dropWhile_append hafter',
      List.reverse_reverse]

theorem stripped_iff : Stripped cs t ↔ t = trim cs := by
  constructor
  · exact Stripped.eq_trim
  · rintro rfl
    exact stripped_trim cs

theorem trim_of_forall (h : ∀ c ∈ cs, isBlank c = false) : trim cs = cs := by
  refine (Stripped.eq_trim ⟨⟨[], [], by simp, nofun⟩, ?_, ?_⟩).symm
  · exact fun c hc ↦ h c (List.mem_of_mem_head? hc)
  · exact fun c hc ↦ h c (List.mem_reverse.1 (List.mem_of_mem_head? hc))

end Text

namespace Expression

open Text (Digits)

section Characters

variable {c : Char}

theorem toNat_of_isDigit (h : c.isDigit = true) : 48 ≤ c.toNat ∧ c.toNat ≤ 57 := by
  obtain ⟨hle, hge⟩ := Bool.and_eq_true_iff.1 h
  exact ⟨UInt32.le_iff_toNat_le.1 (of_decide_eq_true hle),
    UInt32.le_iff_toNat_le.1 (of_decide_eq_true hge)⟩

theorem toNat_of_isAlpha (h : c.isAlpha = true) :
    65 ≤ c.toNat ∧ c.toNat ≤ 90 ∨ 97 ≤ c.toNat ∧ c.toNat ≤ 122 := by
  rcases Bool.or_eq_true_iff.1 h with hupper | hlower
  · obtain ⟨hle, hge⟩ := of_decide_eq_true hupper
    exact .inl ⟨UInt32.le_iff_toNat_le.1 hle, UInt32.le_iff_toNat_le.1 hge⟩
  · obtain ⟨hle, hge⟩ := Bool.and_eq_true_iff.1 hlower
    exact .inr ⟨UInt32.le_iff_toNat_le.1 (of_decide_eq_true hle),
      UInt32.le_iff_toNat_le.1 (of_decide_eq_true hge)⟩

theorem isLetter_of_isDigit (h : c.isDigit = true) : isLetter c = false := by
  rw [isLetter, Bool.or_eq_false_iff, decide_eq_false_iff_not]
  constructor
  · by_contra halpha
    have hletter := toNat_of_isAlpha (Bool.not_eq_false _ ▸ halpha)
    have hdigit := toNat_of_isDigit h
    omega
  · rintro rfl
    cases h

end Characters

variable {cs : List Char}

section Types

variable {type : ValueType}

theorem literal_of_isUnsigned (h : type.isUnsigned = true) : Literal type cs ↔ Digits cs := by
  cases type with
  | uint32 => rfl
  | uint64 => rfl
  | _ => cases h

theorem literal_of_isSigned (h : type.isSigned = true) : Literal type cs ↔ Signed Digits cs := by
  cases type with
  | int32 => rfl
  | int64 => rfl
  | _ => cases h

theorem literal_of_isFloating (h : type.isFloating = true) :
    Literal type cs ↔ Signed Decimal cs := by
  cases type with
  | float => rfl
  | double => rfl
  | _ => cases h

end Types

theorem Signed.mono {K L : List Char → Prop} (hKL : ∀ cs, K cs → L cs) (h : Signed K cs) :
    Signed L cs := by
  cases h with
  | plain h => exact .plain (hKL _ h)
  | minus h => exact .minus (hKL _ h)

/-- An unsigned and a signed type, or a signed and a floating one. -/
def Widens (narrow wide : ValueType) : Prop :=
  narrow.isUnsigned = true ∧ wide.isSigned = true ∨ narrow.isSigned = true ∧ wide.isFloating = true

theorem Widens.literal {narrow wide : ValueType} (h : Widens narrow wide) (hl : Literal narrow cs) :
    Literal wide cs := by
  rcases h with ⟨hnarrow, hwide⟩ | ⟨hnarrow, hwide⟩
  · rw [literal_of_isUnsigned hnarrow] at hl
    rw [literal_of_isSigned hwide]
    exact .plain hl
  · rw [literal_of_isSigned hnarrow] at hl
    rw [literal_of_isFloating hwide]
    exact hl.mono fun _ ↦ .whole

def StartsWithLetter (cs : List Char) : Prop := ∃ c ∈ cs.head?, isLetter c = true

theorem Identifier.startsWithLetter (h : Identifier cs) : StartsWithLetter cs := by
  cases cs with
  | nil => exact h.elim
  | cons c cs => exact ⟨c, rfl, by simpa [isLetter] using h.1⟩

theorem Names.startsWithLetter {r : Reference} (h : Names cs r) : StartsWithLetter cs := by
  cases h with
  | node h => exact h.startsWithLetter
  | output hc =>
    obtain ⟨c, hhead, hletter⟩ := hc.startsWithLetter
    exact ⟨c, by rw [List.head?_append, hhead]; rfl, hletter⟩

theorem not_startsWithLetter_of_digits (h : Digits cs) : ¬ StartsWithLetter cs := by
  rintro ⟨c, hhead, hletter⟩
  rw [isLetter_of_isDigit (h.2 c (List.mem_of_mem_head? hhead))] at hletter
  cases hletter

theorem Decimal.not_startsWithLetter (h : Decimal cs) : ¬ StartsWithLetter cs := by
  cases h with
  | whole h => exact not_startsWithLetter_of_digits h
  | fraction hc =>
    rintro ⟨c, hhead, hletter⟩
    obtain ⟨d, ds, rfl⟩ := List.exists_cons_of_ne_nil hc.1
    exact not_startsWithLetter_of_digits hc ⟨c, hhead, hletter⟩

theorem Signed.not_startsWithLetter {L : List Char → Prop}
    (hL : ∀ cs, L cs → ¬ StartsWithLetter cs) (h : Signed L cs) : ¬ StartsWithLetter cs := by
  cases h with
  | plain h => exact hL _ h
  | minus h =>
    rintro ⟨c, hhead, hletter⟩
    cases hhead
    cases hletter

/-- Only the literals for the two truth values start like an identifier. -/
theorem Literal.not_startsWithLetter {type : ValueType} (h : Literal type cs)
    (htype : type ≠ .bool) : ¬ StartsWithLetter cs := by
  cases type with
  | string =>
    obtain ⟨q, w, hq, rfl⟩ := h
    rintro ⟨c, hhead, hletter⟩
    cases hhead
    rcases hq with rfl | rfl
    · cases hletter
    · cases hletter
  | bool => exact absurd rfl htype
  | int32 => exact Signed.not_startsWithLetter (fun _ ↦ not_startsWithLetter_of_digits) h
  | int64 => exact Signed.not_startsWithLetter (fun _ ↦ not_startsWithLetter_of_digits) h
  | uint32 => exact not_startsWithLetter_of_digits h
  | uint64 => exact not_startsWithLetter_of_digits h
  | float => exact Signed.not_startsWithLetter (fun _ ↦ Decimal.not_startsWithLetter) h
  | double => exact Signed.not_startsWithLetter (fun _ ↦ Decimal.not_startsWithLetter) h
  | none => exact h.elim

theorem names_and_literal_iff {type : ValueType} :
    (∃ r, Names cs r) ∧ Literal type cs ↔
      type = .bool ∧ (cs = "true".toList ∨ cs = "false".toList) := by
  constructor
  · rintro ⟨⟨r, hr⟩, hliteral⟩
    by_cases htype : type = .bool
    · subst htype
      exact ⟨rfl, hliteral⟩
    · exact absurd hr.startsWithLetter (hliteral.not_startsWithLetter htype)
  · rintro ⟨rfl, hcs⟩
    refine ⟨⟨_, .node ?_⟩, hcs⟩
    rcases hcs with rfl | rfl
    · exact isIdentifier_iff.1 rfl
    · exact isIdentifier_iff.1 rfl

theorem isLiteral_iff {text : String} {type : ValueType} :
    isLiteral text type = true ↔ Literal type (Text.trim text.toList) := isBareLiteral_iff

theorem isReference_iff {text : String} :
    isReference text = true ↔ ∃ r, Names (Text.trim text.toList) r := by
  constructor
  · exact fun h ↦ ⟨_, isBareReference_iff.1 h⟩
  · rintro ⟨r, hr⟩
    refine isBareReference_iff.2 ?_
    rwa [splitReference_eq hr]

/-- Between blanks the literals of a type and the references are exactly the texts of their
grammars. Only `true` and `false` are both. -/
theorem recognizes_grammars (text : String) (type : ValueType) :
    let t := Text.trim text.toList
    (∀ u, Text.Stripped text.toList u ↔ u = t) ∧
    (isLiteral text type = true ↔ Literal type t) ∧
    (isReference text = true ↔ ∃ r, Names t r) ∧
    (∀ r, Names t r → splitReference t = r) ∧
    (∀ wide, Widens type wide → isLiteral text type = true → isLiteral text wide = true) ∧
    (isReference text = true ∧ isLiteral text type = true ↔
      type = .bool ∧ (t = "true".toList ∨ t = "false".toList)) := by
  intro t
  refine ⟨fun u ↦ Text.stripped_iff, isLiteral_iff, isReference_iff, fun r ↦ splitReference_eq,
    fun wide hwide hliteral ↦ ?_, ?_⟩
  · exact isLiteral_iff.2 (hwide.literal (isLiteral_iff.1 hliteral))
  · rw [isLiteral_iff, isReference_iff]
    exact names_and_literal_iff

/-- Quotes may stand within quotes, and digits and letters beyond ASCII count as neither. -/
example :
    isLiteral "\u3000\"a\"b\"\n" .string = true ∧ isLiteral "\"" .string = false ∧
      isLiteral "\u0663" .int32 = false ∧ isReference "\ta-1._b\n" = true ∧
      isReference "\u00e9" = false := by
  decide

end Expression

end PipelineGraph
