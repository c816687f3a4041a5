import Mathlib.Data.List.TakeWhile
import PipelineGraph.Proofs.Scan
import PipelineGraph.Validation.Expression

namespace PipelineGraph.Expression

open Text (Digits)

variable {cs ds : List Char}

inductive Signed (L : List Char → Prop) : List Char → Prop
  | plain {cs : List Char} (h : L cs) : Signed L cs
  | minus {cs : List Char} (h : L cs) : Signed L ('-' :: cs)

inductive Decimal : List Char → Prop
  | whole {cs : List Char} (h : Digits cs) : Decimal cs
  | fraction {cs ds : List Char} (hc : Digits cs) (hd : Digits ds) : Decimal (cs ++ '.' :: ds)

def Literal : ValueType → List Char → Prop
  | .string, cs => ∃ q w, (q = '"' ∨ q = '\'') ∧ cs = q :: (w ++ [q])
  | .bool, cs => cs = "true".toList ∨ cs = "false".toList
  | .int32, cs | .int64, cs => Signed Digits cs
  | .uint32, cs | .uint64, cs => Digits cs
  | .float, cs | .double, cs => Signed Decimal cs
  | .none, _ => False

def Identifier : List Char → Prop
  | [] => False
  | c :: cs => (c.isAlpha = true ∨ c = '_') ∧
    ∀ x ∈ cs, x.isAlphanum = true ∨ x = '_' ∨ x = '-'

inductive Names : List Char → Reference → Prop
  | node {cs : List Char} (h : Identifier cs) : Names cs ⟨.ofList cs, ""⟩
  | output {cs ds : List Char} (hc : Identifier cs) (hd : Identifier ds) :
      Names (cs ++ '.' :: ds) ⟨.ofList cs, .ofList ds⟩

section Dot

theorem takeWhile_append_dot (h : '.' ∉ cs) (ds : List Char) :
    (cs ++ '.' :: ds).takeWhile (· ≠ '.') = cs := by
  rw [List.takeWhile_append_of_pos, List.takeWhile_cons_of_neg (by simp), List.append_nil]
  exact fun c hc ↦ decide_eq_true fun he ↦ h (he ▸ hc)

theorem dropWhile_append_dot (h : '.' ∉ cs) (ds : List Char) :
    (cs ++ '.' :: ds).dropWhile (· ≠ '.') = '.' :: ds := by
  rw [List.dropWhile_append_of_pos, List.dropWhile_cons_of_neg (by simp)]
  exact fun c hc ↦ decide_eq_true fun he ↦ h (he ▸ hc)

theorem takeWhile_of_notMem_dot (h : '.' ∉ cs) : cs.takeWhile (· ≠ '.') = cs :=
  List.takeWhile_eq_self_iff.2 fun _ hc ↦ decide_eq_true fun he ↦ h (he ▸ hc)

theorem dropWhile_of_notMem_dot (h : '.' ∉ cs) : cs.dropWhile (· ≠ '.') = [] :=
  List.dropWhile_eq_nil_iff.2 fun _ hc ↦ decide_eq_true fun he ↦ h (he ▸ hc)

theorem match_dot_iff (p : List Char → Bool) :
    (match cs.dropWhile (· ≠ '.') with
      | [] => p cs
      | _ :: ds => p (cs.takeWhile (· ≠ '.')) && p ds) = true ↔
    ('.' ∉ cs ∧ p cs = true) ∨
      ∃ as bs, cs = as ++ '.' :: bs ∧ '.' ∉ as ∧ p as = true ∧ p bs = true := by
  constructor
  · intro h
    by_cases hdot : '.' ∈ cs
    · obtain ⟨as, bs, rfl, has⟩ := List.eq_append_cons_of_mem hdot
      rw [dropWhile_append_dot has, takeWhile_append_dot has] at h
      exact .inr ⟨as, bs, rfl, has, Bool.and_eq_true_iff.1 h⟩
    · rw [dropWhile_of_notMem_dot hdot] at h
      exact .inl ⟨hdot, h⟩
  · rintro (⟨hdot, h⟩ | ⟨as, bs, rfl, has, h⟩)
    · rwa [dropWhile_of_notMem_dot hdot]
    · rw [dropWhile_append_dot has, takeWhile_append_dot has]
      exact Bool.and_eq_true_iff.2 h

end Dot

theorem isDigits_iff : isDigits cs = true ↔ Digits cs := by
  simp [isDigits, Digits]

theorem isUnsignedDecimal_iff : isUnsignedDecimal cs = true ↔ Decimal cs := by
  refine (match_dot_iff isDigits).trans ⟨?_, fun h ↦ ?_⟩
  · rintro (⟨-, h⟩ | ⟨as, bs, rfl, -, ha, hb⟩)
    · exact .whole (isDigits_iff.1 h)
    · exact .fraction (isDigits_iff.1 ha) (isDigits_iff.1 hb)
  · cases h with
    | whole h => exact .inl ⟨h.notMem rfl, isDigits_iff.2 h⟩
    | fraction hc hd =>
      exact .inr ⟨_, _, rfl, hc.notMem rfl, isDigits_iff.2 hc, isDigits_iff.2 hd⟩

theorem Decimal.notMem_minus (h : Decimal cs) : '-' ∉ cs := by
  cases h with
  | whole h => exact h.notMem rfl
  | fraction hc hd =>
    rw [List.mem_append, List.mem_cons, not_or, not_or]
    exact ⟨hc.notMem rfl, by decide, hd.notMem rfl⟩

section Signed

variable {L : List Char → Prop}

theorem signed_cons_minus (h : ¬ L ('-' :: cs)) : Signed L ('-' :: cs) ↔ L cs := by
  constructor
  · intro hs
    cases hs with
    | plain hs => exact absurd hs h
    | minus hs => exact hs
  · exact .minus

theorem signed_of_ne (h : ∀ ds, cs ≠ '-' :: ds) : Signed L cs ↔ L cs := by
  constructor
  · intro hs
    cases hs with
    | plain hs => exact hs
    | minus hs => exact absurd rfl (h _)
  · exact .plain

end Signed

theorem isSignedDigits_iff : isSignedDigits cs = true ↔ Signed Digits cs := by
  unfold isSignedDigits
  split
  · rw [isDigits_iff, signed_cons_minus]
    exact fun h ↦ h.notMem rfl List.mem_cons_self
  · rename_i hne
    rw [isDigits_iff, signed_of_ne hne]

theorem isDecimal_iff : isDecimal cs = true ↔ Signed Decimal cs := by
  unfold isDecimal
  split
  · rw [isUnsignedDecimal_iff, signed_cons_minus]
    exact fun h ↦ h.notMem_minus List.mem_cons_self
  · rename_i hne
    rw [isUnsignedDecimal_iff, signed_of_ne hne]

theorem isQuoted_iff : isQuoted cs = true ↔ Literal .string cs := by
  unfold Literal
  constructor
  · intro h
    unfold isQuoted at h
    split at h
    · rename_i q c rest
      rw [Bool.and_eq_true, Bool.or_eq_true, decide_eq_true_eq, decide_eq_true_eq,
        decide_eq_true_eq] at h
      obtain ⟨hq, hlast⟩ := h
      obtain ⟨w, hw⟩ := List.getLast?_eq_some_iff.1 hlast
      exact ⟨q, w, hq, hw ▸ rfl⟩
    · cases h
  · rintro ⟨q, w, hq, rfl⟩
    have hlast : (w ++ [q]).getLast? = some q := List.getLast?_concat
    cases w with
    | nil => simp [isQuoted, hq]
    | cons c w => simpa [isQuoted, hq] using hlast

theorem isBareLiteral_iff {type : ValueType} : isBareLiteral cs type = true ↔ Literal type cs := by
  cases type with
  | string => exact isQuoted_iff
  | bool => simp [isBareLiteral, Literal]
  | int32 => exact isSignedDigits_iff
  | int64 => exact isSignedDigits_iff
  | uint32 => exact isDigits_iff
  | uint64 => exact isDigits_iff
  | float => exact isDecimal_iff
  | double => exact isDecimal_iff
  | none => simp [isBareLiteral, Literal]

theorem isIdentifier_iff : isIdentifier cs = true ↔ Identifier cs := by
  cases cs with
  | nil => simp [isIdentifier, Identifier]
  | cons c cs => simp [isIdentifier, Identifier, isLetter, isWordCharacter, or_assoc]

theorem Identifier.ne_nil (h : Identifier cs) : cs ≠ [] := by
  rintro rfl
  exact h

theorem Identifier.notMem_dot (h : Identifier cs) : '.' ∉ cs := by
  cases cs with
  | nil => exact List.not_mem_nil
  | cons c cs =>
    rw [List.mem_cons, not_or]
    refine ⟨?_, fun hmem ↦ absurd (h.2 '.' hmem) (by decide)⟩
    rintro rfl
    exact absurd h.1 (by decide)

theorem Names.ne_nil {r : Reference} (h : Names cs r) : cs ≠ [] := by
  cases h with
  | node h => exact h.ne_nil
  | output => simp

/-- Splitting at the first dot recovers the names that a reference is made of. -/
theorem splitReference_eq {r : Reference} (h : Names cs r) : splitReference cs = r := by
  unfold splitReference
  cases h with
  | node h => rw [takeWhile_of_notMem_dot h.notMem_dot, dropWhile_of_notMem_dot h.notMem_dot]; rfl
  | output hc =>
    rw [takeWhile_append_dot hc.notMem_dot, dropWhile_append_dot hc.notMem_dot, List.drop_one,
      List.tail_cons]

theorem Names.unique {r r' : Reference} (h : Names cs r) (h' : Names cs r') : r = r' :=
  (splitReference_eq h).symm.trans (splitReference_eq h')

/-- The reference test accepts a text exactly if it is made of the names that splitting gives. -/
theorem isBareReference_iff : isBareReference cs = true ↔ Names cs (splitReference cs) := by
  refine (match_dot_iff isIdentifier).trans ⟨?_, fun h ↦ ?_⟩
  · rintro (⟨-, h⟩ | ⟨as, bs, rfl, -, ha, hb⟩)
    · have hnames := Names.node (isIdentifier_iff.1 h)
      rwa [splitReference_eq hnames]
    · have hnames := Names.output (isIdentifier_iff.1 ha) (isIdentifier_iff.1 hb)
      rwa [splitReference_eq hnames]
  · generalize splitReference cs = r at h
    cases h with
    | node h => exact .inl ⟨h.notMem_dot, isIdentifier_iff.2 h⟩
    | output hc hd =>
      exact .inr ⟨_, _, rfl, hc.notMem_dot, isIdentifier_iff.2 hc, isIdentifier_iff.2 hd⟩

end PipelineGraph.Expression
