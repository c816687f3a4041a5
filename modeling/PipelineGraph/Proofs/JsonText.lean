import PipelineGraph.Json.Parser
import PipelineGraph.Proofs.NumberText
import PipelineGraph.Proofs.Scan
import PipelineGraph.Proofs.Uuid

namespace PipelineGraph.Json

open Number Text

variable {cs ds rest : List Char}

theorem escapeChar_cases (c : Char) :
    (∃ e, e ≠ 'u' ∧ shortEscape? e = some c ∧ escapeChar c = ['\\', e]) ∨
      (c.toNat < 0x20 ∧ escapeChar c = '\\' :: 'u' :: hexDigits 4 c.toNat) ∨
      (c ≠ '"' ∧ c ≠ '\\' ∧ ¬ c.toNat < 0x20 ∧ escapeChar c = [c]) := by
  unfold escapeChar
  split
  · exact .inl ⟨'"', by decide, rfl, rfl⟩
  · exact .inl ⟨'\\', by decide, rfl, rfl⟩
  · exact .inl ⟨'n', by decide, rfl, rfl⟩
  · exact .inl ⟨'r', by decide, rfl, rfl⟩
  · exact .inl ⟨'t', by decide, rfl, rfl⟩
  · exact .inl ⟨'b', by decide, rfl, rfl⟩
  · exact .inl ⟨'f', by decide, rfl, rfl⟩
  · rename_i hquote hbackslash _ _ _ _ _
    split
    · rename_i hc
      exact .inr (.inl ⟨hc, rfl⟩)
    · rename_i hc
      exact .inr (.inr ⟨hquote, hbackslash, hc, rfl⟩)

theorem exists_hexDigits_four {n : Nat} (h : n < 0x20) :
    ∃ a b c d, hexDigits 4 n = [a, b, c, d] ∧ hexNumber? [a, b, c, d] = some n := by
  have hn : hexNumber? (hexDigits 4 n) = some n := hexNumber?_hexDigits (Nat.lt_trans h (by decide))
  exact ⟨_, _, _, _, rfl, hn⟩

theorem scanString_escapeChar (c : Char) (cs : List Char) :
    scanString (escapeChar c ++ cs) =
      (scanString cs).bind fun r ↦ some (escapeChar c ++ r.1, r.2) := by
  obtain ⟨e, he, hshort, hc⟩ | ⟨hlow, hc⟩ | ⟨hquote, hbackslash, hlow, hc⟩ := escapeChar_cases c
  · simp [hc, scanString, he, hshort]
  · obtain ⟨a, b, x, d, hdigits, hnumber⟩ := exists_hexDigits_four hlow
    simp [hc, hdigits, scanString, hnumber]
  · simp [hc, scanString, hbackslash, hlow]

/-- A written string is read up to its closing quote. -/
theorem scanString_escape (cs rest : List Char) :
    scanString (escape cs ++ '"' :: rest) = some (escape cs, rest) := by
  induction cs with
  | nil => rfl
  | cons c cs ih =>
    rw [escape, List.flatMap_cons, List.append_assoc, scanString_escapeChar]
    rw [escape] at ih
    rw [ih, Option.bind_some]

theorem unescape?_escapeChar (c : Char) (cs : List Char) :
    unescape? (escapeChar c ++ cs) = (unescape? cs).bind fun ds ↦ some (c :: ds) := by
  obtain ⟨e, he, hshort, hc⟩ | ⟨hlow, hc⟩ | ⟨-, hbackslash, -, hc⟩ := escapeChar_cases c
  · simp [hc, unescape?, he, hshort]
  · obtain ⟨a, b, x, d, hdigits, hnumber⟩ := exists_hexDigits_four hlow
    have hfirst : isHighSurrogate c.toNat = false := by
      simp only [isHighSurrogate, Bool.and_eq_false_iff, decide_eq_false_iff_not]
      omega
    have hsecond : isLowSurrogate c.toNat = false := by
      simp only [isLowSurrogate, Bool.and_eq_false_iff, decide_eq_false_iff_not]
      omega
    simp [hc, hdigits, unescape?, hnumber, hfirst, hsecond]
  · simp [hc, unescape?, hbackslash]

theorem unescape?_escape (cs : List Char) : unescape? (escape cs) = some cs := by
  induction cs with
  | nil => rfl
  | cons c cs ih =>
    rw [escape, List.flatMap_cons, unescape?_escapeChar]
    rw [escape] at ih
    rw [ih, Option.bind_some]

section Number

def isNumberPart (c : Char) : Bool := c.isDigit || c = '.' || c = 'e' || c = 'E'

variable {w f e : List Char}

theorem scanDigits_append (h : Digits ds) (hrest : Stops Char.isDigit rest) :
    scanDigits (ds ++ rest) = some (ds, rest) := by
  unfold scanDigits
  rw [hrest.takeWhile_append h.2, hrest.dropWhile_append h.2]
  cases ds with
  | nil => exact absurd rfl h.1
  | cons d ds => rfl

theorem scanWhole_append (h : Whole w) (hrest : Stops Char.isDigit rest) :
    scanWhole (w ++ rest) = some (w, rest) := by
  cases h with
  | zero => rfl
  | digits h hzero =>
    unfold scanWhole
    split
    · rename_i hcs
      cases w with
      | nil => exact absurd rfl h.1
      | cons d w => exact absurd (congrArg some (List.cons.inj hcs).1) hzero
    · exact scanDigits_append h hrest

theorem scanFraction_append (h : Fraction f) (hrest : Stops (fun c ↦ c.isDigit || c = '.') rest) :
    scanFraction (f ++ rest) = some (f, rest) := by
  cases h with
  | none =>
    unfold scanFraction
    split
    · rename_i hcs
      have hdot := hrest '.' (by rw [← List.nil_append rest, hcs]; rfl)
      simp at hdot
    · rfl
  | digits h =>
    have hdigits := scanDigits_append h (hrest.mono fun c hc ↦ by simp [hc])
    simp [scanFraction, hdigits]

theorem scanExponent_append (h : Exponent e) (hrest : Stops isNumberPart rest) :
    scanExponent (e ++ rest) = some (e, rest) := by
  cases h with
  | none =>
    cases rest with
    | nil => rfl
    | cons c rest =>
      have hc := hrest c rfl
      simp only [isNumberPart, Bool.or_eq_false_iff, decide_eq_false_iff_not] at hc
      rw [List.nil_append, scanExponent, if_neg (by simp [hc])]
  | @digits sign ds hsign h =>
    have hdigits := scanDigits_append h (hrest.mono fun c hc ↦ by simp [isNumberPart, hc])
    have hscan : scanSign (sign :: (ds ++ rest)) = some ([sign], ds ++ rest) := by
      rcases hsign with rfl | rfl <;> rfl
    simp [scanExponent, hscan, hdigits]

theorem Exponent.stops (h : Exponent e) (hrest : Stops isNumberPart rest) :
    Stops (fun c ↦ c.isDigit || c = '.') (e ++ rest) := by
  cases h with
  | none => exact hrest.mono fun c hc ↦ by simp only [isNumberPart, hc, Bool.true_or]
  | digits => exact stops_cons (by decide)

theorem Fraction.stops (h : Fraction f) (hrest : Stops Char.isDigit rest) :
    Stops Char.isDigit (f ++ rest) := by
  cases h with
  | none => exact hrest
  | digits => exact stops_cons (by decide)

theorem scanUnsigned_append (h : Unsigned cs) (hrest : Stops isNumberPart rest) :
    scanUnsigned (cs ++ rest) = some (cs, rest) := by
  obtain ⟨hw, hf, he⟩ := h
  have hfraction := Exponent.stops he hrest
  have hwhole := Fraction.stops hf (hfraction.mono fun c hc ↦ by simp [hc])
  rw [List.append_assoc, List.append_assoc, scanUnsigned, scanWhole_append hw hwhole]
  simp only [Option.bind_eq_bind, Option.bind_some, scanFraction_append hf hfraction,
    scanExponent_append he hrest, Option.pure_def]

theorem scanNumber_append (h : Literal cs) (hrest : Stops isNumberPart rest) :
    scanNumber (cs ++ rest) = some (cs, rest) := by
  cases h with
  | positive h =>
    obtain ⟨d, ds, rfl, hd⟩ := h.exists_cons
    unfold scanNumber
    split
    · rename_i hcs
      rw [(List.cons.inj hcs).1] at hd
      exact absurd hd (by decide)
    · exact scanUnsigned_append h hrest
  | negative h => simp [scanNumber, scanUnsigned_append h hrest]

end Number

end PipelineGraph.Json
