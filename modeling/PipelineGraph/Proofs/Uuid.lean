import PipelineGraph.Uuid

namespace PipelineGraph

theorem hexValue?_hexDigit : ∀ n < 16, hexValue? (hexDigit n) = some n := by decide

theorem hexValue?_digitChar : ∀ n < 16, hexValue? (Nat.digitChar n) = some n := by decide

theorem hexNumber?_append (cs : List Char) (c : Char) :
    hexNumber? (cs ++ [c]) = do return (← hexNumber? cs) * 16 + (← hexValue? c) := by
  rw [hexNumber?, List.foldl_append]
  rfl

theorem hexNumber?_hexDigits {n value : Nat} (h : value < Nat.pow 16 n) :
    hexNumber? (hexDigits n value) = some value := by
  induction n generalizing value with
  | zero =>
    have hvalue : value = 0 := Nat.lt_one_iff.1 h
    rw [hvalue]
    rfl
  | succ n ih =>
    have hpow : Nat.pow 16 (n + 1) = Nat.pow 16 n * 16 := rfl
    have hdiv : value / 16 < Nat.pow 16 n := by omega
    have hmod : value % 16 < 16 := Nat.mod_lt _ (by decide)
    rw [hexDigits, hexNumber?_append, ih hdiv, hexValue?_hexDigit _ hmod]
    simp only [Option.bind_eq_bind, Option.bind_some, Option.pure_def, Option.some.injEq]
    omega

theorem hexNumber?_toDigits (n : Nat) : hexNumber? (Nat.toDigits 16 n) = some n := by
  induction n using Nat.strongRecOn with
  | ind n ih =>
    rw [Nat.toDigits_eq_if (by decide)]
    split
    · rename_i hn
      simpa [hexNumber?] using hexValue?_digitChar n hn
    · have hmod : n % 16 < 16 := Nat.mod_lt _ (by decide)
      rw [hexNumber?_append, ih (n / 16) (by omega), hexValue?_digitChar _ hmod]
      simp only [Option.bind_eq_bind, Option.bind_some, Option.pure_def, Option.some.injEq]
      omega

theorem hexValue?_of_mem_toDigits {n : Nat} {c : Char} (h : c ∈ Nat.toDigits 16 n) :
    (hexValue? c).isSome = true := by
  induction n using Nat.strongRecOn with
  | ind n ih =>
    rw [Nat.toDigits_eq_if (by decide)] at h
    split at h
    · rename_i hn
      rw [List.mem_singleton.1 h, hexValue?_digitChar n hn, Option.isSome_some]
    · rcases List.mem_append.1 h with h | h
      · exact ih (n / 16) (by omega) h
      · rw [List.mem_singleton.1 h, hexValue?_digitChar _ (Nat.mod_lt _ (by decide)),
          Option.isSome_some]

theorem length_hexDigits (n value : Nat) : (hexDigits n value).length = n := by
  induction n generalizing value with
  | zero => rfl
  | succ n ih => rw [hexDigits, List.length_append, ih, List.length_singleton]

theorem hexValue?_of_mem_hexDigits {n value : Nat} {c : Char} (h : c ∈ hexDigits n value) :
    (hexValue? c).isSome = true := by
  induction n generalizing value with
  | zero => simp [hexDigits] at h
  | succ n ih =>
    rw [hexDigits, List.mem_append, List.mem_singleton] at h
    rcases h with h | rfl
    · exact ih h
    · rw [hexValue?_hexDigit _ (Nat.mod_lt _ (by decide)), Option.isSome_some]

namespace Uuid

theorem take_drop_append (ds : List Char) (n k : Nat) :
    (ds.drop n).take k ++ ds.drop (n + k) = ds.drop n := by
  rw [← List.drop_drop, List.take_append_drop]

theorem ofHyphenated?_hyphenate {ds : List Char} (h : ds.length = 32) :
    ofHyphenated? (hyphenate ds) = ofDigits? ds := by
  have hregroup : ds.take 8 ++ ((ds.drop 8).take 4 ++ ((ds.drop 12).take 4 ++
      ((ds.drop 16).take 4 ++ ds.drop 20))) = ds := by
    rw [take_drop_append ds 16 4, take_drop_append ds 12 4, take_drop_append ds 8 4,
      List.take_append_drop]
  have hgroups : (hyphenate ds).take 8 ++ (((hyphenate ds).drop 9).take 4 ++
      (((hyphenate ds).drop 14).take 4 ++ (((hyphenate ds).drop 19).take 4 ++
        (hyphenate ds).drop 24))) = ds := by
    simpa [hyphenate, List.drop_append, List.drop_take, h] using hregroup
  rw [ofHyphenated?, hgroups, if_pos rfl]

theorem ofDigits?_hexDigits (u : Uuid) : ofDigits? (hexDigits 32 u.bits.toNat) = some u := by
  rw [ofDigits?, if_pos (length_hexDigits _ _), hexNumber?_hexDigits u.bits.isLt, Option.map_some,
    ofNat, BitVec.ofNat_toNat, BitVec.setWidth_eq]

theorem length_hyphenate {ds : List Char} (h : ds.length = 32) : (hyphenate ds).length = 36 := by
  simp [hyphenate, h]

theorem ofChars?_hyphenate {ds : List Char} (h : ds.length = 32)
    (hd : ∀ c ∈ ds, (hexValue? c).isSome = true) : ofChars? (hyphenate ds) = ofDigits? ds := by
  obtain ⟨d, ds', rfl⟩ := List.exists_cons_of_length_eq_add_one h
  have hhead : (hexValue? d).isSome = true := hd d List.mem_cons_self
  obtain ⟨rest, hrest⟩ : ∃ rest, hyphenate (d :: ds') = d :: rest := ⟨_, rfl⟩
  unfold ofChars?
  split
  · rename_i hu
    rw [hrest] at hu
    rw [(List.cons.inj hu).1] at hhead
    exact absurd hhead (by decide)
  · rename_i hb
    rw [hrest] at hb
    rw [(List.cons.inj hb).1] at hhead
    exact absurd hhead (by decide)
  · rw [if_neg (by rw [length_hyphenate h]; decide), ofHyphenated?_hyphenate h]

@[simp] theorem ofString?_toString (u : Uuid) : ofString? u.toString = some u := by
  rw [ofString?, toString, String.toList_ofList, toChars, ofChars?_hyphenate (length_hexDigits _ _)
    (fun c hc ↦ hexValue?_of_mem_hexDigits hc), ofDigits?_hexDigits]

end Uuid

end PipelineGraph
