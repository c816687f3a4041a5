import Mathlib.Data.List.Nodup
import PipelineGraph.OrderedMap

namespace PipelineGraph.OrderedMap

variable {κ α : Type}

theorem mem_entries_filter {m : OrderedMap κ α} {p : κ → α → Bool} {e : κ × α} :
    e ∈ (m.filter p).entries ↔ e ∈ m.entries ∧ p e.1 e.2 = true := List.mem_filter

theorem values_filter (m : OrderedMap κ α) (p : α → Bool) :
    (m.filter fun _ a ↦ p a).values = m.values.filter p := by
  simp only [values, filter, List.filter_map]
  rfl

theorem keys_filter (m : OrderedMap κ α) (p : κ → Bool) :
    (m.filter fun k _ ↦ p k).keys = m.keys.filter p := by
  simp only [keys, filter, List.filter_map]
  rfl

variable {m : OrderedMap κ α} {k : κ} {a : α}

theorem mem_iff_exists_entry : k ∈ m ↔ ∃ a, (k, a) ∈ m.entries := by
  constructor
  · intro h
    obtain ⟨e, he, rfl⟩ := List.mem_map.1 h
    exact ⟨e.2, he⟩
  · rintro ⟨a, ha⟩
    exact List.mem_map.2 ⟨_, ha, rfl⟩

theorem eq_of_mem_entries {e f : κ × α} (he : e ∈ m.entries) (hf : f ∈ m.entries)
    (h : e.1 = f.1) : e = f := List.inj_on_of_nodup_map m.nodup_keys he hf h

theorem mem_filter_not {p : κ → α → Bool} :
    k ∈ m.filter (fun k a ↦ !p k a) ↔ k ∈ m ∧ k ∉ m.filter p := by
  simp only [mem_iff_exists_entry, mem_entries_filter, Bool.not_eq_true', not_exists, not_and,
    Bool.not_eq_true]
  constructor
  · rintro ⟨a, ha, hp⟩
    refine ⟨⟨a, ha⟩, fun b hb ↦ ?_⟩
    have hab := eq_of_mem_entries ha hb rfl
    exact (Prod.mk.inj hab).2 ▸ hp
  · rintro ⟨⟨a, ha⟩, hp⟩
    exact ⟨a, ha, hp a ha⟩

theorem keys_filter_append_perm (m : OrderedMap κ α) (p : κ → α → Bool) :
    ((m.filter p).keys ++ (m.filter fun k a ↦ !p k a).keys).Perm m.keys := by
  rw [keys, keys, ← List.map_append]
  exact (List.filter_append_perm _ m.entries).map _

variable [DecidableEq κ]

theorem keys_filter_mem_append_perm (m : OrderedMap κ α) (ks : List κ) :
    ((m.keys.filter fun k ↦ k ∈ ks) ++ (m.filter fun k _ ↦ k ∉ ks).keys).Perm m.keys := by
  have hsplit := m.keys_filter_append_perm fun k _ ↦ decide (k ∈ ks)
  rw [keys_filter] at hsplit
  simpa only [decide_not] using hsplit

theorem get?_eq_some_iff : m.get? k = some a ↔ (k, a) ∈ m.entries := by
  unfold get?
  constructor
  · intro h
    obtain ⟨e, he, rfl⟩ := Option.map_eq_some_iff.1 h
    have hk := List.find?_some he
    simp only [decide_eq_true_eq] at hk
    exact hk ▸ List.mem_of_find?_eq_some he
  · intro h
    cases hf : m.entries.find? fun e ↦ e.1 = k with
    | none => exact (List.find?_eq_none.1 hf _ h (decide_eq_true rfl)).elim
    | some e =>
      have hk := List.find?_some hf
      simp only [decide_eq_true_eq] at hk
      rw [eq_of_mem_entries (List.mem_of_find?_eq_some hf) h hk, Option.map_some]

theorem get?_eq_none_iff : m.get? k = none ↔ k ∉ m := by
  rw [← not_iff_not, not_not, mem_iff_exists_entry, ← ne_eq, Option.ne_none_iff_exists']
  simp only [get?_eq_some_iff]

@[simp] theorem keys_adjust (m : OrderedMap κ α) (k : κ) (f : α → α) :
    (m.adjust k f).keys = m.keys := by
  simp only [keys, adjust, List.map_map]
  refine List.map_congr_left fun e _ ↦ ?_
  simp only [Function.comp_apply]
  split <;> rfl

theorem mem_adjust {k' : κ} {f : α → α} : k' ∈ m.adjust k f ↔ k' ∈ m := by
  change k' ∈ (m.adjust k f).keys ↔ k' ∈ m.keys
  rw [keys_adjust]

theorem get?_adjust (m : OrderedMap κ α) (k k' : κ) (f : α → α) :
    (m.adjust k f).get? k' = if k' = k then (m.get? k').map f else m.get? k' := by
  ext a
  have hadj : (m.adjust k f).get? k' = some a ↔
      ∃ x, (k', x) ∈ m.entries ∧ a = if k' = k then f x else x := by
    rw [get?_eq_some_iff]
    simp only [adjust, List.mem_map]
    constructor
    · rintro ⟨⟨j, x⟩, hx, he⟩
      by_cases hj : j = k
      · simp only [hj, if_true, Prod.mk.injEq] at he
        exact ⟨x, he.1 ▸ hj ▸ hx, by rw [if_pos he.1.symm, he.2]⟩
      · simp only [if_neg hj, Prod.mk.injEq] at he
        exact ⟨x, he.1 ▸ hx, by rw [if_neg (he.1 ▸ hj), he.2]⟩
    · rintro ⟨x, hx, rfl⟩
      exact ⟨_, hx, by split <;> rfl⟩
  rw [hadj]
  split
  · simp only [Option.map_eq_some_iff, get?_eq_some_iff, @eq_comm _ a]
  · simp only [exists_eq_right', get?_eq_some_iff]

theorem of_mem_values_adjust {f : α → α} (h : a ∈ (m.adjust k f).values) :
    ∃ b ∈ m.values, a = b ∨ a = f b := by
  obtain ⟨e, he, rfl⟩ := List.mem_map.1 h
  obtain ⟨x, hx, rfl⟩ := List.mem_map.1 he
  refine ⟨x.2, List.mem_map_of_mem hx, ?_⟩
  by_cases hk : x.1 = k
  · exact .inr (by rw [if_pos hk])
  · exact .inl (by rw [if_neg hk])

theorem insert_of_mem (h : k ∈ m) (a : α) : m.insert k a = m.adjust k fun _ ↦ a := dif_pos h

theorem entries_insert_of_notMem (h : k ∉ m) (a : α) :
    (m.insert k a).entries = m.entries ++ [(k, a)] := by
  rw [insert, dif_neg h]

theorem values_insert_of_notMem (h : k ∉ m) (a : α) :
    (m.insert k a).values = m.values ++ [a] := by
  simp only [values, entries_insert_of_notMem h, List.map_append, List.map_cons, List.map_nil]

theorem mem_insert {k' : κ} : k' ∈ m.insert k a ↔ k' ∈ m ∨ k' = k := by
  by_cases h : k ∈ m
  · rw [insert_of_mem h, mem_adjust]
    exact ⟨.inl, fun h' ↦ h'.elim id fun he ↦ he ▸ h⟩
  · change k' ∈ (m.insert k a).entries.map Prod.fst ↔ _
    rw [entries_insert_of_notMem h, List.map_append, List.mem_append]
    exact or_congr_right List.mem_singleton

theorem of_mem_values_insert {b : α} (h : b ∈ (m.insert k a).values) : b ∈ m.values ∨ b = a := by
  by_cases hk : k ∈ m
  · rw [insert_of_mem hk] at h
    obtain ⟨c, hc, rfl | rfl⟩ := of_mem_values_adjust h
    · exact .inl hc
    · exact .inr rfl
  · rw [values_insert_of_notMem hk] at h
    exact (List.mem_append.1 h).imp_right List.mem_singleton.1

theorem get?_insert (m : OrderedMap κ α) (k k' : κ) (a : α) :
    (m.insert k a).get? k' = if k' = k then some a else m.get? k' := by
  by_cases h : k ∈ m
  · rw [insert_of_mem h, get?_adjust]
    split
    · rename_i hk
      obtain ⟨x, hx⟩ := mem_iff_exists_entry.1 (hk ▸ h : k' ∈ m)
      rw [get?_eq_some_iff.2 hx, Option.map_some]
    · rfl
  · ext b
    rw [get?_eq_some_iff, entries_insert_of_notMem h, List.mem_append, List.mem_singleton,
      Prod.mk.injEq, ← get?_eq_some_iff]
    split
    · rename_i hk
      rw [get?_eq_none_iff.2 (hk ▸ h)]
      simp [hk, eq_comm]
    · rename_i hk
      simp [hk]

theorem entries_foldl_insert (l : List (κ × α)) (h : (m.keys ++ l.map Prod.fst).Nodup) :
    (l.foldl (fun m e ↦ m.insert e.1 e.2) m).entries = m.entries ++ l := by
  induction l generalizing m with
  | nil => simp
  | cons e l ih =>
    have hk : e.1 ∉ m := by
      intro hmem
      exact (List.nodup_append.1 h).2.2 _ hmem _ List.mem_cons_self rfl
    have he := entries_insert_of_notMem hk e.2
    rw [List.foldl_cons, ih, he, List.append_assoc, List.singleton_append]
    simpa only [keys, he, List.map_append, List.map_cons, List.map_nil, List.append_assoc,
      List.singleton_append] using h

theorem entries_ofList {l : List (κ × α)} (h : (l.map Prod.fst).Nodup) :
    (ofList l).entries = l := entries_foldl_insert l h

theorem of_mem_values_ofList {l : List (κ × α)} (h : a ∈ (ofList l).values) :
    ∃ k, (k, a) ∈ l := by
  suffices hf : ∀ m : OrderedMap κ α, a ∈ (l.foldl (fun m e ↦ m.insert e.1 e.2) m).values →
      a ∈ m.values ∨ ∃ k, (k, a) ∈ l from (hf empty h).resolve_left List.not_mem_nil
  clear h
  induction l with
  | nil => exact fun _ h ↦ .inl h
  | cons e l ih =>
    intro m h
    rcases ih _ h with h | ⟨k, hk⟩
    · rcases of_mem_values_insert h with h | rfl
      · exact .inl h
      · exact .inr ⟨e.1, List.mem_cons_self⟩
    · exact .inr ⟨k, List.mem_cons_of_mem _ hk⟩

section Keyed

variable {key : α → κ}

omit [DecidableEq κ] in
theorem Keyed.entries_eq (h : m.Keyed key) : m.entries = m.values.map fun a ↦ (key a, a) := by
  rw [values, List.map_map]
  conv_lhs => rw [← List.map_id m.entries]
  exact List.map_congr_left fun e he ↦ by simp only [id, Function.comp_apply, h e he]

omit [DecidableEq κ] in
theorem Keyed.eq_of_values_eq {n : OrderedMap κ α} (hm : m.Keyed key) (hn : n.Keyed key)
    (h : m.values = n.values) : m = n := by
  apply ext
  rw [hm.entries_eq, hn.entries_eq, h]

omit [DecidableEq κ] in
theorem Keyed.keys_eq (h : m.Keyed key) : m.keys = m.values.map key := by
  rw [keys, h.entries_eq, List.map_map]
  rfl

omit [DecidableEq κ] in
theorem Keyed.values_filter (h : m.Keyed key) (p : κ → Bool) :
    (m.filter fun k _ ↦ p k).values = m.values.filter fun a ↦ p (key a) := by
  simp only [values, List.filter_map]
  exact congrArg _ (List.filter_congr fun e he ↦ congrArg p (h e he).symm)

theorem Keyed.values_adjust (h : m.Keyed key) (k : κ) (f : α → α) :
    (m.adjust k f).values = m.values.map fun a ↦ if key a = k then f a else a := by
  simp only [values, OrderedMap.adjust, List.map_map]
  refine List.map_congr_left fun e he ↦ ?_
  simp only [Function.comp_apply, h e he]
  split <;> rfl

omit [DecidableEq κ] in
theorem Keyed.nodup (h : m.Keyed key) : (m.values.map key).Nodup := h.keys_eq ▸ m.nodup_keys

omit [DecidableEq κ] in
theorem Keyed.mem_iff (h : m.Keyed key) : k ∈ m ↔ ∃ a ∈ m.values, key a = k := by
  change k ∈ m.keys ↔ _
  rw [h.keys_eq, List.mem_map]

theorem Keyed.get?_eq_some_iff (h : m.Keyed key) :
    m.get? k = some a ↔ a ∈ m.values ∧ key a = k := by
  rw [OrderedMap.get?_eq_some_iff, h.entries_eq, List.mem_map]
  simp only [Prod.mk.injEq]
  exact ⟨fun ⟨b, hb, hk, ha⟩ ↦ ha ▸ ⟨hb, hk⟩, fun ⟨hb, hk⟩ ↦ ⟨a, hb, hk, rfl⟩⟩

theorem of_mem_values_index {l : List α} (h : a ∈ (index key l).values) : a ∈ l := by
  obtain ⟨k, hk⟩ := of_mem_values_ofList h
  obtain ⟨b, hb, he⟩ := List.mem_map.1 hk
  exact (Prod.mk.inj he).2 ▸ hb

/-- Of the values with one key, the last is stored. -/
theorem get?_index (key : α → κ) (l : List α) (k : κ) :
    (index key l).get? k = l.reverse.find? fun a ↦ key a = k := by
  suffices h : ∀ m : OrderedMap κ α,
      ((l.map fun a ↦ (key a, a)).foldl (fun m e ↦ m.insert e.1 e.2) m).get? k =
        (l.reverse.find? fun a ↦ key a = k).or (m.get? k) from
    (h empty).trans Option.or_none
  induction l with
  | nil => exact fun m ↦ rfl
  | cons a l ih =>
    intro m
    rw [List.map_cons, List.foldl_cons, ih, get?_insert, List.reverse_cons, List.find?_append,
      Option.or_assoc, List.find?_singleton]
    congr 1
    by_cases h : key a = k
    · simp [h]
    · simp [h, Ne.symm h]

theorem mem_values_index {l : List α} : a ∈ (index key l).values ↔
    ∃ earlier later, l = earlier ++ a :: later ∧ ∀ b ∈ later, key b ≠ key a := by
  have hget := (keyed_index key l).get?_eq_some_iff (k := key a) (a := a)
  rw [and_iff_left rfl] at hget
  rw [← hget, get?_index, List.find?_eq_some_iff_append]
  simp only [decide_true, true_and, Bool.not_eq_true', decide_eq_false_iff_not]
  constructor
  · rintro ⟨later, earlier, h, hlater⟩
    refine ⟨earlier.reverse, later.reverse, ?_, fun b hb ↦ hlater b (List.mem_reverse.1 hb)⟩
    rw [List.reverse_eq_iff] at h
    simpa using h
  · rintro ⟨earlier, later, rfl, hlater⟩
    exact ⟨later.reverse, earlier.reverse, by simp, fun b hb ↦ hlater b (List.mem_reverse.1 hb)⟩

end Keyed

end PipelineGraph.OrderedMap
