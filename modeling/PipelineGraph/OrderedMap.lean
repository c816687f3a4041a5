namespace PipelineGraph

/-- A finite map that remembers the order in which its keys were first added. -/
structure OrderedMap (κ α : Type) where
  entries : List (κ × α)
  nodup_keys : (entries.map Prod.fst).Nodup

namespace OrderedMap

variable {κ α β : Type}

instance [BEq κ] [BEq α] : BEq (OrderedMap κ α) := ⟨fun m n ↦ m.entries == n.entries⟩

theorem ext {m n : OrderedMap κ α} (h : m.entries = n.entries) : m = n := by
  cases m; cases n; cases h; rfl

def empty : OrderedMap κ α := ⟨[], .nil⟩

instance : Inhabited (OrderedMap κ α) := ⟨empty⟩

def keys (m : OrderedMap κ α) : List κ := m.entries.map Prod.fst

def values (m : OrderedMap κ α) : List α := m.entries.map Prod.snd

def size (m : OrderedMap κ α) : Nat := m.entries.length

def isEmpty (m : OrderedMap κ α) : Bool := m.entries.isEmpty

def filter (m : OrderedMap κ α) (p : κ → α → Bool) : OrderedMap κ α where
  entries := m.entries.filter fun e ↦ p e.1 e.2
  nodup_keys := m.nodup_keys.sublist (List.filter_sublist.map _)

variable [DecidableEq κ]

instance : Membership κ (OrderedMap κ α) := ⟨fun m k ↦ k ∈ m.keys⟩

instance (k : κ) (m : OrderedMap κ α) : Decidable (k ∈ m) :=
  inferInstanceAs (Decidable (k ∈ m.keys))

def get? (m : OrderedMap κ α) (k : κ) : Option α :=
  (m.entries.find? fun e ↦ e.1 = k).map Prod.snd

def adjust (m : OrderedMap κ α) (k : κ) (f : α → α) : OrderedMap κ α where
  entries := m.entries.map fun e ↦ if e.1 = k then (e.1, f e.2) else e
  nodup_keys := by
    have h : (m.entries.map fun e ↦ if e.1 = k then (e.1, f e.2) else e).map Prod.fst =
        m.entries.map Prod.fst := by
      rw [List.map_map]
      refine List.map_congr_left fun e _ ↦ ?_
      simp only [Function.comp_apply]
      split <;> rfl
    exact h ▸ m.nodup_keys

def insert (m : OrderedMap κ α) (k : κ) (a : α) : OrderedMap κ α :=
  if h : k ∈ m then m.adjust k fun _ ↦ a
  else
    { entries := m.entries ++ [(k, a)]
      nodup_keys := by
        rw [List.map_append, List.map_cons, List.map_nil, List.nodup_append]
        refine ⟨m.nodup_keys, by simp, fun x hx y hy ↦ ?_⟩
        rw [List.mem_singleton.1 hy]
        rintro rfl
        exact h hx }

/-- Stores the pairs one after the other, so the last value of a repeated key wins and its first
place is kept. -/
def ofList (l : List (κ × α)) : OrderedMap κ α :=
  l.foldl (fun m e ↦ m.insert e.1 e.2) empty

def erase (m : OrderedMap κ α) (k : κ) : OrderedMap κ α := m.filter fun k' _ ↦ k' ≠ k

def Keyed (key : α → κ) (m : OrderedMap κ α) : Prop := ∀ e ∈ m.entries, key e.2 = e.1

section Keyed

variable {key : α → κ} {m : OrderedMap κ α}

omit [DecidableEq κ] in
theorem keyed_empty : (empty : OrderedMap κ α).Keyed key := fun _ he ↦ nomatch he

omit [DecidableEq κ] in
theorem Keyed.filter (h : m.Keyed key) (p : κ → α → Bool) : (m.filter p).Keyed key :=
  fun e he ↦ h e (List.mem_filter.1 he).1

theorem Keyed.erase (h : m.Keyed key) (k : κ) : (m.erase k).Keyed key := h.filter _

theorem Keyed.adjust (h : m.Keyed key) {k : κ} {f : α → α} (hf : ∀ a, key a = k → key (f a) = k) :
    (m.adjust k f).Keyed key := by
  intro e he
  obtain ⟨x, hx, rfl⟩ := List.mem_map.1 he
  by_cases hk : x.1 = k
  · rw [if_pos hk]
    exact (hf x.2 ((h x hx).trans hk)).trans hk.symm
  · rw [if_neg hk]
    exact h x hx

theorem Keyed.insert (h : m.Keyed key) (a : α) : (m.insert (key a) a).Keyed key := by
  unfold OrderedMap.insert
  split
  · exact h.adjust fun _ _ ↦ rfl
  · intro e he
    rcases List.mem_append.1 he with he | he
    · exact h e he
    · rw [List.mem_singleton.1 he]

def index (key : α → κ) (l : List α) : OrderedMap κ α := ofList (l.map fun a ↦ (key a, a))

theorem keyed_index (key : α → κ) (l : List α) : (index key l).Keyed key := by
  suffices h : ∀ m : OrderedMap κ α, m.Keyed key →
      ((l.map fun a ↦ (key a, a)).foldl (fun m e ↦ m.insert e.1 e.2) m).Keyed key from
    h empty keyed_empty
  induction l with
  | nil => exact fun _ h ↦ h
  | cons a l ih => exact fun m h ↦ ih _ (h.insert a)

end Keyed

end OrderedMap

end PipelineGraph
