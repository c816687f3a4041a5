import PipelineGraph.CommandLine.Files
import PipelineGraph.Proofs.OrderedMap

namespace PipelineGraph.CommandLine

/-- Files as they are stored. Several paths may lead to one place, and what is at a place need not
be a text that can be read. -/
structure FileStore where
  State : Type
  Place : Type
  Entry : Type
  place : State → String → Option Place
  entry : State → Place → Option Entry
  text? : Entry → Option String

namespace FileStore

variable (fs : FileStore)

def read? (s : fs.State) (path : String) : Option String := do
  fs.text? (← fs.entry s (← fs.place s path))

/-- A text has been put where a path leads, and nothing has changed at any other place. -/
structure Overwritten (s : fs.State) (path text : String) (s' : fs.State) : Prop where
  place_eq : fs.place s' = fs.place s
  written : ∃ p e, fs.place s path = some p ∧ fs.entry s' p = some e ∧ fs.text? e = some text
  frame : ∀ p, fs.place s path ≠ some p → fs.entry s' p = fs.entry s p

variable {fs} {s s' : fs.State} {path path' text : String}

theorem Overwritten.read?_self (h : fs.Overwritten s path text s') :
    fs.read? s' path = some text := by
  obtain ⟨p, e, hplace, hentry, htext⟩ := h.written
  simp [read?, h.place_eq, hplace, hentry, htext]

theorem Overwritten.read?_of_ne (h : fs.Overwritten s path text s')
    (hne : fs.place s path' ≠ fs.place s path) : fs.read? s' path' = fs.read? s path' := by
  rw [read?, read?, h.place_eq]
  cases hplace : fs.place s path' with
  | none => rfl
  | some p =>
    have hframe : fs.entry s' p = fs.entry s p := h.frame p fun hp ↦ hne (hplace.trans hp.symm)
    simp only [Option.bind_eq_bind, Option.bind_some, hframe]

end FileStore

/-- Access to stored files: reading changes nothing, and writing succeeds or has no effect. -/
structure FileSystem extends FileStore where
  access : FileAccess (StateM State)
  occupied : State → String → Bool
  read_eq : ∀ path s, (access.read path).run s = (toFileStore.read? s path, s)
  occupied_eq : ∀ path s, (access.occupied path).run s = (occupied s path, s)
  occupied_of_entry : ∀ {s path p}, place s path = some p → (entry s p).isSome = true →
    occupied s path = true
  write_eq : ∀ path text s, (access.write path text).run s = (false, s) ∨
    ∃ s', (access.write path text).run s = (true, s') ∧ toFileStore.Overwritten s path text s'

def FileSystem.Accepts (fs : FileSystem) (s : fs.State) (path text : String) : Prop :=
  ((fs.access.write path text).run s).1 = true

namespace Directory

variable {d d' : Directory} {location l : List String}

theorem isFolder_iff : d.isFolder l = true ↔
    l = [] ∨ ∃ key ∈ d.files.keys, l.length < key.length ∧ key.take l.length = l := by
  simp [isFolder]

/-- Whatever a folder is in is a folder. -/
theorem isFolder_mono (h : d.isFolder l = true) (hle : location <+: l) :
    d.isFolder location = true := by
  rcases isFolder_iff.1 h with rfl | ⟨key, hkey, hlen, htake⟩
  · rwa [List.prefix_nil.1 hle]
  · refine isFolder_iff.2 (.inr ⟨key, hkey, Nat.lt_of_le_of_lt hle.length_le hlen, ?_⟩)
    rw [List.prefix_iff_eq_take.1 hle, ← htake, List.take_take, List.length_take]
    have hle := hle.length_le
    congr 1
    omega

theorem isFolder_of_follow {parts : List String} (h : d.follow location parts = some l)
    (hfolder : d.isFolder location.dropLast = true) : d.isFolder l.dropLast = true := by
  induction parts generalizing location with
  | nil =>
    cases h
    exact hfolder
  | cons part parts ih =>
    rw [follow] at h
    cases hlocation : d.isFolder location with
    | false => simp [hlocation] at h
    | true =>
      simp only [hlocation, Bool.not_true, Bool.false_eq_true, if_false] at h
      split at h
      · exact ih h hfolder
      · split at h
        · split at h
          · cases h
          · exact ih h (isFolder_mono hfolder (List.dropLast_prefix _))
        · refine ih h ?_
          rwa [List.dropLast_concat]

theorem follow_congr (h : d'.isFolder = d.isFolder) (parts : List String) :
    d'.follow location parts = d.follow location parts := by
  induction parts generalizing location with
  | nil => rfl
  | cons part parts ih => simp only [follow, h, ih]

theorem locate_congr (h : d'.isFolder = d.isFolder) : d'.locate = d.locate := by
  funext path
  simp only [locate, follow_congr h]

theorem isFolder_of_locate {path : String} (h : d.locate path = some l) :
    d.isFolder l.dropLast = true := by
  rw [locate] at h
  split at h
  · cases h
  · exact isFolder_of_follow h rfl

theorem isFolder_insert (hfolder : d.isFolder l.dropLast = true) (hl : d.isFolder l = false)
    (text : String) : (Directory.mk (d.files.insert l text)).isFolder = d.isFolder := by
  have hkeys : ∀ key, key ∈ (d.files.insert l text).keys ↔ key ∈ d.files.keys ∨ key = l :=
    fun key ↦ OrderedMap.mem_insert
  funext x
  rw [Bool.eq_iff_iff, isFolder_iff, isFolder_iff]
  constructor
  · rintro (rfl | ⟨key, hkey, hlen, htake⟩)
    · exact .inl rfl
    rcases (hkeys key).1 hkey with hkey | rfl
    · exact .inr ⟨key, hkey, hlen, htake⟩
    · have hle : x <+: key.dropLast := by
        rw [List.dropLast_eq_take, List.prefix_iff_eq_take, List.take_take,
          Nat.min_eq_left (by omega), htake]
      exact isFolder_iff.1 (isFolder_mono hfolder hle)
  · rintro (rfl | ⟨key, hkey, hlen, htake⟩)
    · exact .inl rfl
    · exact .inr ⟨key, (hkeys key).2 (.inl hkey), hlen, htake⟩

def store : FileStore where
  State := Directory
  Place := List String
  Entry := String
  place := locate
  entry d l := d.files.get? l
  text? := some

theorem overwritten_write {path text : String} (hlocate : d.locate path = some l)
    (hl : d.isFolder l = false) :
    store.Overwritten d path text ⟨d.files.insert l text⟩ := by
  refine ⟨locate_congr (isFolder_insert (isFolder_of_locate hlocate) hl text), ?_, ?_⟩
  · exact ⟨l, text, hlocate, (OrderedMap.get?_insert ..).trans (if_pos rfl), rfl⟩
  · intro p hp
    refine (OrderedMap.get?_insert ..).trans (if_neg ?_)
    rintro rfl
    exact hp hlocate

theorem read?_store (d : Directory) (path : String) : store.read? d path = d.read path := by
  change ((d.locate path).bind fun l ↦ (d.files.get? l).bind some) = d.read path
  simp only [Option.bind_fun_some, read, Option.bind_eq_bind]

theorem occupied_of_get? {path : String} (hlocate : d.locate path = some l)
    (h : (d.files.get? l).isSome = true) : d.occupied path = true := by
  obtain ⟨text, htext⟩ := Option.isSome_iff_exists.1 h
  have hmem : l ∈ d.files :=
    OrderedMap.mem_iff_exists_entry.2 ⟨text, OrderedMap.get?_eq_some_iff.1 htext⟩
  simp [occupied, hlocate, hmem]

theorem write_spec (d : Directory) (path text : String) : d.write path text = (false, d) ∨
    ∃ d', d.write path text = (true, d') ∧ store.Overwritten d path text d' := by
  rw [write]
  cases hlocate : d.locate path with
  | none => exact .inl rfl
  | some l =>
    cases hl : d.isFolder l with
    | true => exact .inl (if_pos hl)
    | false =>
      refine .inr ⟨_, if_neg ?_, overwritten_write hlocate hl⟩
      rw [hl]
      exact Bool.false_ne_true

def fileSystem : FileSystem where
  toFileStore := store
  access := access
  occupied := occupied
  read_eq path d := Prod.ext (read?_store d path).symm rfl
  occupied_eq _ _ := rfl
  occupied_of_entry := occupied_of_get?
  write_eq path text d := write_spec d path text

end Directory

end PipelineGraph.CommandLine
