import PipelineGraph.Proofs.RonText

namespace PipelineGraph.Ron

open Text

/-- A tree with at most so many values around each other, whose numbers and names are read as they
are written. Records have fields. -/
inductive Legible : Nat → Ron → Prop
  | number {n : Nat} {literal : List Char} (h : isLegibleNumber literal = true) :
      Legible n (.number literal)
  | string {n : Nat} (content : List Char) : Legible n (.string content)
  | word {n : Nat} {i : Identifier} (h : i.isLegible = true) : Legible n (.word i)
  | list {n : Nat} {items : List Ron} (h : ∀ t ∈ items, Legible n t) : Legible (n + 1) (.list items)
  | map {n : Nat} {entries : List (Ron × Ron)} (hkeys : ∀ e ∈ entries, Legible n e.1)
      (hvalues : ∀ e ∈ entries, Legible n e.2) : Legible (n + 1) (.map entries)
  | tuple {n : Nat} {name : Option Identifier} {items : List Ron}
      (hname : ∀ i ∈ name, i.isLegible = true) (h : ∀ t ∈ items, Legible n t) :
      Legible (n + 1) (.tuple name items)
  | record {n : Nat} {name : Option Identifier} {fields : List (Identifier × Ron)}
      (hname : ∀ i ∈ name, i.isLegible = true) (hne : fields ≠ [])
      (hfields : ∀ f ∈ fields, f.1.isLegible = true) (hvalues : ∀ f ∈ fields, Legible n f.2) :
      Legible (n + 1) (.record name fields)

def joinLines (depth : Nat) : List (List Char) → List Char
  | [] => []
  | text :: rest => line depth ++ text ++ ',' :: joinLines depth rest

def joinRow : List (List Char) → List Char
  | [] => []
  | [text] => text
  | text :: rest => text ++ ',' :: ' ' :: joinRow rest

theorem renderLines_eq (separate : Bool) (depth : Nat) (items : List Ron) :
    renderLines separate depth items = joinLines depth (items.map (render separate depth)) := by
  induction items with
  | nil => rfl
  | cons t items ih => simp [renderLines, joinLines, ih]

theorem renderItems_eq (separate : Bool) (depth : Nat) (items : List Ron) :
    renderItems separate depth items = joinRow (items.map (render separate depth)) := by
  induction items with
  | nil => rfl
  | cons t items ih =>
    cases items with
    | nil => simp [renderItems, joinRow]
    | cons u items =>
      rw [renderItems, ih]
      · rfl
      · exact nofun

def renderEntry (separate : Bool) (depth : Nat) (e : Ron × Ron) : List Char :=
  render separate depth e.1 ++ ':' :: ' ' :: render separate depth e.2

theorem renderEntries_eq (separate : Bool) (depth : Nat) (entries : List (Ron × Ron)) :
    renderEntries separate depth entries =
      joinLines depth (entries.map (renderEntry separate depth)) := by
  induction entries with
  | nil => rfl
  | cons e entries ih => simp [renderEntries, joinLines, renderEntry, ih]

def renderField (separate : Bool) (depth : Nat) (f : Identifier × Ron) : List Char :=
  f.1.render ++ ':' :: ' ' :: render separate depth f.2

theorem renderFields_eq (separate : Bool) (depth : Nat) (fields : List (Identifier × Ron)) :
    renderFields separate depth fields =
      joinLines depth (fields.map (renderField separate depth)) := by
  induction fields with
  | nil => rfl
  | cons f fields ih => simp [renderFields, joinLines, renderField, ih]

def closing : List Char := [')', ']', '}']

/-- The text ends here or goes on behind a value, perhaps after a gap. -/
def Ends (rest : List Char) : Prop :=
  ∃ gap tail, Gap gap ∧ FollowedBy followers tail ∧ rest = gap ++ tail

theorem ends_nil : Ends [] := ⟨[], [], .nil, followedBy_nil _, rfl⟩

theorem ends_cons {c : Char} (h : c ∈ followers) (rest : List Char) : Ends (c :: rest) :=
  ⟨[], c :: rest, .nil, followedBy_cons h rest, rfl⟩

theorem Gap.ends {gap rest : List Char} (h : Gap gap) (hrest : Ends rest) : Ends (gap ++ rest) := by
  obtain ⟨gap', tail, hgap', htail, rfl⟩ := hrest
  exact ⟨gap ++ gap', tail, h.append hgap', htail, (List.append_assoc ..).symm⟩

theorem Ends.closes {rest : List Char} (h : Ends rest) : Closes rest := by
  obtain ⟨gap, tail, hgap, htail, rfl⟩ := h
  exact hgap.closes (htail.mono (by decide))

theorem expect_eq_none {marks rest : List Char} {d : Char} (h : FollowedBy marks rest)
    (hmarks : marks.all fun c ↦ isBlank c = false ∧ c ≠ '/' ∧ c ≠ d) : expect d rest = none := by
  cases rest with
  | nil => rfl
  | cons c rest =>
    obtain ⟨hblank, hslash, hne⟩ := List.all_iff_forall_prop.1 hmarks c (h c rfl)
    exact expect_of_ne hblank hslash hne rest

theorem Ends.expect_eq_none {rest : List Char} (h : Ends rest) : expect '(' rest = none := by
  obtain ⟨gap, tail, hgap, htail, rfl⟩ := h
  rw [hgap.expect]
  exact Ron.expect_eq_none htail (by decide)

def Opens (c : Char) : Prop := isBlank c = false ∧ c ≠ '/' ∧ c ∉ '#' :: closing

instance (c : Char) : Decidable (Opens c) := inferInstanceAs (Decidable (_ ∧ _))

theorem opens_of_notMem_marks {c : Char} (h : c ∉ marks) : Opens c := by
  simp only [marks, List.mem_cons, List.not_mem_nil, or_false, not_or] at h
  simp [Opens, closing, isBlank, h]

theorem notMem_brackets {c : Char} (h : c ∉ marks) : c ∉ ['(', '[', '{'] := by
  have hsub : ['(', '[', '{'] ⊆ marks := by decide
  exact fun hc ↦ h (hsub hc)

theorem gap_blank : Gap [' '] := .blank (by decide) .nil

section Sequence

variable {α : Type} {item : Reader α} {spells : List Char → α → Prop} {write : α → List Char}
  {close : Char} {xs : List α} {x : α} {text gap cs ds : List Char}

/-- A text stands for an item wherever a value may end. -/
structure Reads (item : Reader α) (text : List Char) (x : α) : Prop where
  opens : ∃ c cs, text = c :: cs ∧ Opens c
  reads : ∀ rest, Ends rest → item (text ++ rest) = some (x, rest)

/-- A text lists these items, each as it may be spelled, with gaps around them, commas between them
and perhaps one behind the last. -/
inductive Listed (spells : List Char → α → Prop) : List Char → List α → Prop
  | nil {gap : List Char} (hgap : Gap gap) : Listed spells gap []
  | single {before text after : List Char} {x : α} (hbefore : Gap before) (h : spells text x)
      (hafter : Gap after) : Listed spells (before ++ (text ++ after)) [x]
  | cons {before text after rest : List Char} {x : α} {xs : List α} (hbefore : Gap before)
      (h : spells text x) (hafter : Gap after) (hrest : Listed spells rest xs) :
      Listed spells (before ++ (text ++ (after ++ ',' :: rest))) (x :: xs)

theorem Listed.gap_append (hgap : Gap gap) (h : Listed spells text xs) :
    Listed spells (gap ++ text) xs := by
  cases h with
  | nil h => exact .nil (hgap.append h)
  | single hbefore h hafter =>
    rw [← List.append_assoc]
    exact .single (hgap.append hbefore) h hafter
  | cons hbefore h hafter hrest =>
    rw [← List.append_assoc]
    exact .cons (hgap.append hbefore) h hafter hrest

theorem Listed.length_le (h : Listed spells text xs) : xs.length ≤ text.length + 1 := by
  induction h with
  | nil => exact Nat.zero_le _
  | single => exact Nat.succ_le_succ (Nat.zero_le _)
  | cons _ _ _ _ ih =>
    simp only [List.length_append, List.length_cons]
    omega

theorem sepBy_congr (h : skipBlanks cs = skipBlanks ds) (fuel : Nat) :
    sepBy item close fuel cs = sepBy item close fuel ds := by
  cases fuel with
  | zero => rfl
  | succ fuel => rw [sepBy, sepBy, h]

theorem solid_of_closing (h : close ∈ closing) : isBlank close = false ∧ close ≠ '/' := by
  have hclosing : ∀ c ∈ closing, isBlank c = false ∧ c ≠ '/' :=
    List.all_iff_forall_prop.1 (by decide)
  exact hclosing close h

theorem sepBy_close (hblank : isBlank close = false) (hslash : close ≠ '/') (fuel : Nat)
    (rest : List Char) : sepBy item close (fuel + 1) (close :: rest) = some ([], rest) := by
  rw [sepBy, skipBlanks_cons hblank hslash]
  simp

theorem sepBy_item (h : Reads item text x) (hclose : close ∈ closing) (hgap : Gap gap)
    (fuel : Nat) (rest : List Char) :
    sepBy item close (fuel + 1) (text ++ (gap ++ ',' :: rest)) =
      (sepBy item close fuel rest).bind fun r ↦ some (x :: r.1, r.2) := by
  have hread := h.reads _ (hgap.ends (ends_cons (show ',' ∈ followers by decide) rest))
  obtain ⟨c, cs, rfl, hblank, hslash, hc⟩ := h.opens
  have hne : c ≠ close := by
    rintro rfl
    exact hc (List.mem_cons_of_mem _ hclose)
  rw [List.cons_append] at hread ⊢
  rw [sepBy, skipBlanks_cons hblank hslash]
  simp [hne, hread, hgap.skipBlanks, skipBlanks_cons (show isBlank ',' = false by decide)]

theorem sepBy_last (h : Reads item text x) (hclose : close ∈ closing) (hgap : Gap gap)
    (fuel : Nat) (rest : List Char) :
    sepBy item close (fuel + 1) (text ++ (gap ++ close :: rest)) = some ([x], rest) := by
  have hsub : closing ⊆ followers := by decide
  have hcomma : close ≠ ',' := by
    rintro rfl
    exact absurd hclose (by decide)
  have hread := h.reads _ (hgap.ends (ends_cons (hsub hclose) rest))
  obtain ⟨hblank', hslash'⟩ := solid_of_closing hclose
  obtain ⟨c, cs, rfl, hblank, hslash, hc⟩ := h.opens
  have hne : c ≠ close := by
    rintro rfl
    exact hc (List.mem_cons_of_mem _ hclose)
  rw [List.cons_append] at hread ⊢
  rw [sepBy, skipBlanks_cons hblank hslash]
  simp [hne, hcomma, hread, hgap.skipBlanks, skipBlanks_cons hblank' hslash']

theorem sepBy_listed (hclose : close ∈ closing) (h : Listed spells text xs)
    (hreads : ∀ x ∈ xs, ∀ text, spells text x → Reads item text x) {fuel : Nat}
    (hfuel : xs.length < fuel) (rest : List Char) :
    sepBy item close fuel (text ++ close :: rest) = some (xs, rest) := by
  obtain ⟨hblank, hslash⟩ := solid_of_closing hclose
  induction h generalizing fuel with
  | nil hgap =>
    obtain ⟨fuel, rfl⟩ := Nat.exists_eq_add_one_of_ne_zero (show fuel ≠ 0 by omega)
    rw [sepBy_congr (hgap.skipBlanks _), sepBy_close hblank hslash]
  | single hbefore hx hafter =>
    obtain ⟨fuel, rfl⟩ := Nat.exists_eq_add_one_of_ne_zero (show fuel ≠ 0 by omega)
    rw [List.append_assoc, sepBy_congr (hbefore.skipBlanks _), List.append_assoc,
      sepBy_last (hreads _ List.mem_cons_self _ hx) hclose hafter]
  | cons hbefore hx hafter _ ih =>
    obtain ⟨fuel, rfl⟩ := Nat.exists_eq_add_one_of_ne_zero (show fuel ≠ 0 by omega)
    obtain ⟨hread, hlater⟩ := List.forall_mem_cons.1 hreads
    rw [List.append_assoc, sepBy_congr (hbefore.skipBlanks _), List.append_assoc,
      List.append_assoc, List.cons_append, sepBy_item (hread _ hx) hclose hafter,
      ih hlater (Nat.lt_of_succ_lt_succ hfuel), Option.bind_some]

theorem enclosed_listed (hclose : close ∈ closing) (h : Listed spells text xs)
    (hreads : ∀ x ∈ xs, ∀ text, spells text x → Reads item text x) (rest : List Char) :
    enclosed item close (text ++ close :: rest) = some (xs, rest) := by
  refine sepBy_listed hclose h hreads ?_ rest
  have hlength := h.length_le
  rw [List.length_append, List.length_cons]
  omega

theorem listed_joinLines (hwrite : ∀ x ∈ xs, spells (write x) x) (inner outer : Nat) :
    Listed spells (joinLines inner (xs.map write) ++ line outer) xs := by
  induction xs with
  | nil => exact .nil (gap_line outer)
  | cons x xs ih =>
    obtain ⟨hx, hxs⟩ := List.forall_mem_cons.1 hwrite
    have hlisted := Listed.cons (gap_line inner) hx .nil (ih hxs)
    simpa [joinLines] using hlisted

theorem listed_joinRow (hwrite : ∀ x ∈ xs, spells (write x) x) :
    Listed spells (joinRow (xs.map write)) xs := by
  induction xs with
  | nil => exact .nil .nil
  | cons x xs ih =>
    obtain ⟨hx, hxs⟩ := List.forall_mem_cons.1 hwrite
    cases xs with
    | nil => simpa [joinRow] using Listed.single .nil hx .nil
    | cons y ys =>
      have hlisted := Listed.cons .nil hx .nil ((ih hxs).gap_append gap_blank)
      simpa [joinRow] using hlisted

inductive Paired {β : Type} (spells : List Char → α → Prop) (spells' : List Char → β → Prop) :
    List Char → α × β → Prop
  | mk {text before after text' : List Char} {x : α} {y : β} (h : spells text x)
      (hbefore : Gap before) (hafter : Gap after) (h' : spells' text' y) :
      Paired spells spells' (text ++ (before ++ ':' :: (after ++ text'))) (x, y)

end Sequence

inductive SpellsName : List Char → Identifier → Prop
  | render (i : Identifier) : SpellsName i.render i

/-- A text spells a tree: it differs from what is written for the tree at most in the gaps between
tokens and in commas behind last items. -/
inductive Spells : List Char → Ron → Prop
  | number (literal : List Char) : Spells literal (.number literal)
  | string (content : List Char) : Spells (quoted content) (.string content)
  | word (i : Identifier) : Spells i.render (.word i)
  | list {text : List Char} {items : List Ron} (h : Listed Spells text items) :
      Spells ('[' :: (text ++ [']'])) (.list items)
  | map {text : List Char} {entries : List (Ron × Ron)}
      (h : Listed (Paired Spells Spells) text entries) :
      Spells ('{' :: (text ++ ['}'])) (.map entries)
  | tuple {text : List Char} {items : List Ron} (name : Option Identifier)
      (h : Listed Spells text items) :
      Spells (optionalName name ++ '(' :: (text ++ [')'])) (.tuple name items)
  | record {text : List Char} {fields : List (Identifier × Ron)} (name : Option Identifier)
      (h : Listed (Paired SpellsName Spells) text fields) :
      Spells (optionalName name ++ '(' :: (text ++ [')'])) (.record name fields)

section Values

variable {n : Nat} {t : Ron} {i : Identifier} {text gap cs rest : List Char}

theorem opens_render_identifier (h : i.isLegible = true) :
    ∃ c cs, i.render = c :: cs ∧ Opens c ∧ c ∉ ['(', '[', '{'] := by
  obtain ⟨c, cs, hcs, hstart⟩ := Identifier.exists_cons h
  have hmarks := notMem_marks_of_isIdentifierStart hstart
  exact ⟨c, cs, hcs, opens_of_notMem_marks hmarks, notMem_brackets hmarks⟩

theorem opens_number {literal : List Char} (h : isLegibleNumber literal = true) :
    ∃ c cs, literal = c :: cs ∧ isNumberStart c = true ∧ Opens c ∧ c ∉ ['(', '[', '{'] := by
  simp only [isLegibleNumber, Bool.and_eq_true] at h
  cases literal with
  | nil => cases h.1.1
  | cons c cs =>
    have hmarks := notMem_marks_of_isNumberStart h.1.1
    exact ⟨c, cs, rfl, h.1.1, opens_of_notMem_marks hmarks, notMem_brackets hmarks⟩

theorem opens_optionalName {name : Option Identifier} (hname : ∀ i ∈ name, i.isLegible = true)
    (cs : List Char) : ∃ c ds, optionalName name ++ '(' :: cs = c :: ds ∧ Opens c := by
  cases name with
  | none => exact ⟨'(', cs, rfl, by decide⟩
  | some i =>
    obtain ⟨c, ds, hcs, hopens, -⟩ := opens_render_identifier (hname i rfl)
    exact ⟨c, _, by rw [optionalName, hcs]; rfl, hopens⟩

theorem Spells.opens (h : Spells text t) (hlegible : Legible n t) :
    ∃ c cs, text = c :: cs ∧ Opens c := by
  cases h with
  | number =>
    cases hlegible with
    | number hlegible =>
      obtain ⟨c, cs, hcs, -, hopens, -⟩ := opens_number hlegible
      exact ⟨c, cs, hcs, hopens⟩
  | string => exact ⟨'"', _, rfl, by decide⟩
  | word =>
    cases hlegible with
    | word hlegible =>
      obtain ⟨c, cs, hcs, hopens, -⟩ := opens_render_identifier hlegible
      exact ⟨c, cs, hcs, hopens⟩
  | list => exact ⟨'[', _, rfl, by decide⟩
  | map => exact ⟨'{', _, rfl, by decide⟩
  | tuple =>
    cases hlegible with
    | tuple hname => exact opens_optionalName hname _
  | record =>
    cases hlegible with
    | record hname => exact opens_optionalName hname _

theorem scanIdentifier_eq_none {c : Char} (h : isIdentifierStart c = false) (cs : List Char) :
    scanIdentifier (c :: cs) = none := by
  unfold scanIdentifier
  split
  · rfl
  · split
    · rename_i heq
      cases heq
      exact absurd h (by decide)
    · rename_i heq
      cases heq
      rw [h, if_neg Bool.false_ne_true]
    · rfl

theorem Gap.startsField (h : Gap gap) (cs : List Char) :
    Ron.startsField (gap ++ cs) = Ron.startsField cs := by
  rw [Ron.startsField, Ron.startsField, h.skipBlanks]

theorem startsField_render_identifier (h : i.isLegible = true) (hrest : Closes rest) :
    startsField (i.render ++ rest) = (expect ':' rest).isSome := by
  have hscan := (scanIdentifier_render h hrest).2
  obtain ⟨c, cs, hcs, ⟨hblank, hslash, -⟩, -⟩ := opens_render_identifier h
  rw [hcs, List.cons_append] at hscan ⊢
  rw [startsField, skipBlanks_cons hblank hslash, Option.bind_some, hscan]

theorem startsField_of_not {c : Char} (hblank : isBlank c = false) (hslash : c ≠ '/')
    (h : isIdentifierStart c = false) (cs : List Char) : startsField (c :: cs) = false := by
  rw [startsField, skipBlanks_cons hblank hslash, Option.bind_some, scanIdentifier_eq_none h]

theorem startsField_optionalName {name : Option Identifier}
    (hname : ∀ i ∈ name, i.isLegible = true) (cs : List Char) :
    startsField (optionalName name ++ '(' :: cs) = false := by
  cases name with
  | none => exact startsField_of_not (by decide) (by decide) (by decide) _
  | some i =>
    have hcloses : Closes ('(' :: cs) := followedBy_cons (by decide) _
    rw [optionalName, startsField_render_identifier (hname i rfl) hcloses,
      expect_of_ne (by decide) (by decide) (by decide)]
    rfl

theorem Spells.startsField (h : Spells text t) (hlegible : Legible n t) (hgap : Gap gap)
    (hrest : FollowedBy [',', ')'] rest) : Ron.startsField (text ++ (gap ++ rest)) = false := by
  cases h with
  | number =>
    cases hlegible with
    | number hlegible =>
      obtain ⟨c, cs, rfl, hstart, hopens, -⟩ := opens_number hlegible
      have hidentifier : isIdentifierStart c = false := by
        cases hc : isIdentifierStart c with
        | false => rfl
        | true =>
          rw [isNumberStart_eq_false hc] at hstart
          cases hstart
      exact startsField_of_not hopens.1 hopens.2.1 hidentifier _
  | string => exact startsField_of_not (by decide) (by decide) (by decide) _
  | word =>
    cases hlegible with
    | word hlegible =>
      have hcloses : Closes (gap ++ rest) := hgap.closes (hrest.mono (by decide))
      have hcolon : expect ':' rest = none := expect_eq_none hrest (by decide)
      rw [startsField_render_identifier hlegible hcloses, hgap.expect, hcolon]
      rfl
  | list => exact startsField_of_not (by decide) (by decide) (by decide) _
  | map => exact startsField_of_not (by decide) (by decide) (by decide) _
  | tuple =>
    cases hlegible with
    | tuple hname =>
      rw [List.append_assoc, List.cons_append]
      exact startsField_optionalName hname _
  | record =>
    cases hlegible with
    | record hname =>
      rw [List.append_assoc, List.cons_append]
      exact startsField_optionalName hname _

/-- The items of a tuple are not taken for fields. -/
theorem startsField_items {items : List Ron} (h : Listed Spells text items)
    (hlegible : ∀ t ∈ items, Legible n t) (rest : List Char) :
    startsField (text ++ ')' :: rest) = false := by
  cases h with
  | nil hgap =>
    rw [hgap.startsField]
    exact startsField_of_not (by decide) (by decide) (by decide) rest
  | single hbefore h hafter =>
    have ht := hlegible _ List.mem_cons_self
    rw [List.append_assoc, List.append_assoc, hbefore.startsField]
    exact h.startsField ht hafter (followedBy_cons (by decide) _)
  | cons hbefore h hafter =>
    have ht := hlegible _ List.mem_cons_self
    rw [List.append_assoc, List.append_assoc, List.append_assoc, hbefore.startsField]
    exact h.startsField ht hafter (followedBy_cons (by decide) _)

theorem expect_colon (cs : List Char) : expect ':' (':' :: cs) = some cs :=
  expect_self (by decide) (by decide) cs

theorem Paired.startsField {spells : List Char → Ron → Prop} {f : Identifier × Ron}
    (h : Paired SpellsName spells text f) (hname : f.1.isLegible = true)
    (rest : List Char) : Ron.startsField (text ++ rest) = true := by
  cases h with
  | mk htext hbefore =>
    cases htext
    rw [List.append_assoc, startsField_render_identifier hname, List.append_assoc, hbefore.expect,
      List.cons_append, expect_colon]
    · rfl
    · rw [List.append_assoc]
      exact hbefore.closes (followedBy_cons (by decide) _)

theorem startsField_fields {fields : List (Identifier × Ron)} {spells : List Char → Ron → Prop}
    (h : Listed (Paired SpellsName spells) text fields) (hne : fields ≠ [])
    (hnames : ∀ f ∈ fields, f.1.isLegible = true) (rest : List Char) :
    startsField (text ++ rest) = true := by
  cases h with
  | nil => exact absurd rfl hne
  | single hbefore h | cons hbefore h =>
    rw [List.append_assoc, hbefore.startsField, List.append_assoc]
    exact h.startsField (hnames _ List.mem_cons_self) _

theorem value_of_scanAtom {c : Char} (hc : c ∉ ['(', '[', '{'])
    (hscan : scanAtom (c :: cs) = some (t, rest)) (hrest : expect '(' rest = none) (n : Nat) :
    value n (c :: cs) = some (t, rest) := by
  cases n with
  | zero => rw [value, hscan]
  | succ n =>
    simp only [List.mem_cons, List.not_mem_nil, or_false, not_or] at hc
    simp [value, hc, hscan, hrest]

theorem value_parenthesized {name : Option Identifier} (hname : ∀ i ∈ name, i.isLegible = true)
    (n : Nat) (cs : List Char) :
    value (n + 1) (optionalName name ++ '(' :: cs) = parenthesized name (value n) cs := by
  cases name with
  | none => rfl
  | some i =>
    have hcloses : Closes ('(' :: cs) := followedBy_cons (by decide) _
    have hscan := scanAtom_word (hname i rfl) hcloses
    obtain ⟨c, ds, hcs, -, hc⟩ := opens_render_identifier (hname i rfl)
    simp only [List.mem_cons, List.not_mem_nil, or_false, not_or] at hc
    rw [optionalName]
    rw [hcs, List.cons_append] at hscan ⊢
    have hexpect : expect '(' ('(' :: cs) = some cs := expect_self (by decide) (by decide) cs
    simp [value, hc, hscan, hexpect]

theorem Reads.skipBlanks {α : Type} {item : Reader α} {x : α} (h : Reads item text x)
    (hgap : Gap gap) (rest : List Char) :
    Ron.skipBlanks (gap ++ (text ++ rest)) = some (text ++ rest) := by
  obtain ⟨c, cs, rfl, hblank, hslash, -⟩ := h.opens
  rw [hgap.skipBlanks, List.cons_append, skipBlanks_cons hblank hslash]

theorem Paired.reads_field {value : Reader Ron} {f : Identifier × Ron}
    (h : Paired SpellsName Spells text f) (hname : f.1.isLegible = true)
    (hvalue : ∀ text, Spells text f.2 → Reads value text f.2) : Reads (field value) text f := by
  cases h with
  | @mk _ before after text i t htext hbefore hafter ht =>
    cases htext
    have hread := hvalue _ ht
    constructor
    · obtain ⟨c, cs, hcs, hopens, -⟩ := opens_render_identifier hname
      exact ⟨c, _, by rw [hcs]; rfl, hopens⟩
    · intro rest hrest
      have hcloses : Closes (before ++ ':' :: (after ++ (text ++ rest))) :=
        hbefore.closes (followedBy_cons (by decide) _)
      have htext : i.render ++ (before ++ ':' :: (after ++ text)) ++ rest =
          i.render ++ (before ++ ':' :: (after ++ (text ++ rest))) := by
        simp
      rw [htext, field, (scanIdentifier_render hname hcloses).2]
      simp [hbefore.expect, expect_colon, hread.skipBlanks hafter, hread.reads rest hrest]

theorem Paired.reads_entry {value : Reader Ron} {e : Ron × Ron} (h : Paired Spells Spells text e)
    (hkey : ∀ text, Spells text e.1 → Reads value text e.1)
    (hvalue : ∀ text, Spells text e.2 → Reads value text e.2) : Reads (entry value) text e := by
  cases h with
  | @mk key before after text k t hk hbefore hafter ht =>
    have hkey := hkey _ hk
    have hread := hvalue _ ht
    constructor
    · obtain ⟨c, cs, hcs, hopens⟩ := hkey.opens
      exact ⟨c, _, by rw [hcs]; rfl, hopens⟩
    · intro rest hrest
      have hends : Ends (before ++ ':' :: (after ++ (text ++ rest))) :=
        hbefore.ends (ends_cons (by decide) _)
      have htext : key ++ (before ++ ':' :: (after ++ text)) ++ rest =
          key ++ (before ++ ':' :: (after ++ (text ++ rest))) := by
        simp
      rw [htext, entry, hkey.reads _ hends]
      simp [hbefore.expect, expect_colon, hread.skipBlanks hafter, hread.reads rest hrest]

/-- A text that spells a tree is read as that tree, whatever comes after it. -/
theorem Spells.reads (hlegible : Legible n t) (h : Spells text t) : Reads (value n) text t := by
  refine ⟨h.opens hlegible, ?_⟩
  induction hlegible generalizing text with
  | number hlegible =>
    cases h
    intro rest hrest
    have hscan := scanAtom_number hlegible hrest.closes
    have hparen := hrest.expect_eq_none
    obtain ⟨c, cs, rfl, -, -, hc⟩ := opens_number hlegible
    exact value_of_scanAtom hc hscan hparen _
  | string content =>
    cases h
    intro rest hrest
    have hparen := hrest.expect_eq_none
    exact value_of_scanAtom (by decide) (scanAtom_string content rest) hparen _
  | @word _ i hlegible =>
    cases h
    intro rest hrest
    have hscan := scanAtom_word hlegible hrest.closes
    have hparen := hrest.expect_eq_none
    obtain ⟨c, cs, hcs, -, hc⟩ := opens_render_identifier hlegible
    rw [hcs] at hscan ⊢
    exact value_of_scanAtom hc hscan hparen _
  | list hlegible ih =>
    cases h with
    | list h =>
      intro rest hrest
      have hclose : ']' ∈ closing := by decide
      have hread := enclosed_listed hclose h
        (fun t ht _ htext ↦ ⟨htext.opens (hlegible t ht), ih t ht htext⟩) rest
      rw [List.cons_append, List.append_assoc, List.singleton_append, value, hread, Option.map_some]
  | map hkeys hvalues ihkeys ihvalues =>
    cases h with
    | map h =>
      intro rest hrest
      have hclose : '}' ∈ closing := by decide
      have hread := enclosed_listed hclose h (fun e he _ htext ↦ htext.reads_entry
        (fun _ hk ↦ ⟨hk.opens (hkeys e he), ihkeys e he hk⟩)
        (fun _ ht ↦ ⟨ht.opens (hvalues e he), ihvalues e he ht⟩)) rest
      rw [List.cons_append, List.append_assoc, List.singleton_append, value, hread, Option.map_some]
  | tuple hname hlegible ih =>
    cases h with
    | tuple _ h =>
      intro rest hrest
      have hclose : ')' ∈ closing := by decide
      have hread := enclosed_listed hclose h
        (fun t ht _ htext ↦ ⟨htext.opens (hlegible t ht), ih t ht htext⟩) rest
      have hitems := startsField_items h hlegible rest
      rw [List.append_assoc, List.cons_append, value_parenthesized hname, List.append_assoc,
        List.singleton_append, parenthesized, hitems, hread]
      rfl
  | record hname hne hfields hvalues ih =>
    cases h with
    | record _ h =>
      intro rest hrest
      have hclose : ')' ∈ closing := by decide
      have hread := enclosed_listed hclose h (fun f hf _ htext ↦ htext.reads_field (hfields f hf)
        (fun _ ht ↦ ⟨ht.opens (hvalues f hf), ih f hf ht⟩)) rest
      have hstarts := startsField_fields h hne hfields (')' :: rest)
      rw [List.append_assoc, List.cons_append, value_parenthesized hname, List.append_assoc,
        List.singleton_append, parenthesized, hstarts, hread]
      rfl

theorem Spells.tuple_nil {name : Option Identifier} (h : Spells text (.record name [])) :
    Spells text (.tuple name []) := by
  cases h with
  | record _ h =>
    cases h with
    | nil hgap => exact .tuple name (.nil hgap)

/-- The text of a tree spells it. -/
theorem spells_render (h : Legible n t) (separate : Bool) (depth : Nat) :
    Spells (render separate depth t) t := by
  induction h generalizing depth with
  | number => exact .number _
  | string => exact .string _
  | word => exact .word _
  | @list _ items _ ih =>
    cases items with
    | nil => exact .list (.nil .nil)
    | cons t items =>
      have hlisted := listed_joinLines (fun t ht ↦ ih t ht (depth + 1)) (depth + 1) depth
      rw [render, renderLines_eq]
      · exact .list hlisted
      · exact nofun
  | @map _ entries _ _ ihkeys ihvalues =>
    cases entries with
    | nil => exact .map (.nil .nil)
    | cons e entries =>
      have hentry : ∀ f ∈ e :: entries,
          Paired Spells Spells (renderEntry separate (depth + 1) f) f :=
        fun f hf ↦ .mk (ihkeys f hf (depth + 1)) .nil gap_blank (ihvalues f hf (depth + 1))
      have hlisted := listed_joinLines hentry (depth + 1) depth
      rw [render, renderEntries_eq]
      · exact .map hlisted
      · exact nofun
  | tuple _ _ ih =>
    rw [render, renderLines_eq, renderItems_eq]
    split
    · exact .tuple _ (listed_joinLines (fun t ht ↦ ih t ht (depth + 1)) (depth + 1) depth)
    · exact .tuple _ (listed_joinRow fun t ht ↦ ih t ht depth)
  | @record _ _ fields _ hne _ _ ih =>
    have hfield : ∀ f ∈ fields, Paired SpellsName Spells (renderField separate (depth + 1) f) f :=
      fun f hf ↦ .mk (.render f.1) .nil gap_blank (ih f hf (depth + 1))
    have hlisted := listed_joinLines hfield (depth + 1) depth
    rw [render, renderFields_eq]
    · exact .record _ hlisted
    · exact hne

end Values

/-- A text holds the tree that it spells between gaps, and asks for no variant of the notation. -/
theorem parse?_spells {t : Ron} {before text after : List Char} (hlegible : Legible nestingLimit t)
    (hbefore : Gap before) (h : Spells text t) (hafter : Gap after) :
    parse? (String.ofList (before ++ (text ++ after))) = some ({}, t) := by
  have hends : Ends after := by simpa using hafter.ends ends_nil
  have hread := (h.reads hlegible).reads after hends
  have hend : skipBlanks after = some [] := by simpa [skipBlanks_nil] using hafter.skipBlanks []
  obtain ⟨c, cs, rfl, hblank, hslash, hc⟩ := h.opens hlegible
  have hattribute : c ≠ '#' := by
    rintro rfl
    exact hc (by decide)
  rw [List.cons_append] at hread ⊢
  rw [parse?, String.toList_ofList, parseChars?, scanExtensions, hbefore.skipBlanks,
    skipBlanks_cons hblank hslash]
  simp [hattribute, skipBlanks_cons hblank hslash, hread, hend]

theorem parse?_render {t : Ron} (h : Legible nestingLimit t) (separate : Bool) :
    parse? (String.ofList (t.render separate 0)) = some ({}, t) := by
  simpa using parse?_spells h .nil (spells_render h separate 0) .nil

end PipelineGraph.Ron
