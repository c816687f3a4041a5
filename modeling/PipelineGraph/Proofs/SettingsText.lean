import PipelineGraph.Proofs.RonDocument
import PipelineGraph.Settings.Text

namespace PipelineGraph

open Ron

theorem Ron.spells_ofFloat32 (x : Float32) :
    Spells (Number.numberText numberStyle x) (ofFloat32 x) := by
  rw [ofFloat32]
  split
  · exact .number _
  · exact .word ⟨_, false⟩

theorem Record.lookup_map {κ τ : Type} [DecidableEq κ] {name : κ → String}
    (hname : Function.Injective name) (value : κ → τ) (chosen : List κ) (f : κ) :
    (chosen.map fun f ↦ (name f, value f)).lookup (name f) =
      if f ∈ chosen then some (value f) else none := by
  induction chosen with
  | nil => rfl
  | cons g chosen ih =>
    rw [List.map_cons, List.lookup_cons]
    by_cases hfg : f = g
    · subst hfg
      simp
    · have hne : (name f == name g) = false := beq_eq_false_iff_ne.2 (hname.ne hfg)
      rw [hne, ih]
      simp [hfg]

namespace Settings

inductive Field where
  | pasteOffset
  | nodeHeight
  | dragThreshold
  | startName
  | startPosition
  | startWidth
  | functionWidth
deriving DecidableEq

namespace Field

def all : List Field :=
  [.pasteOffset, .nodeHeight, .dragThreshold, .startName, .startPosition, .startWidth,
    .functionWidth]

def name : Field → String
  | .pasteOffset => "paste_offset"
  | .nodeHeight => "fallback_node_height"
  | .dragThreshold => "drag_threshold"
  | .startName => "start_node_name"
  | .startPosition => "start_node_position"
  | .startWidth => "start_node_width"
  | .functionWidth => "function_node_width"

def toRon (s : Settings) : Field → Ron
  | .pasteOffset => s.pasteOffset.toRon
  | .nodeHeight => .ofFloat32 s.nodeHeight
  | .dragThreshold => .ofFloat32 s.dragThreshold
  | .startName => .ofString s.startName
  | .startPosition => s.startPosition.toRon
  | .startWidth => .ofFloat32 s.startWidth
  | .functionWidth => .ofFloat32 s.functionWidth

theorem mem_all (f : Field) : f ∈ all := by
  cases f <;> decide

theorem map_name_all : all.map name = fieldNames := rfl

theorem name_injective : Function.Injective name := by
  have hnodup : (all.map name).Nodup := by decide
  exact fun f g ↦ List.inj_on_of_nodup_map hnodup f.mem_all g.mem_all

theorem name_mem_fieldNames (f : Field) : f.name ∈ fieldNames := by
  rw [← map_name_all]
  exact List.mem_map_of_mem f.mem_all

theorem isLegible_name (f : Field) : (identifier f.name).isLegible = true := by
  cases f <;> decide

theorem legible_toRon (s : Settings) (f : Field) : Legible 63 (f.toRon s) := by
  cases f with
  | pasteOffset | startPosition => exact (Point.encodesRon 62 _).legible
  | nodeHeight | dragThreshold | startWidth | functionWidth => exact (encodes_ofFloat32 _ 63).legible
  | startName => exact (encodes_ofString 63 s.startName).legible

end Field

def listing (s : Settings) (type : Option Identifier) (chosen : List Field) : Ron :=
  .record type (chosen.map fun f ↦ (identifier f.name, f.toRon s))

def record (s : Settings) (chosen : List Field) : Record Ron :=
  ⟨chosen.map fun f ↦ (f.name, f.toRon s)⟩

def restrict (s : Settings) (chosen : List Field) : Settings :=
  let base : Settings := {}
  { pasteOffset := if .pasteOffset ∈ chosen then s.pasteOffset else base.pasteOffset
    nodeHeight := if .nodeHeight ∈ chosen then s.nodeHeight else base.nodeHeight
    dragThreshold := if .dragThreshold ∈ chosen then s.dragThreshold else base.dragThreshold
    startName := if .startName ∈ chosen then s.startName else base.startName
    startPosition := if .startPosition ∈ chosen then s.startPosition else base.startPosition
    startWidth := if .startWidth ∈ chosen then s.startWidth else base.startWidth
    functionWidth := if .functionWidth ∈ chosen then s.functionWidth else base.functionWidth }

/-- The text of a file that lists these fields in this order, in any layout. The type may be
named. -/
inductive Lists (s : Settings) (chosen : List Field) : String → Prop
  | mk {before text after : List Char} {type : Option Identifier}
      (htype : ∀ i ∈ type, i = identifier "EditorConfig") (hbefore : Gap before)
      (h : Spells text (s.listing type chosen)) (hafter : Gap after) :
      Lists s chosen (String.ofList (before ++ (text ++ after)))

variable {s : Settings} {chosen : List Field} {type : Option Identifier}

theorem restrict_all (s : Settings) : s.restrict Field.all = s := rfl

theorem toRon_eq_listing (s : Settings) : s.toRon = s.listing none Field.all := rfl

theorem asRecord?_listing (hnodup : chosen.Nodup)
    (htype : ∀ i ∈ type, i = identifier "EditorConfig") :
    (s.listing type chosen).asRecord? {} "EditorConfig" fieldNames = some (s.record chosen) := by
  have hnames : Ron.names {} "EditorConfig" type = true := by
    cases type with
    | none => rfl
    | some i =>
      rw [htype i rfl]
      decide
  have hkeys : (s.record chosen).fields.map Prod.fst = chosen.map Field.name := List.map_map
  have hnodup' : ((s.record chosen).fields.map Prod.fst).Nodup :=
    hkeys ▸ hnodup.map Field.name_injective
  have hsub : (s.record chosen).fields.map Prod.fst ⊆ fieldNames :=
    hkeys ▸ List.forall_mem_map.2 fun f _ ↦ f.name_mem_fieldNames
  have hfields : (s.record chosen).fields.map (fun f ↦ (identifier f.1, f.2)) =
      chosen.map fun f ↦ (identifier f.name, f.toRon s) := List.map_map
  rw [listing, asRecord?, if_pos hnames, ← hfields]
  exact recordOf?_ofFields hnodup' hsub

theorem getOr?_record {α : Type} {read : Ron → Option α} {f : Field} {n : Nat} {x : α}
    (h : Encodes n read (f.toRon s) x) (chosen : List Field) (base : α) :
    (s.record chosen).getOr? f.name read base = some (if f ∈ chosen then x else base) := by
  rw [Record.getOr?, record, Record.lookup_map Field.name_injective]
  split_ifs
  · exact h.reads
  · rfl

theorem ofRon?_of_asRecord? {t : Ron}
    (h : t.asRecord? {} "EditorConfig" fieldNames = some (s.record chosen)) :
    ofRon? {} t = some (s.restrict chosen) := by
  have hnumber (x : Float32) := encodes_ofFloat32 x 1
  have hoffset := getOr?_record (f := .pasteOffset) (s.pasteOffset.encodesRon 0) chosen
  have hheight := getOr?_record (f := .nodeHeight) (hnumber s.nodeHeight) chosen
  have hthreshold := getOr?_record (f := .dragThreshold) (hnumber s.dragThreshold) chosen
  have hname := getOr?_record (f := .startName) (encodes_ofString 1 s.startName) chosen
  have hposition := getOr?_record (f := .startPosition) (s.startPosition.encodesRon 0) chosen
  have hstart := getOr?_record (f := .startWidth) (hnumber s.startWidth) chosen
  have hfunction := getOr?_record (f := .functionWidth) (hnumber s.functionWidth) chosen
  simp only [Field.name] at hoffset hheight hthreshold hname hposition hstart hfunction
  rw [ofRon?, h, restrict]
  simp only [Option.bind_eq_bind, Option.bind_some, Option.pure_def, hoffset, hheight, hthreshold,
    hname, hposition, hstart, hfunction]

theorem parse?_of_lists (hnodup : chosen.Nodup) {text : String} (h : Lists s chosen text) :
    parse? text = some (s.restrict chosen) := by
  obtain ⟨htype, hbefore, h, hafter⟩ := h
  have hname : (identifier "EditorConfig").isLegible = true := by decide
  obtain ⟨t, hparse, ht⟩ := exists_parse?_record (fun i hi ↦ htype i hi ▸ hname)
    (List.forall_mem_map.2 fun f _ ↦ f.isLegible_name)
    (List.forall_mem_map.2 fun f _ ↦ f.legible_toRon s) hbefore h hafter
  rw [parse?, hparse]
  exact ofRon?_of_asRecord? ((ht _ _ _).trans (asRecord?_listing hnodup htype))

theorem lists_encode (s : Settings) : Lists s Field.all s.encode := by
  have hlegible : Legible nestingLimit (s.listing none Field.all) :=
    .record nofun (List.cons_ne_nil _ _) (List.forall_mem_map.2 fun f _ ↦ f.isLegible_name)
      (List.forall_mem_map.2 fun f _ ↦ f.legible_toRon s)
  have htype : ∀ i ∈ none, i = identifier "EditorConfig" := nofun
  have hlists := Lists.mk htype .nil (spells_render hlegible true 0) .nil
  rwa [List.nil_append, List.append_nil, ← toRon_eq_listing] at hlists

/-- Settings are read back from the text they are written as. A file that lists some of the fields,
in any order and layout, stands for the defaults with just these fields replaced. -/
theorem reads_back_and_fills_in :
    (∀ s : Settings, parse? s.encode = some s) ∧
      ∀ (s : Settings) (chosen : List Field) (text : String), chosen.Nodup →
        Lists s chosen text → parse? text = some (s.restrict chosen) := by
  refine ⟨fun s ↦ ?_, fun s chosen text hnodup h ↦ parse?_of_lists hnodup h⟩
  rw [parse?_of_lists (by decide) (lists_encode s), restrict_all]

def tuned : Settings where
  pasteOffset := ⟨.ofBits 0x42200000, .ofBits 0x80000000⟩
  startName := "say \"go\""
  functionWidth := .ofBits 0x7f800000

def tunedText : String := "// by hand
EditorConfig(function_node_width:inf, start_node_name : \"say \\\"go\\\"\",
paste_offset: (40.0,-0.0 ), )"

theorem lists_tuned : Lists tuned [.functionWidth, .startName, .pasteOffset] tunedText := by
  have hcomment : Gap ('/' :: '/' :: (" by hand".toList ++ '\n' :: [])) := .line (by decide) .nil
  have hwidth := Paired.mk (SpellsName.render (identifier Field.functionWidth.name)) .nil .nil
    (spells_ofFloat32 tuned.functionWidth)
  have hname := Paired.mk (SpellsName.render (identifier Field.startName.name)) gap_blank gap_blank
    (Spells.string tuned.startName.toList)
  have hoffset := Paired.mk (SpellsName.render (identifier Field.pasteOffset.name)) .nil gap_blank
    (Spells.tuple none (.cons .nil (spells_ofFloat32 tuned.pasteOffset.x) .nil
      (.single .nil (spells_ofFloat32 tuned.pasteOffset.y) gap_blank)))
  have hlisted := Listed.cons .nil hwidth .nil
    (.cons gap_blank hname .nil (.cons (gap_line 0) hoffset .nil (.nil gap_blank)))
  have htype : ∀ i ∈ some (identifier "EditorConfig"), i = identifier "EditorConfig" := by simp
  have hlists : Lists tuned [.functionWidth, .startName, .pasteOffset] _ :=
    Lists.mk htype hcomment (.record _ hlisted) .nil
  refine cast (congrArg (Lists tuned _) ?_) hlists
  decide +kernel

theorem reads_back_and_fills_in_tuned :
    ([Field.functionWidth, .startName, .pasteOffset].Nodup ∧
      Lists tuned [.functionWidth, .startName, .pasteOffset] tunedText) ∧
      parse? tunedText = some tuned := by
  have hnodup : [Field.functionWidth, .startName, .pasteOffset].Nodup := by decide
  exact ⟨⟨hnodup, lists_tuned⟩, reads_back_and_fills_in.2 tuned _ _ hnodup lists_tuned⟩

end Settings

end PipelineGraph
