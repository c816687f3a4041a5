import PipelineGraph.Proofs.CommandLine
import PipelineGraph.Proofs.JsonDocument
import PipelineGraph.Proofs.RonDocument

namespace PipelineGraph

open Number

def Settings.startNumbers (x : Settings) : List Float32 :=
  [x.startPosition.x, x.startPosition.y, x.startWidth]

def Document.HoldsStart (d : Document) (x : Settings) : Prop :=
  ∃ n, d.snapshot = ⟨[n], []⟩ ∧ n.kind = .start ∧ n.name = x.startName ∧
    n.position = x.startPosition ∧ n.width = x.startWidth

theorem Graph.supplied_ofSnapshot {s : Snapshot} (h : ∀ n ∈ s.nodes, n.ports.dataInputs = []) :
    (ofSnapshot s).Supplied := by
  intro n hn _ input hinput
  rw [h n (OrderedMap.of_mem_values_index hn)] at hinput
  cases hinput

namespace Document

theorem encodesJson_transform : Json.Encodes ViewTransform.ofJson? (ViewTransform.toJson {}) {} :=
  ViewTransform.encodesJson (by
    simp only [ViewTransform.numbers, Option.toList_none, List.append_nil, List.mem_singleton]
    rintro x rfl
    exact Json.encodes_ofFloat32 (by decide +kernel) (by decide +kernel))

theorem parse_json (n : Node) :
    (parse (({ snapshot := ⟨[n], []⟩ } : Document).encode .json) .json).toOption =
      (Node.ofJson? n.toJson).map fun n ↦ { snapshot := ⟨[n], []⟩ } := by
  have hplain : Json.Plain fieldNames := by decide
  have hnodes : Json.Legible (.array [n.toJson]) :=
    .array (List.forall_mem_singleton.2 n.legible_toJson)
  have hedges : Json.Legible (.array []) := .array nofun
  have htransform := encodesJson_transform
  have hread : ofJson? (toJson { snapshot := ⟨[n], []⟩ }) =
      (Node.ofJson? n.toJson).map fun n ↦ { snapshot := ⟨[n], []⟩ } := by
    rw [ofJson?, toJson, Json.asRecord?_ofFields hplain (List.Sublist.refl _)]
    cases hn : Node.ofJson? n.toJson <;>
      simp [Record.get?, Record.getOr?, List.lookup_cons, Json.asList?, hn, htransform.reads]
  have htree : Json.parse? (toJson { snapshot := ⟨[n], []⟩ }).toString =
      some (toJson { snapshot := ⟨[n], []⟩ }) := by
    refine Json.parse?_toString (Json.legible_ofFields hplain (List.Sublist.refl _) ?_)
    simp [hnodes, hedges, htransform.legible]
  simp only [parse, encode, htree, Option.bind_some, hread]
  cases Node.ofJson? n.toJson <;> rfl

end Document

namespace CommandLine

def startNode (x : Settings) (ids : IdSupply) : Node :=
  { (Node.newStart x.startName ids).1 with position := x.startPosition, width := x.startWidth }

variable (x : Settings) (ids : IdSupply)

theorem startDocument_eq : startDocument x ids = { snapshot := ⟨[startNode x ids], []⟩ } := rfl

variable {x ids}

theorem holdsStart_startDocument {y : Settings} : (startDocument y ids).HoldsStart x ↔
    y.startName = x.startName ∧ y.startPosition = x.startPosition ∧
      y.startWidth = x.startWidth := by
  constructor
  · rintro ⟨_, ⟨⟩, -, hname, hposition, hwidth⟩
    exact ⟨hname, hposition, hwidth⟩
  · rintro ⟨hname, hposition, hwidth⟩
    exact ⟨startNode y ids, rfl, rfl, hname, hposition, hwidth⟩

/-- What is read from the JSON text of a new document is a new document with the numbers that are
read. -/
theorem parse_startDocument_json {d : Document} :
    (Document.parse ((startDocument x ids).encode .json) .json).toOption = some d ↔
      ∃ px py width, (Json.ofFloat32 x.startPosition.x).asFloat32? = some px ∧
        (Json.ofFloat32 x.startPosition.y).asFloat32? = some py ∧
        (Json.ofFloat32 x.startWidth).asFloat32? = some width ∧
        startDocument { x with startPosition := ⟨px, py⟩, startWidth := width } ids = d := by
  rw [startDocument_eq, Document.parse_json, Node.ofJson?_toJson]
  simp [startNode, startDocument_eq, Option.bind_eq_some_iff]

theorem exists_eq_startDocument {format : DocumentFormat} {d : Document}
    (h : (Document.parse ((startDocument x ids).encode format) format).toOption = some d) :
    ∃ y, d = startDocument y ids := by
  cases format with
  | ron =>
    rw [Document.parse_ron] at h
    exact ⟨x, (Option.some.inj h).symm⟩
  | json =>
    obtain ⟨px, py, width, -, -, -, rfl⟩ := parse_startDocument_json.1 h
    exact ⟨_, rfl⟩

theorem isSome_parse_startDocument {format : DocumentFormat} :
    (Document.parse ((startDocument x ids).encode format) format).toOption.isSome ↔
      (format = .json → ∀ v ∈ x.startNumbers, v.isFinite) := by
  cases format with
  | ron => simp [Document.parse_ron, Except.toOption]
  | json =>
    simp [Option.isSome_iff_exists, parse_startDocument_json, Settings.startNumbers,
      ← Json.isSome_asFloat32?_ofFloat32]

theorem holdsStart_parse_startDocument {format : DocumentFormat} :
    (∃ d, (Document.parse ((startDocument x ids).encode format) format).toOption = some d ∧
      d.HoldsStart x) ↔
      (format = .json → ∀ v ∈ x.startNumbers, v.isFinite ∧ Json.ReadsBack v) := by
  cases format with
  | ron => simp [Document.parse_ron, Except.toOption, holdsStart_startDocument]
  | json =>
    simp only [forall_const, Settings.startNumbers, ← Json.asFloat32?_ofFloat32_eq_some_iff,
      List.forall_mem_cons]
    constructor
    · rintro ⟨d, hd, hstart⟩
      obtain ⟨px, py, width, hpx, hpy, hwidth, rfl⟩ := parse_startDocument_json.1 hd
      obtain ⟨-, hposition, hsame⟩ := holdsStart_startDocument.1 hstart
      exact ⟨hpx.trans (congrArg (fun p ↦ some p.x) hposition),
        hpy.trans (congrArg (fun p ↦ some p.y) hposition),
        hwidth.trans (congrArg some hsame), nofun⟩
    · rintro ⟨hpx, hpy, hwidth, -⟩
      exact ⟨startDocument x ids, parse_startDocument_json.2 ⟨_, _, _, hpx, hpy, hwidth, rfl⟩,
        holdsStart_startDocument.2 ⟨rfl, rfl, rfl⟩⟩

section Runs

variable {fs : FileSystem} {s s' : fs.State} {settings : Option String} {path : String}

/-- A document has been made from settings that can still be read. -/
structure Created (fs : FileSystem) (ids : IdSupply) (s : fs.State) (settings : Option String)
    (path : String) (x : Settings) (s' : fs.State) : Prop where
  before : fs.settings? s settings = some x
  after : fs.settings? s' settings = some x
  written : fs.Overwritten s path ((startDocument x ids).encode (.ofPath path)) s'

theorem settings?_of_overwritten (hx : fs.settings? s settings = some x)
    (hempty : ∀ p, fs.place s path = some p → fs.entry s p = none) {text : String}
    (hwrite : fs.Overwritten s path text s') : fs.settings? s' settings = some x := by
  cases settings with
  | none => exact hx
  | some file =>
    obtain ⟨text, hread, hparse⟩ := Option.bind_eq_some_iff.1 hx
    have hne : fs.place s file ≠ fs.place s path := by
      intro hplace
      obtain ⟨p, hp, hentry⟩ := Option.bind_eq_some_iff.1 hread
      rw [hplace] at hp
      simp [hempty p hp] at hentry
    rw [FileStore.settings?, hwrite.read?_of_ne hne, hread]
    exact hparse

theorem exists_created {args : List String} (hparse : parse args = .ok ⟨.create path, settings⟩)
    {o : Outcome} (hrun : (run fs.access ids args).run s = (o, s'))
    (hcode : o.ending.exitCode = 0) : ∃ x, Created fs ids s settings path x s' := by
  obtain ⟨x, hx, hempty, hwrite⟩ := (ends_of_run hparse hrun).create.2 hcode
  exact ⟨x, hx, settings?_of_overwritten hx hempty hwrite, hwrite⟩

namespace Created

variable (h : Created fs ids s settings path x s')
include h

theorem document?_eq : fs.document? s' path =
    (Document.parse ((startDocument x ids).encode (.ofPath path)) (.ofPath path)).toOption := by
  rw [FileStore.document?, h.written.read?_self]
  rfl

theorem isSome_graph? : (fs.graph? s' settings path).isSome ↔
    (.ofPath path = DocumentFormat.json → ∀ v ∈ x.startNumbers, v.isFinite) := by
  rw [fs.graph?_eq_map h.after, h.document?_eq, Option.isSome_map]
  exact isSome_parse_startDocument

theorem supplied {g : Graph} (hg : fs.graph? s' settings path = some g) : g.Supplied := by
  rw [fs.graph?_eq_map h.after, h.document?_eq] at hg
  obtain ⟨d, hd, rfl⟩ := Option.map_eq_some_iff.1 hg
  obtain ⟨y, rfl⟩ := exists_eq_startDocument hd
  exact Graph.supplied_ofSnapshot (List.forall_mem_singleton.2 rfl)

theorem exitCode_validate {args : List String}
    (hparse : parse args = .ok ⟨.validate path, settings⟩) (ids' : IdSupply) :
    ((run fs.access ids' args).run s').1.ending.exitCode = 0 ↔
      (.ofPath path = DocumentFormat.json → ∀ v ∈ x.startNumbers, v.isFinite) := by
  rw [(ends_run ids' hparse s').exitCode_validate_iff, ← h.isSome_graph?, Option.isSome_iff_exists]
  exact exists_congr fun g ↦ and_iff_left_of_imp h.supplied

theorem exitCode_export {args : List String} {out : Option String}
    (hparse : parse args = .ok ⟨.exportPayload path out, settings⟩)
    (hout : ∀ path ∈ out, ∀ text, fs.Accepts s' path text) (ids' : IdSupply) :
    ((run fs.access ids' args).run s').1.ending.exitCode = 0 ↔
      (.ofPath path = DocumentFormat.json → ∀ v ∈ x.startNumbers, v.isFinite) := by
  rw [(ends_run ids' hparse s').exitCode_export_iff hout, h.isSome_graph?]

end Created

end Runs

theorem parse_new : parse ["-c", "e.ron", "new", "g.json"] =
    .ok ⟨.create "g.json", some "e.ron"⟩ := by decide +kernel

theorem parse_validate : parse ["-c", "e.ron", "validate", "g.json"] =
    .ok ⟨.validate "g.json", some "e.ron"⟩ := by decide +kernel

theorem parse_export : parse ["-c", "e.ron", "export", "g.json"] =
    .ok ⟨.exportPayload "g.json" none, some "e.ron"⟩ := by decide +kernel

namespace Directory

def withNew (settings : String) : Outcome × Directory :=
  (run fileSystem.access (.ofStream .ofRandom) ["-c", "e.ron", "new", "g.json"]).run
    ⟨.ofList [(["e.ron"], settings)]⟩

def exitCodeOnNew (settings command : String) : ℕ :=
  ((run fileSystem.access (.ofStream .ofRandom) ["-c", "e.ron", command, "g.json"]).run
    (withNew settings).2).1.ending.exitCode

theorem run_new (settings : String) :
    (run fileSystem.access (.ofStream .ofRandom) ["-c", "e.ron", "new", "g.json"]).run
      ⟨.ofList [(["e.ron"], settings)]⟩ = ((withNew settings).1, (withNew settings).2) := rfl

theorem settings?_new (settings : String) :
    fileSystem.settings? (⟨.ofList [(["e.ron"], settings)]⟩ : Directory) (some "e.ron") =
      Settings.parse? settings := by
  have hread : fileSystem.read? (⟨.ofList [(["e.ron"], settings)]⟩ : Directory) "e.ron" =
      some settings := (read?_store _ _).trans rfl
  exact congrArg (Option.bind · Settings.parse?) hread

end Directory

/-- A document that has just been made can be checked and exported exactly if it is in RON or its
numbers are finite, since JSON has no form for the others. It holds one start node as the settings
ask for it exactly if, in JSON, each of these numbers is also read back from its text. -/
theorem opens_after_create (fs : FileSystem) (ids ids' : IdSupply) {path : String}
    {settings out : Option String} {create check deliver : List String}
    (hcreate : parse create = .ok ⟨.create path, settings⟩)
    (hcheck : parse check = .ok ⟨.validate path, settings⟩)
    (hdeliver : parse deliver = .ok ⟨.exportPayload path out, settings⟩) {s s' : fs.State}
    {o : Outcome} (hrun : (run fs.access ids create).run s = (o, s'))
    (hcode : o.ending.exitCode = 0) (hout : ∀ path ∈ out, ∀ text, fs.Accepts s' path text) :
    ∃ x, fs.settings? s settings = some x ∧
      (((run fs.access ids' check).run s').1.ending.exitCode = 0 ↔
        (.ofPath path = DocumentFormat.json → ∀ v ∈ x.startNumbers, v.isFinite)) ∧
      (((run fs.access ids' deliver).run s').1.ending.exitCode = 0 ↔
        (.ofPath path = DocumentFormat.json → ∀ v ∈ x.startNumbers, v.isFinite)) ∧
      ((∃ d, fs.document? s' path = some d ∧ d.HoldsStart x) ↔
        (.ofPath path = DocumentFormat.json →
          ∀ v ∈ x.startNumbers, v.isFinite ∧ Json.ReadsBack v)) := by
  obtain ⟨x, h⟩ := exists_created hcreate hrun hcode
  refine ⟨x, h.before, h.exitCode_validate hcheck ids', h.exitCode_export hdeliver hout ids', ?_⟩
  rw [h.document?_eq]
  exact holdsStart_parse_startDocument

/-- A name with a line break in it, and a width that is not exactly what its digits say. -/
theorem opens_after_create_json :
    let settings := "(start_node_name: \"a\\nb\", start_node_width: 0.1)"
    let d := (Directory.withNew settings).2
    (parse ["-c", "e.ron", "new", "g.json"] = .ok ⟨.create "g.json", some "e.ron"⟩ ∧
      parse ["-c", "e.ron", "validate", "g.json"] = .ok ⟨.validate "g.json", some "e.ron"⟩ ∧
      parse ["-c", "e.ron", "export", "g.json"] =
        .ok ⟨.exportPayload "g.json" none, some "e.ron"⟩ ∧
      (Directory.withNew settings).1.ending.exitCode = 0) ∧
    Directory.exitCodeOnNew settings "validate" = 0 ∧
    Directory.exitCodeOnNew settings "export" = 0 ∧
    ∃ x g, Settings.parse? settings = some x ∧ Directory.store.document? d "g.json" = some g ∧
      g.HoldsStart x := by
  intro settings d
  have hcode : (Directory.withNew settings).1.ending.exitCode = 0 := by decide +kernel
  have hnumbers : ∀ x ∈ Settings.parse? settings,
      ∀ v ∈ x.startNumbers, v.isFinite = true ∧ Json.ReadsBack v := by decide +kernel
  obtain ⟨x, hx, hcheck, hdeliver, hdocument⟩ := opens_after_create Directory.fileSystem
    (.ofStream .ofRandom) (.ofStream .ofRandom) parse_new parse_validate
    parse_export (Directory.run_new settings) hcode nofun
  have hx : Settings.parse? settings = some x := (Directory.settings?_new settings).symm.trans hx
  have hnumbers := hnumbers x hx
  have hfinite : ∀ v ∈ x.startNumbers, v.isFinite = true := fun v hv ↦ (hnumbers v hv).1
  obtain ⟨g, hg, hstart⟩ := hdocument.2 fun _ ↦ hnumbers
  exact ⟨⟨parse_new, parse_validate, parse_export, hcode⟩,
    hcheck.2 fun _ ↦ hfinite, hdeliver.2 fun _ ↦ hfinite, x, g, hx, hg, hstart⟩

/-- A document whose start node has no finite width is made, and then nothing can be done with
it. -/
theorem not_opens_after_create :
    (Directory.withNew "(start_node_width: inf)").1.ending.exitCode = 0 ∧
      Directory.exitCodeOnNew "(start_node_width: inf)" "validate" ≠ 0 ∧
      Directory.exitCodeOnNew "(start_node_width: inf)" "export" ≠ 0 := by
  have hcode : (Directory.withNew "(start_node_width: inf)").1.ending.exitCode = 0 := by
    decide +kernel
  have hinfinite : ∀ x ∈ Settings.parse? "(start_node_width: inf)",
      ¬ ∀ v ∈ x.startNumbers, v.isFinite = true := by decide +kernel
  obtain ⟨x, h⟩ := exists_created parse_new (Directory.run_new _) hcode
  have hjson : DocumentFormat.ofPath "g.json" = .json := by decide +kernel
  have hinfinite := hinfinite x ((Directory.settings?_new _).symm.trans h.before)
  exact ⟨hcode,
    fun hzero ↦ hinfinite ((h.exitCode_validate parse_validate _).1 hzero hjson),
    fun hzero ↦ hinfinite ((h.exitCode_export parse_export nofun _).1 hzero hjson)⟩

end CommandLine

end PipelineGraph
