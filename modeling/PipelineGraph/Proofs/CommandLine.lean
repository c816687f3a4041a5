import PipelineGraph.CommandLine.Run
import PipelineGraph.Proofs.Files
import PipelineGraph.Proofs.Validation

namespace PipelineGraph

def Graph.Supplied (g : Graph) : Prop :=
  ∀ n ∈ g.nodeList, g.OnControlPath n.id → ∀ input ∈ n.ports.dataInputs, g.Supplies n input

theorem Graph.isValid_validate_iff_supplied {g : Graph} :
    g.validate.isValid = true ↔ g.Supplied :=
  isValid_validate_iff.trans failingNodes_eq_nil_iff

namespace CommandLine

section Monad

variable {σ ε ε' α β : Type} {s s' : σ}

theorem run_bind_eq {x : StateM σ α} {a : α} (h : x.run s = (a, s')) (k : α → StateM σ β) :
    (x >>= k).run s = (k a).run s' := by
  rw [StateT.run_bind, h]
  rfl

theorem run_lift {x : StateM σ α} {a : α} (h : x.run s = (a, s')) :
    (liftM x : ExceptT ε (StateM σ) α).run.run s = (.ok a, s') := by
  have hmap : (liftM x : ExceptT ε (StateM σ) α).run = Except.ok <$> x := rfl
  rw [hmap, StateT.run_map, h]
  rfl

variable {x : ExceptT ε (StateM σ) α}

theorem run_bind_ok {a : α} (h : x.run.run s = (.ok a, s')) (k : α → ExceptT ε (StateM σ) β) :
    (x >>= k).run.run s = (k a).run.run s' := by
  rw [ExceptT.run_bind, run_bind_eq h]

theorem run_bind_error {e : ε} (h : x.run.run s = (.error e, s'))
    (k : α → ExceptT ε (StateM σ) β) : (x >>= k).run.run s = (.error e, s') := by
  rw [ExceptT.run_bind, run_bind_eq h]
  rfl

theorem run_adapt {r : Except ε α} (h : x.run.run s = (r, s')) (f : ε → ε') :
    (x.adapt f).run.run s = (r.mapError f, s') := by
  have hmap : (x.adapt f).run = Except.mapError f <$> x.run := rfl
  rw [hmap, StateT.run_map, h]
  rfl

end Monad

namespace FileStore

variable (fs : FileStore)

def settings? (s : fs.State) : Option String → Option Settings
  | none => some {}
  | some path => (fs.read? s path).bind Settings.parse?

def document? (s : fs.State) (path : String) : Option Document := do
  (Document.parse (← fs.read? s path) (.ofPath path)).toOption

def graph? (s : fs.State) (settings : Option String) (path : String) : Option Graph := do
  let _ ← fs.settings? s settings
  return .ofSnapshot (← fs.document? s path).snapshot

theorem graph?_eq_map {s : fs.State} {settings : Option String} {x : Settings}
    (hx : fs.settings? s settings = some x) (path : String) :
    fs.graph? s settings path = (fs.document? s path).map fun d ↦ .ofSnapshot d.snapshot := by
  rw [graph?, hx]
  cases fs.document? s path <;> rfl

def Delivered (s : fs.State) (text : String) : Option String → Outcome → fs.State → Prop
  | none, o, s' => s' = s ∧ o.printed = text ++ "\n"
  | some path, o, s' => fs.Overwritten s path text s' ∧ o.printed = ""

end FileStore

def startDocument (settings : Settings) (ids : IdSupply) : Document :=
  { snapshot := (newEditor settings ids).addStart.2.graph.snapshot }

variable (fs : FileSystem) (ids : IdSupply)

theorem readSettings_spec (s : fs.State) (path : Option String) :
    ∃ r, (readSettings fs.access path).run.run s = (r, s) ∧ r.toOption = fs.settings? s path := by
  cases path with
  | none => exact ⟨_, rfl, rfl⟩
  | some path =>
    have hread := fs.read_eq path s
    rw [readSettings, run_bind_ok (run_lift hread), FileStore.settings?]
    cases fs.read? s path with
    | none => exact ⟨_, rfl, rfl⟩
    | some text =>
      dsimp only [Option.bind_some]
      cases Settings.parse? text with
      | none => exact ⟨_, rfl, rfl⟩
      | some settings => exact ⟨_, rfl, rfl⟩

theorem readDocument_spec (s : fs.State) (path : String) :
    ∃ r, (readDocument fs.access path).run.run s = (r, s) ∧ r.toOption = fs.document? s path := by
  have hread := fs.read_eq path s
  rw [readDocument, run_bind_ok (run_lift hread), FileStore.document?]
  cases fs.read? s path with
  | none => exact ⟨_, rfl, rfl⟩
  | some text =>
    dsimp only [Option.bind_eq_bind, Option.bind_some]
    cases Document.parse text (.ofPath path) with
    | error e => exact ⟨_, rfl, rfl⟩
    | ok d => exact ⟨_, rfl, rfl⟩

theorem openDocument_spec (settings : Settings) (s : fs.State) (path : String) :
    (∃ d, fs.document? s path = some d ∧
      (openDocument fs.access settings ids path).run.run s =
        (.ok ((newEditor settings ids).load d.snapshot), s)) ∨
    fs.document? s path = none ∧ ∃ f,
      (openDocument fs.access settings ids path).run.run s = (.error f, s) := by
  obtain ⟨r, hrun, hr⟩ := readDocument_spec fs s path
  have hadapt := run_adapt hrun Failure.document
  cases r with
  | error e => exact .inr ⟨hr.symm, _, run_bind_error hadapt _⟩
  | ok d => exact .inl ⟨d, hr.symm, run_bind_ok hadapt _⟩

/-- What keeps a command that works on a graph from being carried out: there is no graph, or what
comes of it cannot be written. Nothing is said about the other commands. -/
def Hindered (s : fs.State) (settings : Option String) : Command → Prop
  | .validate graph => fs.graph? s settings graph = none
  | .exportPayload graph out => ∀ g ∈ fs.graph? s settings graph, ∃ path ∈ out,
    ¬ fs.Accepts s path g.payload.encode
  | .create _ | .watch _ => True

theorem hindered_export {s : fs.State} {settings : Option String} {graph : String}
    (h : fs.graph? s settings graph = none) (out : Option String) :
    Hindered fs s settings (.exportPayload graph out) := by
  intro g hg
  rw [h] at hg
  cases hg

theorem hindered_of_settings? {s : fs.State} {settings : Option String}
    (h : fs.settings? s settings = none) (c : Command) : Hindered fs s settings c := by
  have hgraph : ∀ graph, fs.graph? s settings graph = none := by
    intro graph
    rw [FileStore.graph?, h]
    rfl
  cases c with
  | validate graph => exact hgraph graph
  | exportPayload graph out => exact hindered_export fs (hgraph graph) out
  | create | watch => trivial

/-- How a command ends, and which files are there then. -/
inductive Ends (s : fs.State) (settings : Option String) : Command → Outcome → fs.State → Prop
  | validated {graph : String} {g : Graph} (hg : fs.graph? s settings graph = some g) :
      Ends s settings (.validate graph)
        { ending := if g.validate.isValid then .clean else .invalidGraph,
          printed := g.validate.render g } s
  | printed {graph : String} {g : Graph} (hg : fs.graph? s settings graph = some g) :
      Ends s settings (.exportPayload graph none)
        { ending := .clean, printed := g.payload.encode ++ "\n" } s
  | exported {graph path : String} {g : Graph} {s' : fs.State}
      (hg : fs.graph? s settings graph = some g)
      (hwrite : fs.Overwritten s path g.payload.encode s') :
      Ends s settings (.exportPayload graph (some path)) { ending := .clean } s'
  | created {graph : String} {x : Settings} {s' : fs.State}
      (hsettings : fs.settings? s settings = some x) (hfree : fs.occupied s graph = false)
      (hwrite : fs.Overwritten s graph ((startDocument x ids).encode (.ofPath graph)) s') :
      Ends s settings (.create graph) { ending := .clean } s'
  | failed {c : Command} (h : Hindered fs s settings c) (f : Failure) :
      Ends s settings c { ending := .failed f } s
  | watching {graph : String} (x : Settings) :
      Ends s settings (.watch graph) { ending := .watching graph x } s

variable {fs ids} {s : fs.State}

theorem exportTo_spec {e : Editor} {settings : Option String} {graph : String}
    (hg : fs.graph? s settings graph = some e.graph) (out : Option String) :
    (∃ o s', (exportTo fs.access e out).run.run s = (.ok o, s') ∧
      Ends fs ids s settings (.exportPayload graph out) o s') ∨
    (∃ path ∈ out, ¬ fs.Accepts s path e.graph.payload.encode) ∧
      ∃ f, (exportTo fs.access e out).run.run s = (.error f, s) := by
  cases out with
  | none => exact .inl ⟨_, _, rfl, .printed hg⟩
  | some path =>
    rcases fs.write_eq path e.graph.payload.encode s with hwrite | ⟨s', hwrite, hover⟩
    · refine .inr ⟨⟨path, rfl, ?_⟩, _, run_bind_ok (run_lift hwrite) _⟩
      rw [FileSystem.Accepts, hwrite]
      exact Bool.false_ne_true
    · exact .inl ⟨_, _, run_bind_ok (run_lift hwrite) _, .exported hg hover⟩

theorem createDocument_spec {x : Settings} {settings : Option String}
    (hsettings : fs.settings? s settings = some x) (path : String) :
    (∃ o s', (createDocument fs.access (newEditor x ids) path).run.run s = (.ok o, s') ∧
      Ends fs ids s settings (.create path) o s') ∨
    ∃ f, (createDocument fs.access (newEditor x ids) path).run.run s = (.error f, s) := by
  have hoccupied := fs.occupied_eq path s
  rw [createDocument, run_bind_ok (run_lift hoccupied)]
  cases hfree : fs.occupied s path with
  | true => exact .inr ⟨_, rfl⟩
  | false =>
    rcases fs.write_eq path ((startDocument x ids).encode (.ofPath path)) s with
      hwrite | ⟨s', hwrite, hover⟩
    · exact .inr ⟨_, run_bind_ok (run_lift hwrite) _⟩
    · exact .inl ⟨_, _, run_bind_ok (run_lift hwrite) _, .created hsettings hfree hover⟩

variable (ids) in
theorem execute_spec (i : Invocation) (s : fs.State) :
    (∃ o s', (execute fs.access ids i).run.run s = (.ok o, s') ∧
      Ends fs ids s i.settings i.command o s') ∨
    ∃ f, (execute fs.access ids i).run.run s = (.error f, s) ∧
      Hindered fs s i.settings i.command := by
  obtain ⟨command, settings⟩ := i
  obtain ⟨r, hrun, hr⟩ := readSettings_spec fs s settings
  have hadapt := run_adapt hrun Failure.settings
  cases r with
  | error e => exact .inr ⟨_, run_bind_error hadapt _, hindered_of_settings? fs hr.symm command⟩
  | ok x =>
    have hsettings : fs.settings? s settings = some x := hr.symm
    have hgraph := fs.graph?_eq_map hsettings
    rw [execute, run_bind_ok hadapt]
    cases command with
    | validate graph =>
      rcases openDocument_spec fs ids x s graph with ⟨d, hd, hopen⟩ | ⟨hd, f, hopen⟩
      · have hg := (hgraph graph).trans (congrArg _ hd)
        exact .inl ⟨_, _, run_bind_ok hopen _, .validated hg⟩
      · exact .inr ⟨f, run_bind_error hopen _, (hgraph graph).trans (congrArg _ hd)⟩
    | exportPayload graph out =>
      rcases openDocument_spec fs ids x s graph with ⟨d, hd, hopen⟩ | ⟨hd, f, hopen⟩
      · have hg := (hgraph graph).trans (congrArg _ hd)
        dsimp only
        rw [run_bind_ok hopen]
        refine (exportTo_spec hg out).imp_right fun ⟨hout, f, hf⟩ ↦ ⟨f, hf, fun g hg' ↦ ?_⟩
        cases hg.symm.trans hg'
        exact hout
      · have hnone := (hgraph graph).trans (congrArg _ hd)
        exact .inr ⟨f, run_bind_error hopen _, hindered_export fs hnone out⟩
    | create graph =>
      exact (createDocument_spec hsettings graph).imp_right fun ⟨f, hf⟩ ↦ ⟨f, hf, trivial⟩
    | watch graph =>
      have hoccupied := fs.occupied_eq (String.ofList (Text.folderOf graph.toList)) s
      dsimp only
      rw [startWatching, run_bind_ok (run_lift hoccupied)]
      cases fs.occupied s (String.ofList (Text.folderOf graph.toList)) with
      | true => exact .inl ⟨_, _, rfl, .watching x⟩
      | false => exact .inr ⟨_, rfl, trivial⟩

variable (ids) in
/-- Every run on arguments that are all right ends in one of these ways. -/
theorem ends_run {args : List String} {i : Invocation} (h : parse args = .ok i) (s : fs.State) :
    Ends fs ids s i.settings i.command ((run fs.access ids args).run s).1
      ((run fs.access ids args).run s).2 := by
  simp only [run, h]
  rcases execute_spec ids i s with ⟨o, s', hrun, hends⟩ | ⟨f, hrun, hhindered⟩
  · rw [run_bind_eq hrun]
    exact hends
  · rw [run_bind_eq hrun]
    exact .failed hhindered f

theorem ends_of_run {args : List String} {i : Invocation} (h : parse args = .ok i) {o : Outcome}
    {s' : fs.State} (hrun : (run fs.access ids args).run s = (o, s')) :
    Ends fs ids s i.settings i.command o s' := by
  have hends := ends_run ids h s
  rwa [hrun] at hends

section Ends

variable {settings : Option String} {c : Command} {o : Outcome} {s' : fs.State}

/-- A command that fails has changed no file and printed nothing. -/
theorem Ends.of_exitCode_ne_zero (h : Ends fs ids s settings c o s')
    (hcode : o.ending.exitCode ≠ 0) : s' = s ∧ (o.printed = "" ∨ o.ending.exitCode = 2 ∧
      ∃ graph g, c = .validate graph ∧ fs.graph? s settings graph = some g ∧
        o.printed = g.validate.render g) := by
  cases h with
  | @validated graph g hg =>
    refine ⟨rfl, .inr ⟨?_, graph, g, rfl, hg, rfl⟩⟩
    dsimp only at hcode ⊢
    split at hcode
    · exact absurd rfl hcode
    · rw [if_neg ‹_›]
      rfl
  | failed => exact ⟨rfl, .inl rfl⟩
  | printed | exported | created | watching => exact absurd rfl hcode

theorem Ends.validate {graph : String} (h : Ends fs ids s settings (.validate graph) o s') :
    s' = s ∧
      ((fs.graph? s settings graph = none ∧ o.ending.exitCode = 1) ∨
        ∃ g, fs.graph? s settings graph = some g ∧ o.printed = g.validate.render g ∧
          (g.Supplied ∧ o.ending.exitCode = 0 ∨ ¬ g.Supplied ∧ o.ending.exitCode = 2)) := by
  cases h with
  | @validated graph g hg =>
    refine ⟨rfl, .inr ⟨g, hg, rfl, ?_⟩⟩
    dsimp only
    by_cases hvalid : g.validate.isValid = true
    · rw [if_pos hvalid]
      exact .inl ⟨Graph.isValid_validate_iff_supplied.1 hvalid, rfl⟩
    · rw [if_neg hvalid]
      exact .inr ⟨Graph.isValid_validate_iff_supplied.not.1 hvalid, rfl⟩
  | failed hgraph f => exact ⟨rfl, .inl ⟨hgraph, rfl⟩⟩

theorem Ends.exportPayload {graph : String} {out : Option String}
    (h : Ends fs ids s settings (.exportPayload graph out) o s') (hcode : o.ending.exitCode = 0) :
    ∃ g, fs.graph? s settings graph = some g ∧ fs.Delivered s g.payload.encode out o s' := by
  cases h with
  | printed hg => exact ⟨_, hg, rfl, rfl⟩
  | exported hg hwrite => exact ⟨_, hg, hwrite, rfl⟩
  | failed => cases hcode

theorem Ends.exitCode_validate_iff {graph : String}
    (h : Ends fs ids s settings (.validate graph) o s') :
    o.ending.exitCode = 0 ↔ ∃ g, fs.graph? s settings graph = some g ∧ g.Supplied := by
  obtain ⟨-, ⟨hg, hcode⟩ | ⟨g, hg, -, ⟨hsupplied, hcode⟩ | ⟨hsupplied, hcode⟩⟩⟩ := h.validate
  · simp [hg, hcode]
  · simpa [hg, hcode] using hsupplied
  · simpa [hg, hcode] using hsupplied

theorem Ends.exitCode_export_iff {graph : String} {out : Option String}
    (h : Ends fs ids s settings (.exportPayload graph out) o s')
    (hout : ∀ path ∈ out, ∀ text, fs.Accepts s path text) :
    o.ending.exitCode = 0 ↔ (fs.graph? s settings graph).isSome := by
  cases h with
  | printed hg | exported hg => simp [hg, Ending.exitCode]
  | failed hhindered f =>
    cases hg : fs.graph? s settings graph with
    | none => simp [Ending.exitCode]
    | some g =>
      obtain ⟨path, hpath, hrefused⟩ := hhindered g hg
      exact absurd (hout path hpath _) hrefused

theorem entry_eq_none_of_not_occupied {path : String} {p : fs.Place}
    (hfree : fs.occupied s path = false) (hplace : fs.place s path = some p) :
    fs.entry s p = none := by
  cases hentry : fs.entry s p with
  | none => rfl
  | some e =>
    have hoccupied := fs.occupied_of_entry hplace (hentry ▸ rfl)
    rw [hfree] at hoccupied
    cases hoccupied

theorem Ends.create {graph : String} (h : Ends fs ids s settings (.create graph) o s') :
    (∀ p e, fs.entry s p = some e → fs.entry s' p = some e) ∧
      (o.ending.exitCode = 0 → ∃ x, fs.settings? s settings = some x ∧
        (∀ p, fs.place s graph = some p → fs.entry s p = none) ∧
        fs.Overwritten s graph ((startDocument x ids).encode (.ofPath graph)) s') := by
  cases h with
  | created hsettings hfree hwrite =>
    have hempty : ∀ p, fs.place s graph = some p → fs.entry s p = none :=
      fun p ↦ entry_eq_none_of_not_occupied hfree
    refine ⟨fun p e he ↦ ?_, fun _ ↦ ⟨_, hsettings, hempty, hwrite⟩⟩
    rw [hwrite.frame p ?_, he]
    intro hplace
    rw [hempty p hplace] at he
    cases he
  | failed => exact ⟨fun _ _ he ↦ he, nofun⟩

end Ends

/-- A run that is not carried out to the end changes no file, and of what it prints only the report
on a graph with faults is left. A check never changes a file and tells by its exit code whether it
could read what it was given and whether every reachable input is supplied. An export puts the
payload into one file or prints it, and a new document only ever takes a place where nothing was. -/
theorem changes_files_only_on_success (fs : FileSystem) (ids : IdSupply) {args : List String}
    {i : Invocation} (hparse : parse args = .ok i) {s s' : fs.State} {o : Outcome}
    (hrun : (run fs.access ids args).run s = (o, s')) :
    (o.ending.exitCode ≠ 0 → s' = s ∧ (o.printed = "" ∨ o.ending.exitCode = 2 ∧
      ∃ graph g, i.command = .validate graph ∧ fs.graph? s i.settings graph = some g ∧
        o.printed = g.validate.render g)) ∧
    (∀ graph, i.command = .validate graph → s' = s ∧
      (∀ g, fs.graph? s i.settings graph = some g → o.printed = g.validate.render g) ∧
      (o.ending.exitCode = 0 ↔ ∃ g, fs.graph? s i.settings graph = some g ∧ g.Supplied) ∧
      (o.ending.exitCode = 2 ↔ ∃ g, fs.graph? s i.settings graph = some g ∧ ¬ g.Supplied) ∧
      (o.ending.exitCode = 1 ↔ fs.graph? s i.settings graph = none)) ∧
    (∀ graph out, i.command = .exportPayload graph out → o.ending.exitCode = 0 →
      ∃ g, fs.graph? s i.settings graph = some g ∧
        fs.Delivered s g.payload.encode out o s') ∧
    ∀ graph, i.command = .create graph →
      (∀ p e, fs.entry s p = some e → fs.entry s' p = some e) ∧
        (o.ending.exitCode = 0 → ∃ x, fs.settings? s i.settings = some x ∧
          (∀ p, fs.place s graph = some p → fs.entry s p = none) ∧
          fs.Overwritten s graph ((startDocument x ids).encode (.ofPath graph)) s') := by
  have hends := ends_of_run hparse hrun
  refine ⟨hends.of_exitCode_ne_zero, ?_, ?_, ?_⟩
  · intro graph hcommand
    rw [hcommand] at hends
    obtain ⟨hs, ⟨hg, hcode⟩ | ⟨g, hg, hreport, hcode⟩⟩ := hends.validate
    · simp [hs, hg, hcode]
    · rcases hcode with ⟨hsupplied, hcode⟩ | ⟨hsupplied, hcode⟩
      · simp [hs, hg, hreport, hcode, hsupplied]
      · simp [hs, hg, hreport, hcode, hsupplied]
  · intro graph out hcommand hcode
    rw [hcommand] at hends
    exact hends.exportPayload hcode
  · intro graph hcommand
    rw [hcommand] at hends
    exact hends.create

theorem changes_files_only_on_success_new :
    let ids : IdSupply := .ofStream .ofRandom
    let r := (run Directory.access ids ["new", "g.ron"]).run ⟨.empty⟩
    parse ["new", "g.ron"] = .ok ⟨.create "g.ron", none⟩ ∧ r.1.ending.exitCode = 0 ∧
      Directory.store.Overwritten ⟨.empty⟩ "g.ron" ((startDocument {} ids).encode .ron) r.2 := by
  intro ids r
  have hparse : parse ["new", "g.ron"] = .ok ⟨.create "g.ron", none⟩ := by decide +kernel
  have hcode : r.1.ending.exitCode = 0 := by decide +kernel
  have hrun : (run Directory.fileSystem.access ids ["new", "g.ron"]).run ⟨.empty⟩ = (r.1, r.2) := rfl
  obtain ⟨-, -, -, hcreate⟩ := changes_files_only_on_success Directory.fileSystem ids hparse hrun
  obtain ⟨x, hx, -, hwrite⟩ := (hcreate "g.ron" rfl).2 hcode
  cases hx
  exact ⟨hparse, hcode, hwrite⟩

end CommandLine

end PipelineGraph
