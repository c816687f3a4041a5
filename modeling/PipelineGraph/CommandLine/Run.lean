import PipelineGraph.CommandLine.Files
import PipelineGraph.CommandLine.Usage
import PipelineGraph.Document.Text
import PipelineGraph.Editor.Basic
import PipelineGraph.Payload.Text
import PipelineGraph.Settings.Text

namespace PipelineGraph.CommandLine

inductive SettingsError where
  | unreadable
  | malformed
deriving DecidableEq

inductive Failure where
  | settings (cause : SettingsError)
  | document (cause : DocumentError)
  | output (path : String)
  | alreadyExists (path : String)
  | unwatchable (path : String)
deriving DecidableEq

def Failure.message : Failure → String
  | settings .unreadable => "The settings cannot be read"
  | settings .malformed => "The settings are not well formed"
  | document .io => "The document cannot be read or written"
  | document .json => "Invalid JSON document"
  | document .ron => "Invalid RON document"
  | output path => "Failed to write " ++ path
  | alreadyExists path => "Refusing to overwrite existing file " ++ path
  | unwatchable path => "Cannot watch " ++ path

inductive Ending where
  | clean
  | invalidGraph
  | watching (graph : String) (settings : Settings)
  | usage (e : UsageError)
  | failed (f : Failure)

def Ending.exitCode : Ending → Nat
  | clean | watching _ _ => 0
  | invalidGraph => 2
  | usage e => if e.isRequest then 0 else 64
  | failed _ => 1

structure Outcome where
  ending : Ending
  printed : String := ""

def programName : String := "pgraph_editor"

def programVersion : String := "0.1.0"

variable {m : Type → Type} [Monad m]

def readSettings (files : FileAccess m) (path : Option String) :
    ExceptT SettingsError m Settings := do
  match path with
  | none => return {}
  | some path =>
    let some text ← files.read path | throw .unreadable
    let some settings := Settings.parse? text | throw .malformed
    return settings

def readDocument (files : FileAccess m) (path : String) : ExceptT DocumentError m Document := do
  let some text ← files.read path | throw .io
  match Document.parse text (.ofPath path) with
  | .ok d => return d
  | .error e => throw e

def newEditor (settings : Settings) (ids : IdSupply) : Editor := .new settings .empty uniqueName ids

def openDocument (files : FileAccess m) (settings : Settings) (ids : IdSupply) (path : String) :
    ExceptT Failure m Editor := do
  let d ← (readDocument files path).adapt .document
  return (newEditor settings ids).load d.snapshot

def reportOn (e : Editor) : Outcome :=
  let report := e.validate
  { ending := if report.isValid then .clean else .invalidGraph, printed := report.render e.graph }

def exportTo (files : FileAccess m) (e : Editor) (out : Option String) :
    ExceptT Failure m Outcome := do
  let text := e.graph.payload.encode
  match out with
  | none => return { ending := .clean, printed := text ++ "\n" }
  | some path =>
    if ← files.write path text then return { ending := .clean } else throw (.output path)

def createDocument (files : FileAccess m) (e : Editor) (path : String) :
    ExceptT Failure m Outcome := do
  if ← files.occupied path then throw (.alreadyExists path)
  let d : Document := { snapshot := e.addStart.2.graph.snapshot }
  if ← files.write path (d.encode (.ofPath path)) then return { ending := .clean }
  throw (.document .io)

def startWatching (files : FileAccess m) (settings : Settings) (path : String) :
    ExceptT Failure m Outcome := do
  if ← files.occupied (String.ofList (Text.folderOf path.toList)) then
    return { ending := .watching path settings }
  throw (.unwatchable path)

/-- Carries a command out. The settings are read before anything else. -/
def execute (files : FileAccess m) (ids : IdSupply) (i : Invocation) :
    ExceptT Failure m Outcome := do
  let settings ← (readSettings files i.settings).adapt .settings
  match i.command with
  | .validate graph => return reportOn (← openDocument files settings ids graph)
  | .exportPayload graph out => exportTo files (← openDocument files settings ids graph) out
  | .create graph => createDocument files (newEditor settings ids) graph
  | .watch graph => startWatching files settings graph

def helpText : String :=
  "Headless pipeline graph tool\n\n" ++
  "Usage: " ++ programName ++ " [OPTIONS] <COMMAND>\n\n" ++
  "Commands:\n" ++
  "  validate <GRAPH>      Check input bindings, exit 2 on errors\n" ++
  "  export <GRAPH> [OUT]  Write the execution payload as JSON\n" ++
  "  new <GRAPH>           Create a document holding one start node\n" ++
  "  watch <GRAPH>         Check again whenever the document changes\n\n" ++
  "Options:\n" ++
  "  -c, --config <EDITOR_RON>  Editor config file\n" ++
  "  -h, --help                 Print help\n" ++
  "  -V, --version              Print version\n"

def answer : UsageError → String
  | .helpAsked => helpText
  | .versionAsked => programName ++ " " ++ programVersion ++ "\n"
  | _ => ""

def run (files : FileAccess m) (ids : IdSupply) (args : List String) : m Outcome := do
  match parse args with
  | .error e => return { ending := .usage e, printed := answer e }
  | .ok i =>
    match ← (execute files ids i).run with
    | .ok outcome => return outcome
    | .error f => return { ending := .failed f }

end PipelineGraph.CommandLine
