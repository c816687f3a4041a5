import PipelineGraph.CommandLine.Run

namespace PipelineGraph.CommandLine

def machineFiles : FileAccess IO where
  read path := do
    try return some (← IO.FS.readFile path) catch _ => return none
  write path text := do
    try
      IO.FS.writeFile path text
      return true
    catch _ => return false
  occupied path := do
    try
      let _ ← IO.FS.Handle.mk path .read
      return true
    catch
      | .noFileOrDirectory _ _ _ => return false
      | _ => return true

def randomIds : IO IdSupply := do
  let bytes ← IO.getRandomBytes 16
  let seed := bytes.foldl (fun n b ↦ n * 256 + b.toNat) 0
  return .ofStream fun n ↦ .ofRandom (seed + n)

def check (settings : Settings) (ids : IdSupply) (graph : String) : IO Unit := do
  match ← (openDocument machineFiles settings ids graph).run with
  | .ok e => IO.print (reportOn e).printed
  | .error f => IO.eprintln f.message

partial def keepChecking (settings : Settings) (ids : IdSupply) (graph : String)
    (last : Option String) : IO Unit := do
  IO.sleep 250
  let text ← machineFiles.read graph
  if text ≠ last then check settings ids graph
  keepChecking settings ids graph text

end PipelineGraph.CommandLine

open PipelineGraph.CommandLine in
def main (args : List String) : IO UInt32 := do
  let ids ← randomIds
  let outcome ← run machineFiles ids args
  IO.print outcome.printed
  match outcome.ending with
  | .usage e => if !e.isRequest then IO.eprintln e.message
  | .failed f => IO.eprintln f.message
  | .watching graph settings =>
    check settings ids graph
    keepChecking settings ids graph (← machineFiles.read graph)
  | _ => pure ()
  return UInt32.ofNat outcome.ending.exitCode
