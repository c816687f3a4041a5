namespace PipelineGraph.CommandLine

inductive Command where
  | validate (graph : String)
  | exportPayload (graph : String) (out : Option String)
  | create (graph : String)
  | watch (graph : String)
deriving DecidableEq

structure Invocation where
  command : Command
  settings : Option String
deriving DecidableEq

inductive UsageError where
  | helpAsked
  | versionAsked
  | nothingAsked
  | missingCommand
  | unknownCommand
  | missingArgument
  | unknownArgument
  | invalidValue
  | unexpectedValue
  | repeatedOption
deriving DecidableEq

namespace UsageError

def isRequest : UsageError → Bool
  | helpAsked | versionAsked => true
  | _ => false

def message : UsageError → String
  | helpAsked | versionAsked | nothingAsked => "Try --help"
  | missingCommand => "A command is missing"
  | unknownCommand => "There is no such command"
  | missingArgument => "The path of a graph is missing"
  | unknownArgument => "There is an argument too many"
  | invalidValue => "A value is missing or empty"
  | unexpectedValue => "An option takes no value"
  | repeatedOption => "An option is given twice"

end UsageError

inductive Slot where
  | settings
  | graph
  | out
deriving DecidableEq

/-- What may follow at one level of the command line: which places the bare arguments fill, and
whether a command may come. Only there may the version be asked for. -/
structure Level where
  places : List Slot
  top : Bool

def topLevel : Level := ⟨[], true⟩

def commandNames : List String := ["validate", "export", "new", "watch", "help"]

/-- The arguments read so far at one level. The last value may still have to be checked, and an
option may still wait for its value. -/
structure Reading where
  given : List (Slot × String) := []
  pending : Option (Slot × Option String) := none
  placed : Nat := 0

namespace Reading

def settle (r : Reading) : Except UsageError Reading :=
  match r.pending with
  | none => .ok r
  | some (_, none) => .error .invalidValue
  | some (slot, some value) =>
    if (r.given.lookup slot).isSome then .error .repeatedOption
    else if value = "" then .error .invalidValue
    else .ok { r with given := (slot, value) :: r.given, pending := none }

def waits (r : Reading) : Bool :=
  match r.pending with
  | some (_, none) => true
  | _ => false

def supply (r : Reading) (value : String) : Reading :=
  { r with pending := r.pending.map fun p ↦ (p.1, some value) }

def settingsOption (r : Reading) (value : Option String) : Except UsageError Reading := do
  let r := { ← r.settle with pending := some (.settings, value) }
  if value.isSome then r.settle else return r

def stop (r : Reading) (e : UsageError) : Except UsageError Reading := do
  let _ ← r.settle
  throw e

end Reading

inductive Argument where
  | separator
  | long (name : String) (value : Option String)
  | short (letters : List Char)
  | bare
deriving DecidableEq

/-- Two hyphens alone separate, two or one in front mark an option, and a single hyphen is an
argument like any other. -/
def Argument.ofString (s : String) : Argument :=
  match s.toList with
  | ['-', '-'] => separator
  | '-' :: '-' :: cs =>
    long (String.ofList (cs.takeWhile (· ≠ '=')))
      (match cs.dropWhile (· ≠ '=') with
        | [] => none
        | _ :: value => some (String.ofList value))
  | '-' :: c :: cs => short (c :: cs)
  | _ => bare

namespace Level

def longOption (l : Level) (r : Reading) (name : String) (value : Option String) :
    Except UsageError Reading :=
  if name = "config" then r.settingsOption value
  else if name = "help" ∨ l.top ∧ name = "version" then
    if value.isSome then throw .unexpectedValue
    else r.stop (if name = "help" then .helpAsked else .versionAsked)
  else throw .unknownArgument

def shortOption (l : Level) (r : Reading) (letters : List Char) : Except UsageError Reading :=
  match letters with
  | ['c'] => r.settingsOption none
  | 'c' :: '=' :: value => r.settingsOption (some (String.ofList value))
  | 'c' :: value => r.settingsOption (some (String.ofList value))
  | 'h' :: _ => r.stop .helpAsked
  | 'V' :: _ => if l.top then r.stop .versionAsked else throw .unknownArgument
  | _ => throw .unknownArgument

def place (l : Level) (r : Reading) (separated : Bool) (arg : String) : Except UsageError Reading :=
  match l.places[r.placed]? with
  | some slot => do
    let r ← r.settle
    return { r with pending := some (slot, some arg), placed := r.placed + 1 }
  | none =>
    throw (if l.top ∧ ¬ (separated ∧ arg ∈ commandNames) then .unknownCommand
      else .unknownArgument)

/-- Reads the arguments of a level, up to a command if one may come. It is returned with what
follows it; what is pending then is not yet checked. -/
def read (l : Level) : Reading → List String →
    Except UsageError (Reading × Option (String × List String))
  | r, [] => do return (← r.settle, none)
  | r, arg :: rest => do
    if l.top ∧ ¬ r.waits ∧ arg ∈ commandNames then return (r, some (arg, rest))
    match Argument.ofString arg with
    | .separator =>
      let r ← rest.foldlM (fun r arg ↦ l.place r true arg) r
      return (← r.settle, none)
    | .long name value => l.read (← l.longOption r name value) rest
    | .short letters => l.read (← l.shortOption r letters) rest
    | .bare => if r.waits then l.read (r.supply arg) rest else l.read (← l.place r false arg) rest

end Level

def readCommand (name : String) (args : List String) : Except UsageError (Reading × Command) := do
  let places := if name = "export" then [.graph, .out] else [.graph]
  let (r, _) ← (Level.mk places false).read {} args
  match r.given.lookup .graph with
  | none => throw .missingArgument
  | some graph =>
    return (r, if name = "validate" then .validate graph
      else if name = "export" then .exportPayload graph (r.given.lookup .out)
      else if name = "new" then .create graph
      else .watch graph)

def helpOn (topic : List String) : UsageError :=
  match topic with
  | [] => .helpAsked
  | [name] => if name ∈ commandNames then .helpAsked else .unknownCommand
  | _ => .unknownCommand

/-- The meaning of the arguments. The settings file may be named before or after the command; the
latter counts. -/
def parse (args : List String) : Except UsageError Invocation := do
  match ← topLevel.read {} args with
  | (r, none) => throw (if r.given.isEmpty then .nothingAsked else .missingCommand)
  | (r, some (name, rest)) =>
    if name = "help" then throw (helpOn rest)
    let (inner, command) ← readCommand name rest
    let r ← r.settle
    return { command, settings := inner.given.lookup .settings <|> r.given.lookup .settings }

end PipelineGraph.CommandLine
