import SelectorRouter.CommandLine.Run

/-!
# The program

Fetches the files that the arguments name, runs the command line on them, and puts
its outcome where it belongs. What a run does is decided in `CommandLine.run`.
-/

namespace SelectorRouter.Main

/-! ## Fetching files -/

def exists? {α : Type} (action : IO α) : IO Bool := do
  match ← action.toBaseIO with
  | .ok _ => return true
  | .error _ => return false

/-- What stands at a path. The bytes of a file are fetched only where they are wanted. -/
def contentAt? (path : String) (wanted : Bool) : IO (Option Files.Content) := do
  if ← exists? (IO.FS.realPath (path ++ "/.")) then return some .directory
  else if wanted then
    match ← (IO.FS.readBinFile path).toBaseIO with
    | .ok bytes => return some (.bytes bytes.data.toList)
    | .error _ => return none
  else if ← exists? (IO.FS.realPath path) then return some (.bytes [])
  else return none

/-- What stands at the places along a path, from a place whose own path is `path`. -/
def survey (place : List String) (path : String) (wanted : Bool) :
    List String → IO Files.Tree
  | [] => return []
  | component :: rest => do
    match Files.Tree.enter place component with
    | .error _ => return []
    | .ok next =>
      let path := path ++ component
      let content ← contentAt? path (wanted && rest.isEmpty)
      let others ← survey next (path ++ "/") wanted rest
      return (content.map fun content => (next, content)).toList ++ others

def surveyPath (path : String) (wanted : Bool) : IO Files.Tree :=
  if path.startsWith "/" then
    survey ["/"] "/" wanted ((Files.components path).drop 1)
  else survey [] "" wanted (Files.components path)

/-- The files that the arguments name. -/
def fetch (args : CommandLine.Arguments) : IO Files.Tree := do
  let options := [args.config, args.template].filterMap CommandLine.givenPath?
  let read ← (options ++ args.inputs).mapM fun path => surveyPath path true
  let written ← (CommandLine.givenPath? args.output).toList.mapM fun path => surveyPath path false
  return (read ++ written).flatten

def fetchFor (argv : List String) : IO Files.Tree :=
  match CommandLine.parse argv with
  | .ok args => fetch args
  | .error _ => return []

/-- Saves the file that a finished run has put into the tree. -/
def save (argv : List String) (files : Files.Tree) : IO Unit := do
  match CommandLine.parse argv with
  | .ok args =>
    match CommandLine.givenPath? args.output with
    | some path =>
      match files.readBytes path with
      | .ok bs => IO.FS.writeBinFile path ⟨bs.toArray⟩
      | .error _ => return
    | none => return
  | .error _ => return

/-! ## Showing the outcome -/

def faultText (fault : Fault) : String :=
  match fault.message? with
  | some message => message
  | none => "the input has the wrong form"

/-- What a run tells besides its output, and its exit code. -/
def conclude (ending : CommandLine.Ending) : String × UInt32 :=
  match ending with
  | .stopped (.usage message) => (CommandLine.usageError message ++ "\n", 2)
  | .stopped .help => ("", 0)
  | .stopped .version => ("", 0)
  | .failed fault => (CommandLine.programName ++ ": " ++ faultText fault ++ "\n", 1)
  | .finished => ("", 0)

def report (outcome : CommandLine.Outcome) (session : Session) : IO UInt32 := do
  let (ending, code) := conclude outcome.ending
  let warnings := session.shown.map fun r => "warning: " ++ r.display
  IO.eprint (outcome.stderr ++ CommandLine.unlines warnings ++ ending)
  IO.print outcome.stdout
  return code

def environmentVariables : IO (List (String × String)) := do
  let names := ["ROUTERGEN_TRACEBACK_LIMIT", "ROUTERGEN_DEBUG"]
  let values ← names.mapM fun name => do
    return (← IO.getEnv name).map fun value => (name, value)
  return values.filterMap id

def perform (argv : List String) (environment : Environment) : IO UInt32 := do
  let machine : CommandLine.Machine :=
    ⟨← fetchFor argv, { Session.initial with debug := environment.debug }, none⟩
  let (outcome, after) := CommandLine.run environment.tracebackLimit argv machine
  if let .finished := outcome.ending then save argv after.files
  report outcome after.session

end SelectorRouter.Main

open SelectorRouter in
def main (argv : List String) : IO UInt32 := do
  match Environment.ofVariables (← Main.environmentVariables) with
  | .ok environment => Main.perform argv environment
  | .error fault =>
    IO.eprintln (CommandLine.programName ++ ": " ++ Main.faultText fault)
    return 1
