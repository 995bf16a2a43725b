import SelectorRouter.CommandLine.Arguments
import SelectorRouter.Files.Deployment
import SelectorRouter.Settings

/-!
# Runs of the program

A run reads its arguments, its settings, a template and the deployment files, and
writes the source of a router to a file or to the standard output. Nothing is
written before everything else has succeeded. What a run leaves behind is the state
of the next one: files, the debug flag and the traceback limit.
-/

namespace SelectorRouter.CommandLine

structure Machine where
  files : Files.Tree
  session : Session
  tracebackLimit : Option Json
  deriving Repr

inductive Ending where
  | stopped (stop : Stop)
  | failed (fault : Fault)
  | finished
  deriving Repr

structure Outcome where
  ending : Ending
  stdout : String
  stderr : String
  deriving Repr

def programName : String := "routergen"

def version : String := "0.1.0"

/-- The line that tells why the arguments were refused. -/
def usageError (message : String) : String :=
  programName ++ ": error: " ++ message

/-- The traceback limit of a run; one given in the arguments comes first, then the
one of the environment. -/
def limitOf (environment : Option Int) (args : Arguments) : Json :=
  match args.limit.or (environment.map .int) with
  | some limit => limit
  | none => .int (if args.verbose then 1000 else 0)

def givenPath? (value : Option OptionValue) : Option String :=
  value.bind OptionValue.path?

/-- Explicit arguments win over the settings file. -/
def override (args : Arguments) (s : Settings) : Settings :=
  ⟨(args.name.map OptionValue.toJson).getD s.routerName, s.receivesEther || args.receive,
    s.diamond || args.diamond, s.excludeCoverage || args.coverage⟩

def readSettings (files : Files.Tree) (path : String) : Except Fault Settings := do
  let text ← files.readText path path
  match Json.read text with
  | .ok data => Settings.ofJson data
  | .error e => .error (.malformedJson e)

def settingsOf (files : Files.Tree) (args : Arguments) : Except Fault Settings :=
  match givenPath? args.config with
  | none => .ok (override args Settings.default)
  | some path => (readSettings files path).map (override args)

def templateOf (files : Files.Tree) (args : Arguments) : Except Fault (Option String) :=
  match givenPath? args.template with
  | none => .ok none
  | some path =>
    let shown := (Files.Path.ofString path).text
    (files.readText shown shown).map fun text => some (String.ofList text)

/-- The source of the router of some deployment files. -/
def generateFiles (files : Files.Tree) (paths : List String) (settings : Settings)
    (template : Option String) : Action String := do
  let modules ← Action.ofResult (Files.loadModules files paths)
  Router.generate (settings.request modules template)

def warningControl (args : Arguments) : Json :=
  (args.warnings.map OptionValue.toJson).getD .null

def verboseLine (settings : Settings) : String :=
  "cli specified: `" ++ Text.strip settings.commandLine ++ "`"

/-- The lines, each with its end. -/
def unlines (ls : List String) : String :=
  String.join (ls.map (· ++ "\n"))

/-- The source that a run generates, once its settings are known. -/
def source (files : Files.Tree) (args : Arguments) (settings : Settings) : Action String := do
  let template ← Action.ofResult (templateOf files args)
  Action.withWarnings (warningControl args)
    (generateFiles files args.inputs settings template)

/-- Writes the source, to a file or else to the standard output. -/
def deliver (args : Arguments) (files : Files.Tree) (text : String) :
    Except Fault (Files.Tree × String) :=
  match givenPath? args.output with
  | none => .ok (files, text)
  | some path => (files.writeText path text).map fun files => (files, "")

def execute (environment : Option Int) (args : Arguments) (m : Machine) : Outcome × Machine :=
  let session := m.session.clearOutput
  let session := if args.debug then { session with debug := true } else session
  let m := { m with session := session, tracebackLimit := some (limitOf environment args) }
  match settingsOf m.files args with
  | .error fault => (⟨.failed fault, "", ""⟩, m)
  | .ok settings =>
    let (result, session) := source m.files args settings m.session
    let m := { m with session := session }
    let stderr := if args.verbose then unlines (verboseLine settings :: session.log) else ""
    match result.bind (deliver args m.files) with
    | .error fault => (⟨.failed fault, "", stderr⟩, m)
    | .ok (files, stdout) => (⟨.finished, stdout, stderr⟩, { m with files := files })

/-- A run of the program. `environment` is the traceback limit of the environment. -/
def run (environment : Option Int) (argv : List String) (m : Machine) : Outcome × Machine :=
  match parse argv with
  | .ok args => execute environment args m
  | .error .version =>
    (⟨.stopped .version, version ++ "\n", ""⟩, { m with session := m.session.clearOutput })
  | .error stop => (⟨.stopped stop, "", ""⟩, { m with session := m.session.clearOutput })

end SelectorRouter.CommandLine
