import SelectorRouter.Router

/-!
# Settings

The choices of a user, as a settings file holds them, and the variables of the
environment that the program looks at.
-/

namespace SelectorRouter

structure Settings where
  routerName : Json
  receivesEther : Bool
  diamond : Bool
  excludeCoverage : Bool
  deriving Repr

namespace Settings

def default : Settings := ⟨.str Router.defaultName, false, false, false⟩

def names : List String :=
  ["router_name", "can_receive_plain_eth", "has_diamond_compat", "exclude_coverage_functions"]

/-- The names in a settings value that are no settings, each once. -/
def unknownNames (items : List Json) : Except Fault (List Json) :=
  if items.all fun item => item.key?.isSome then
    .ok <| items.filter fun item =>
      match item with
      | .str s => !names.contains s
      | _ => true
  else .error (.wrongKind .key)

def stringOf (v : Json) : Except Fault String :=
  match v with
  | .str s => .ok s
  | _ => .error (.wrongKind .name)

def nameSetting (v : Option Json) (standard : Json) : Except Fault Json :=
  match v with
  | none => .ok standard
  | some (.str s) => .ok (.str s)
  | some _ => .error .settingOfWrongKind

def flagSetting (v : Option Json) (standard : Bool) : Except Fault Bool :=
  match v with
  | none => .ok standard
  | some (.bool b) => .ok b
  | some _ => .error .settingOfWrongKind

/-- Reads settings. Unknown names are reported together, in order of their
characters; only an object can be settings. -/
def ofJson (v : Json) : Except Fault Settings := do
  let items ← match v.items? with
    | some items => .ok items
    | none => .error (.wrongKind .items)
  let unknown ← unknownNames items
  if unknown.isEmpty then
    match v with
    | .obj members =>
      return ⟨← nameSetting (members.lookup "router_name") default.routerName,
        ← flagSetting (members.lookup "can_receive_plain_eth") default.receivesEther,
        ← flagSetting (members.lookup "has_diamond_compat") default.diamond,
        ← flagSetting (members.lookup "exclude_coverage_functions") default.excludeCoverage⟩
    | _ => .error (.wrongKind .namedSettings)
  else
    let strings ← unknown.mapM stringOf
    .error (.unknownSettings (strings.eraseDups.mergeSort fun a b => !(b < a)))

/-- The command line that asks for the settings. -/
def commandLine (s : Settings) : String :=
  " --name " ++ s.routerName.display ++ (if s.receivesEther then " --receive" else "")
    ++ (if s.diamond then " --diamond-compat" else "")
    ++ (if s.excludeCoverage then " --exclude-coverage-functions" else "")

def filter (s : Settings) : FunctionFilter :=
  if s.excludeCoverage then FunctionFilter.withoutCoverage else FunctionFilter.all

def request (s : Settings) (modules : List Module) (template : Option String) :
    Router.Request :=
  ⟨modules, s.routerName, template, s.receivesEther, s.diamond, s.filter⟩

end Settings

/-- What the program takes from the environment. -/
structure Environment where
  tracebackLimit : Option Int
  debug : Bool
  deriving Repr, DecidableEq

def Environment.ofVariables (values : List (String × String)) : Except Fault Environment := do
  let limit ← match values.lookup "ROUTERGEN_TRACEBACK_LIMIT" with
    | none => .ok none
    | some s =>
      match Number.readInteger 10 s with
      | .ok n => .ok (some n)
      | .error defect => .error (.malformedInteger s 10 defect)
  return ⟨limit, values.lookup "ROUTERGEN_DEBUG" == some "1"⟩

end SelectorRouter
