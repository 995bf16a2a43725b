import SelectorRouter.Diamond.Loupe
import SelectorRouter.Diamond.Registration
import SelectorRouter.Dispatch.Switch
import SelectorRouter.Session
import SelectorRouter.Template.Router

/-!
# Generating a router

The source of a contract that forwards each call to the module with the function.
The modules are checked first, then their selectors; a module without functions is
worth a warning, a router without functions is refused. In debug mode the dispatch
tree is checked before it is written out.
-/

namespace SelectorRouter.Router

structure Request where
  modules : List Module
  routerName : Json
  template : Option String
  receivesEther : Bool
  diamond : Bool
  filter : FunctionFilter

/-- The name of the router in messages and in generated text. -/
def Request.shownName (r : Request) : String :=
  r.routerName.display

def defaultName : String := "Router"

/-- The function that accepts plain transfers, if there shall be one. -/
def receiveText (receivesEther : Bool) : String :=
  if receivesEther then "\n    receive() external payable \x7b\x7d\n" else ""

def logPrefix : String := "routergen.router: "

def addressLine (m : Module) (address : String) : String :=
  logPrefix ++ m.name.display ++ ": " ++ address

def treeLine (router : String) (count depth : Nat) : String :=
  logPrefix ++ router ++ ": " ++ toString count ++ " selectors, dispatch depth "
    ++ toString depth

def unreachable (m : Module) : Report :=
  ⟨.unreachableModule,
    "Module `" ++ m.name.display ++ "` exposes no routable function, "
      ++ "it cannot be reached through the router", none⟩

/-- An empty template counts as none. -/
def templateOf (template : Option String) : String :=
  match template with
  | none => Template.router
  | some text => if text.isEmpty then Template.router else text

def logAddress (m : Module) : Action Unit := do
  let address ← Action.ofResult m.checksumAddress
  Action.log (addressLine m address)

def warnIfUnreachable (filter : FunctionFilter) (m : Module) : Action Unit := do
  let selectors ← Action.ofResult (m.selectors filter)
  if selectors.isEmpty then Action.warn .generator (unreachable m)

/-- The selectors of the modules, when they differ. -/
def routedSelectors (r : Request) : Except Fault (List Selector) := do
  let selectors ← Module.collect r.shownName r.filter r.modules
  Selector.validate selectors
  return selectors

/-- The texts of the contract, from modules and a tree that have been checked. -/
def sections (r : Request) (tree : Dispatch.Tree) : Except Fault Template.Sections := do
  let ids ← Constant.identifiers (r.modules.map (·.name))
  let modules ← Constant.declarations ids r.modules
  let selectors ← Dispatch.switchText ids tree
  if r.diamond then
    let table ← Diamond.FacetTable.ofModules r.filter r.modules
    let construction ← Diamond.constructorText ids table
    let compat ← Diamond.compatText r.shownName ids table
    return ⟨r.routerName, modules, selectors, receiveText r.receivesEther, construction, compat⟩
  else
    return ⟨r.routerName, modules, selectors, receiveText r.receivesEther, "", ""⟩

def generate (r : Request) : Action String := do
  Action.ofResult (Module.check r.shownName r.modules)
  r.modules.forM logAddress
  let selectors ← Action.ofResult (routedSelectors r)
  if selectors.isEmpty then
    Action.ofResult (.error (.noRoutableFunctions r.shownName))
  r.modules.forM (warnIfUnreachable r.filter)
  let tree ← Action.ofResult (Dispatch.Tree.build Dispatch.defaultLeafSize selectors)
  if ← Action.isDebug then
    Action.ofResult (tree.check Dispatch.defaultLeafSize)
  Action.log (treeLine r.shownName selectors.length tree.depth)
  let texts ← Action.ofResult (sections r tree)
  Action.ofResult (Template.render (templateOf r.template) texts.slots)

end SelectorRouter.Router
