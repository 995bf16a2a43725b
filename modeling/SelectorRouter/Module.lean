import SelectorRouter.Abi.Function
import SelectorRouter.Address

/-!
# Modules

A module is a deployed contract behind the router: its name, its address and its
ABI, all as they were found in a deployment file. A module list is accepted when
it is not empty, its names differ and its addresses are well formed; the
selectors of its functions, sorted by method id, must then differ too.
-/

namespace SelectorRouter

structure Module where
  name : Json
  address : Json
  abi : List Json
  deriving Repr, Inhabited

namespace Module

/-- A module with the items of any JSON value as its ABI. -/
def ofJson (name address abi : Json) : Except Fault Module :=
  match abi.items? with
  | some items => .ok ⟨name, address, items⟩
  | none => .error (.wrongKind .items)

/-- The address with its checksum, if it is well formed. The checksum itself asks for a
text of the right size once more. -/
def checksumAddress (m : Module) : Except Fault String :=
  match m.address with
  | .str s =>
    if Address.isHex s then
      match Address.checksum? (Text.lower s) with
      | some address => .ok address
      | none => .error (.notAddressSized (Text.lower s))
    else .error (.invalidAddress m.name m.address)
  | _ => .error (.invalidAddress m.name m.address)

def selectorOf (m : Module) (f : Function) : Except Fault Selector := do
  let signature ← f.signature
  return ⟨m.name, f.name, signature, methodId signature⟩

/-- The selectors of the functions of a module, in the order of its ABI. -/
def selectors (m : Module) (filter : FunctionFilter) : Except Fault (List Selector) :=
  (Function.ofAbi m.abi filter).mapM m.selectorOf

/-- Checks the names and addresses from the front; `seen` holds the names before. -/
def checkFrom (router : String) (seen : List Json.Key) : List Module → Except Fault Unit
  | [] => .ok ()
  | m :: rest =>
    match m.name.key? with
    | none => .error (.wrongKind .key)
    | some key =>
      if seen.contains key then .error (.duplicateModule m.name router)
      else match m.checksumAddress with
        | .error fault => .error fault
        | .ok _ => checkFrom router (key :: seen) rest

def check (router : String) (modules : List Module) : Except Fault Unit :=
  if modules.isEmpty then .error (.emptyModuleList router)
  else checkFrom router [] modules

/-- The selectors of all modules in order of their method ids. The sort is stable:
equal ids stay in the order of the modules and of their ABIs. -/
def collect (router : String) (filter : FunctionFilter) (modules : List Module) :
    Except Fault (List Selector) :=
  if modules.isEmpty then .error (.emptyModuleList router)
  else do
    let all ← modules.mapM (·.selectors filter)
    return all.flatten.mergeSort fun a b => a.methodId ≤ b.methodId

end Module

namespace Selector

/-- The text of the method id in emitted code, which must be in range. -/
def emitted (s : Selector) : Except Fault String :=
  match s.literal? with
  | some literal => .ok literal
  | none => .error .methodIdOutOfRange

/-- Does another selector of the list have the same method id? -/
def shared (ss : List Selector) (s : Selector) : Bool :=
  1 < ss.countP fun t => t.methodId == s.methodId

def collisions (ss : List Selector) : List Selector :=
  ss.filter (shared ss)

/-- A report on colliding selectors. It shows their method ids, so they must be in
range. -/
def collisionReport (ss : List Selector) (hint : Option String) : Fault :=
  if ss.all inRange then .selectorCollision ss hint else .methodIdOutOfRange

/-- Every occurrence of a repeated method id is reported. -/
def validate (ss : List Selector) : Except Fault Unit :=
  if (collisions ss).isEmpty then .ok ()
  else .error <| collisionReport (collisions ss)
    (some "rename one of the functions in each group so the selectors differ")

end Selector

end SelectorRouter
