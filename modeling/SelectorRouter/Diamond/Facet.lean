import SelectorRouter.Module
import SelectorRouter.Number.Integer

/-!
# Facets

A router that is read like a diamond (EIP-2535) registers one facet for each
module, with the selectors of the module in the order of its ABI. The look-ups
of this module answer as those of the generated contract do, with `none` in
place of the zero address.
-/

namespace SelectorRouter.Diamond

structure Facet where
  module : Json
  address : String
  selectors : List Selector
  deriving Repr

abbrev FacetTable := List Facet

namespace FacetTable

def facetOf (filter : FunctionFilter) (m : Module) : Except Fault Facet := do
  let address ← m.checksumAddress
  let selectors ← m.selectors filter
  return ⟨m.name, address, selectors⟩

def ofModules (filter : FunctionFilter) (modules : List Module) : Except Fault FacetTable :=
  modules.mapM (facetOf filter)

def addresses (table : FacetTable) : List String :=
  table.map (·.address)

/-- The selectors of the first facet at an address, of any letter case. -/
def selectorsAt (table : FacetTable) (address : String) : Except Fault (Option (List String)) :=
  match table.find? fun f => Text.lower f.address == Text.lower address with
  | some facet => (facet.selectors.mapM Selector.emitted).map some
  | none => .ok none

/-- The address of the first facet with a method id. -/
def addressOf? (table : FacetTable) (id : Int) : Option String :=
  (table.find? fun f => f.selectors.any fun s => s.methodId == id).map (·.address)

/-- The look-up by any JSON value: a string is a number in base 16, and only a value
that is equal to a number finds a facet. -/
def addressOfValue (table : FacetTable) (value : Json) : Except Fault (Option String) :=
  match value with
  | .str s =>
    match Number.readInteger 16 s with
    | .ok id => .ok (table.addressOf? id)
    | .error defect => .error (.malformedInteger s 16 defect)
  | value =>
    match value.key? with
    | some (.integer id) => .ok (table.addressOf? id)
    | _ => .ok none

/-- The look-up of selectors by any JSON value; only strings are addresses. -/
def selectorsAtValue (table : FacetTable) (value : Json) :
    Except Fault (Option (List String)) :=
  match value with
  | .str address => table.selectorsAt address
  | value => .error (.noMembers value)

end FacetTable

/-- The registry of a router lies at the hash of this word and the router's name. -/
def storageNamespace (router : String) : String :=
  "Router." ++ router

def storageSlot (router : String) : List UInt8 :=
  Keccak.digest (Text.utf8 (storageNamespace router))

end SelectorRouter.Diamond
