import SelectorRouter.Constant
import SelectorRouter.Diamond.Facet

/-!
# The diamond layer of the contract

The declarations that let tools read the router as a diamond: the registry, its
four look-ups and the event that announces the facets. Two arrays are filled with
one entry for each facet, in the order of the modules.
-/

namespace SelectorRouter.Diamond

def addressAssignment (index : Nat) (identifier : String) : String :=
  Text.tab ++ "facetAddresses_[" ++ toString index ++ "] = " ++ identifier ++ ";"

def cutAssignment (index : Nat) (identifier : String) : String :=
  Text.tab ++ "cuts[" ++ toString index ++ "] = FacetCut(" ++ identifier
    ++ ", FacetCutAction.Add, _facetFunctionSelectors(" ++ identifier ++ "));"

/-- Types of the registry and of the event. -/
def typeLines : List String :=
  ["",
    "struct Facet \x7b",
    "    address facetAddress;",
    "    bytes4[] functionSelectors;",
    "\x7d",
    "",
    "enum FacetCutAction \x7bAdd, Replace, Remove\x7d",
    "// Add=0, Replace=1, Remove=2",
    "",
    "struct FacetCut \x7b",
    "    address facetAddress;",
    "    FacetCutAction action;",
    "    bytes4[] functionSelectors;",
    "\x7d",
    ""]

/-- The registry lies at a slot that depends on the name of the router alone. -/
def registryLines (router : String) : List String :=
  let slot := "0x" ++ Text.hex (storageSlot router)
  ["/// @notice Gets all facet addresses and their four byte function selectors.",
    "/// @return facets_ Facet",
    "function _facets() internal view returns (Facet[] storage facets_) \x7b",
    "    bytes32 s = " ++ slot ++ "; // keccak256(\"" ++ storageNamespace router ++ "\")",
    "    assembly \x7b",
    "        facets_.slot := s",
    "    \x7d",
    "\x7d",
    ""]

def facetSelectorLines : List String :=
  ["/// @notice Gets all the function selectors supported by a specific facet.",
    "/// @param _facet The facet address.",
    "/// @return facetFunctionSelectors_",
    "function _facetFunctionSelectors(address _facet) internal view returns (bytes4[] "
      ++ "memory facetFunctionSelectors_) \x7b",
    "    Facet[] storage facets = _facets();",
    "    for (uint256 i = 0; i < facets.length; i++) \x7b",
    "        if (facets[i].facetAddress == _facet) \x7b",
    "            return facets[i].functionSelectors;",
    "        \x7d",
    "    \x7d",
    "\x7d",
    ""]

/-- The look-up that lists all addresses, one assignment for each facet. -/
def facetAddressesLines (count addresses : String) : List String :=
  ["/// @notice Get all the facet addresses used by a diamond.",
    "/// @return facetAddresses_",
    "function _facetAddresses() internal pure returns (address[] memory facetAddresses_) \x7b",
    "    facetAddresses_ = new address[](" ++ count ++ ");",
    addresses,
    "\x7d",
    ""]

def facetAddressLines : List String :=
  ["/// @notice Gets the facet that supports the given selector.",
    "/// @dev If facet is not found return address(0).",
    "/// @param _functionSelector The function selector.",
    "/// @return facetAddress_ The facet address.",
    "function _facetAddress(bytes4 _functionSelector) internal view returns (address "
      ++ "facetAddress_) \x7b",
    "    Facet[] storage facets = _facets();",
    "    for (uint256 i = 0; i < facets.length; i++) \x7b",
    "        for (uint256 j = 0; j < facets[i].functionSelectors.length; j++) \x7b",
    "            if (facets[i].functionSelectors[j] == _functionSelector) \x7b",
    "                return facets[i].facetAddress;",
    "            \x7d",
    "        \x7d",
    "    \x7d",
    "\x7d",
    ""]

/-- The announcement of all facets in one event, one cut for each facet. -/
def eventLines (count cuts : String) : List String :=
  ["event DiamondCut(FacetCut[] _diamondCut, address _init, bytes _calldata);",
    "",
    "/// @notice Emits the cut events that would be emitted if this was actually a diamond",
    "function _emitDiamondCutEvent() internal returns (bool) \x7b",
    "    FacetCut[] memory cuts = new FacetCut[](" ++ count ++ ");",
    cuts,
    "    emit DiamondCut(cuts, address(0), new bytes(0));",
    "    return true;",
    "\x7d",
    ""]

def compatLines (router : String) (identifiers : List String) : List String :=
  let count := toString identifiers.length
  let addresses := identifiers.zipIdx.map fun (id, i) => addressAssignment i id
  let cuts := identifiers.zipIdx.map fun (id, i) => cutAssignment i id
  typeLines ++ registryLines router ++ facetSelectorLines
    ++ facetAddressesLines count (Text.joinLines addresses) ++ facetAddressLines
    ++ eventLines count (Text.joinLines cuts)

/-- The layer, indented to stand directly inside the contract. -/
def compatText (router : String) (ids : Constant.Identifiers) (table : FacetTable) :
    Except Fault String := do
  let identifiers ← table.mapM fun facet => Constant.require ids facet.module
  let text := Text.indentLines (Text.joinLines (compatLines router identifiers))
  return String.ofList (Text.trimRight text.toList)

end SelectorRouter.Diamond
