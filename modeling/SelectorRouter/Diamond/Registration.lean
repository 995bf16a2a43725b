import SelectorRouter.Constant
import SelectorRouter.Diamond.Facet

/-!
# Registration of facets

The body of the constructor. For each facet it allocates an array, fills it with
the facet's selectors and pushes the facet; last it announces all facets.
-/

namespace SelectorRouter.Diamond

inductive Registration where
  | declareArray
  | blank
  | allocate (size : Nat)
  | assign (index : Nat) (literal : String)
  | push (identifier : String)
  | announce
  deriving Repr, DecidableEq

def Registration.text : Registration → String
  | declareArray => Text.indent 2 ++ "bytes4[] memory selectors;"
  | blank => ""
  | allocate size =>
    Text.indent 2 ++ "selectors = new bytes4[](" ++ toString size ++ ");"
  | assign index literal =>
    Text.indent 2 ++ "selectors[" ++ toString index ++ "] = " ++ literal ++ ";"
  | push identifier =>
    Text.indent 2 ++ "_facets().push(Facet(" ++ identifier ++ ", selectors));"
  | announce => Text.indent 2 ++ "_emitDiamondCutEvent();"

namespace Registration

def ofFacet (ids : Constant.Identifiers) (facet : Facet) : Except Fault (List Registration) := do
  let literals ← facet.selectors.mapM Selector.emitted
  let assignments := literals.zipIdx.map fun (literal, i) => assign i literal
  let id ← Constant.require ids facet.module
  return [blank, allocate facet.selectors.length] ++ assignments ++ [push id]

def ofTable (ids : Constant.Identifiers) (table : FacetTable) :
    Except Fault (List Registration) := do
  let facets ← table.mapM (ofFacet ids)
  return [declareArray] ++ facets.flatten ++ [blank, announce]

end Registration

/-- The text of the constructor body. -/
def constructorText (ids : Constant.Identifiers) (table : FacetTable) :
    Except Fault String := do
  let steps ← Registration.ofTable ids table
  return Text.strip (Text.joinLines (steps.map Registration.text))

end SelectorRouter.Diamond
