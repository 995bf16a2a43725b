import SelectorRouter.Abi.Parameter

/-!
# ABI functions

An ABI is a list of JSON values; those that describe functions are objects of the
type `function` with a name. The signature of a function is its name and, in
parentheses, the canonical texts of its inputs.
-/

namespace SelectorRouter

/-- Decides by its name whether a function is routed. -/
abbrev FunctionFilter := String → Bool

namespace FunctionFilter

def all : FunctionFilter := fun _ => true

/-- Functions that coverage instruments add to a contract have names that start
with `c_0x`. -/
def withoutCoverage : FunctionFilter :=
  fun name => (Json.dropWord? "c_0x".toList name.toList).isNone

end FunctionFilter

structure Function where
  name : String
  inputs : Json
  deriving Repr

namespace Function

/-- The function that a fragment of an ABI describes, if it describes one. -/
def ofFragment? (fragment : Json) : Option Function :=
  match fragment.get? "type", fragment.get? "name" with
  | some (.str "function"), some (.str name) => some ⟨name, fragment.getD "inputs"⟩
  | _, _ => none

/-- The functions of an ABI that pass the filter, in order. -/
def ofAbi (abi : List Json) (filter : FunctionFilter) : List Function :=
  (abi.filterMap ofFragment?).filter fun f => filter f.name

/-- The items of an inputs value; a value that counts as false has none. -/
def inputItems (inputs : Json) : Except Fault (List Json) :=
  if inputs.truthy then
    match inputs.items? with
    | some items => .ok items
    | none => .error (.wrongKind .items)
  else .ok []

/-- The signature of a function from its name and inputs. A malformed input is
reported with the name, so the name is looked for even then. -/
def signatureOf (name? : Option Json) (inputs : Json) : Except Fault String := do
  let items ← inputItems inputs
  let read := Parameter.ofJsons items
  let name ← match name? with
    | some name => .ok name
    | none => .error (.missingKey (.str "name"))
  match read with
  | .ok params => return name.display ++ "(" ++ ",".intercalate (Parameter.canonicals params) ++ ")"
  | .error defect => .error (.invalidParameter defect (some name))

def signature (f : Function) : Except Fault String :=
  signatureOf (some (.str f.name)) f.inputs

/-- The signature of any JSON value that has a name and inputs. -/
def fragmentSignature (fragment : Json) : Except Fault String :=
  match fragment with
  | .obj members => signatureOf (members.lookup "name") (fragment.getD "inputs")
  | value => .error (.noMembers value)

end Function

end SelectorRouter
