import SelectorRouter.Files.Tree
import SelectorRouter.Module

/-!
# Deployment files

A module is described by a JSON object with an ABI. Its name is given by the
caller, by the object or by the name of the file; its address by the caller or by
the object, under either of two names. Values that count as false are passed over.
-/

namespace SelectorRouter.Files

/-- Names and addresses that take the place of those found in a file. -/
structure Overrides where
  name : Json
  address : Json

def Overrides.none : Overrides := ⟨.null, .null⟩

/-- The first value that counts as true. -/
def firstTruthy? (values : List Json) : Option Json :=
  values.find? Json.truthy

/-- The module that a JSON value describes. -/
def moduleOfJson (data defaultName : Json) (overrides : Overrides) :
    Except ModuleDefect Module :=
  match data with
  | .obj _ =>
    match data.getD "abi" with
    | .arr abi =>
      match firstTruthy? [overrides.name, data.getD "contractName", defaultName] with
      | .none => .error .noName
      | some name =>
        match firstTruthy? [overrides.address, data.getD "deployedAddress",
            data.getD "address"] with
        | .none => .error (.noAddress name)
        | some address => .ok ⟨name, address, abi⟩
    | _ => .error .noAbi
  | value => .error (.notAnObject value.kindName)

/-- Reads the module that a file describes. The file is named by its stem. -/
def loadModule (tree : Tree) (overrides : Overrides) (path : String) : Except Fault Module := do
  let p := Path.ofString path
  let text ← match tree.readText p.text p.text with
    | .error (.file defect shown) => .error (.load (.unreadable shown defect))
    | result => result
  let data ← match Json.read text with
    | .ok data => .ok data
    | .error e =>
      match e.defect with
      | .longInteger _ => .error (.malformedJson e)
      | _ => .error (.load (.malformed p.text e))
  match moduleOfJson data (.str p.stem) overrides with
  | .ok m => return m
  | .error defect => .error (.load (.unusable (some p.text) defect))

/-- Reads modules up to the first that cannot be read. -/
def loadModules (tree : Tree) (paths : List String) : Except Fault (List Module) :=
  paths.mapM (loadModule tree Overrides.none)

end SelectorRouter.Files
