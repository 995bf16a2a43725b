import SelectorRouter.Json.Reader
import SelectorRouter.Report
import SelectorRouter.Selector

/-!
# Faults

Everything that can end an operation, as causes. Some causes are reports to the
user about the modules, the files or the dispatch tree; `Fault.report?` gives
their category, text and hint. The others are misuses of an operation;
`Fault.message?` gives the text of those that have one.
-/

namespace SelectorRouter

/-! ## Causes -/

inductive ParameterDefect where
  | noType (param : Json)
  | noComponents (param : Json)
  | invalidType (type : String)
  deriving Repr

def ParameterDefect.message : ParameterDefect → String
  | .noType param => "ABI parameter has no type: " ++ param.literal
  | .noComponents param => "ABI tuple parameter has no components: " ++ param.literal
  | .invalidType type => "ABI parameter has an invalid type: " ++ type

inductive TreeDefect where
  | emptyLeaf
  | leafSize (count : Nat) (limit : Int)
  | innerSelectors
  | childCount (count : Nat)
  | outOfOrder (first second : Selector)
  | noConstant (module : Json)
  deriving Repr

def TreeDefect.message : TreeDefect → String
  | .emptyLeaf => "empty leaf in dispatch tree"
  | .leafSize count limit =>
    "bad leaf size " ++ toString count ++ " (max " ++ toString limit ++ ")"
  | .innerSelectors => "internal dispatch node holds selectors"
  | .childCount count => "internal dispatch node has " ++ toString count ++ " children"
  | .outOfOrder first second =>
    "dispatch tree out of order: " ++ first.describe ++ " before " ++ second.describe
  | .noConstant module => "no address constant for module `" ++ module.display ++ "`"

/-- Why the JSON value of a deployment file describes no module. -/
inductive ModuleDefect where
  | notAnObject (kind : String)
  | noAbi
  | noName
  | noAddress (name : Json)
  deriving Repr

def ModuleDefect.message : ModuleDefect → String
  | .notAnObject kind => "expected a JSON object, got " ++ kind
  | .noAbi => "module has no `abi` list"
  | .noName => "module has no `contractName`"
  | .noAddress name => "module `" ++ name.display ++ "` has no `deployedAddress`"

/-- Why a path cannot be opened. -/
inductive FileDefect where
  | missing
  | isDirectory
  | notDirectory
  | nameTooLong
  deriving Repr, DecidableEq

def FileDefect.text : FileDefect → String
  | .missing => "No such file or directory"
  | .isDirectory => "Is a directory"
  | .notDirectory => "Not a directory"
  | .nameTooLong => "File name too long"

/-- The number of the defect in the messages of the file system. -/
def FileDefect.number : FileDefect → Nat
  | .missing => 2
  | .notDirectory => 20
  | .isDirectory => 21
  | .nameTooLong => 36

inductive LoadDefect where
  | unreadable (path : String) (defect : FileDefect)
  | malformed (path : String) (error : Json.ReadError)
  | unusable (path : Option String) (defect : ModuleDefect)
  deriving Repr

def LoadDefect.message : LoadDefect → String
  | .unreadable path defect => "could not read " ++ path ++ ": " ++ defect.text
  | .malformed path error =>
    path ++ " is not valid JSON (line " ++ toString error.line ++ ": "
      ++ error.defect.message ++ ")"
  | .unusable none defect => defect.message
  | .unusable (some path) defect => path ++ ": " ++ defect.message

/-- What a value would have to be. -/
inductive Expected where
  | key
  | items
  | name
  | namedSettings
  deriving Repr, DecidableEq

inductive Fault where
  | emptyModuleList (router : String)
  | noRoutableFunctions (router : String)
  | duplicateModule (module : Json) (router : String)
  | invalidAddress (module address : Json)
  | invalidParameter (defect : ParameterDefect) (function : Option Json)
  | selectorCollision (collisions : List Selector) (hint : Option String)
  | load (defect : LoadDefect)
  | tree (defect : TreeDefect)
  | warning (report : Report)
  | wrongKind (expected : Expected)
  | noMembers (value : Json)
  | missingKey (key : Json)
  | missingItem
  | methodIdOutOfRange
  | leafSizeNotPositive
  | notAddressSized (text : String)
  | settingOfWrongKind
  | unknownWarningControl
  | malformedInteger (text : String) (base : Nat) (defect : Number.IntegerDefect)
  | unknownSettings (names : List String)
  | embeddedNull
  | malformedJson (error : Json.ReadError)
  | file (defect : FileDefect) (path : String)
  | notUtf8
  | malformedTemplate
  | deepTemplate
  | reservedSlot
  | undefinedName (name : String)
  deriving Repr

/-! ## Wording -/

/-- The text of a report on colliding selectors, one line for each. -/
def collisionText (collisions : List Selector) : String :=
  "The following contracts have repeated function selectors behind the same Router:\n"
    ++ "\n".intercalate (collisions.map fun s => "  " ++ s.literal ++ " // " ++ s.label)
    ++ "\n"

def Json.ReadError.describe (e : Json.ReadError) : String :=
  match e.defect with
  | .longInteger _ => e.defect.message
  | defect =>
    defect.message ++ ": line " ++ toString e.line ++ " column " ++ toString e.column
      ++ " (char " ++ toString e.position ++ ")"

namespace Fault

def report? : Fault → Option Report
  | emptyModuleList router =>
    some ⟨.emptyModuleList,
      "No contracts found to render during \"" ++ router ++ "\" generation", none⟩
  | noRoutableFunctions router =>
    some ⟨.noRoutableFunctions,
      "None of the modules of \"" ++ router ++ "\" exposes a routable function",
      some "check the module ABIs and the function filter"⟩
  | duplicateModule module router =>
    some ⟨.duplicateModuleName,
      "Module `" ++ module.display ++ "` is given more than once to `" ++ router ++ "`",
      some "each module needs a distinct name"⟩
  | invalidAddress module address =>
    some ⟨.invalidAddress,
      "Module `" ++ module.display ++ "` has an invalid deployed address: " ++ address.literal,
      some "expected 0x followed by 40 hex characters"⟩
  | invalidParameter defect none => some ⟨.invalidFragment, defect.message, none⟩
  | invalidParameter defect (some function) =>
    some ⟨.invalidFragment,
      defect.message ++ " (in function `" ++ function.display ++ "`)", none⟩
  | selectorCollision collisions hint =>
    some ⟨.selectorCollision, collisionText collisions, hint⟩
  | load defect => some ⟨.moduleLoad, defect.message, none⟩
  | tree defect => some ⟨.dispatchPanic, defect.message, none⟩
  | warning report => some report
  | _ => none

/-- The text shown for a fault; some misuses have none. -/
def message? : Fault → Option String
  | missingKey key => some key.literal
  | methodIdOutOfRange => some ""
  | leafSizeNotPositive => some ""
  | notAddressSized text => some text
  | settingOfWrongKind => some ""
  | unknownWarningControl => some ""
  | malformedInteger text base defect => some (defect.message text base)
  | unknownSettings names => some ("unknown settings: " ++ ", ".intercalate names)
  | embeddedNull => some "embedded null byte"
  | malformedJson error => some error.describe
  | file defect path =>
    some ("[Errno " ++ toString defect.number ++ "] " ++ defect.text ++ ": "
      ++ Text.quoted path)
  | undefinedName name => some (Text.quoted name ++ " is undefined")
  | fault => fault.report?.map Report.display

end Fault

end SelectorRouter
