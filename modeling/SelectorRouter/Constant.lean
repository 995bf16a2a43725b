import SelectorRouter.Module
import SelectorRouter.Text.Lines

/-!
# Address constants

The router holds the address of each module in a private constant. Its identifier
is the module name in capitals: a word boundary becomes one underscore, an
underscore of the name becomes two, and characters that no identifier may hold
count as underscores. Names with the same identifier get numbers.
-/

namespace SelectorRouter.Constant

def isIdentifierChar (c : Char) : Bool :=
  ('A' ≤ c && c ≤ 'Z') || ('a' ≤ c && c ≤ 'z') || ('0' ≤ c && c ≤ '9') || c == '_' || c == '$'

def sanitize (name : List Char) : List Char :=
  name.map fun c => if isIdentifierChar c then c else '_'

/-- Does a word start at `c`? It does at a capital after a small letter or a digit,
and at the last capital of a run of capitals that a small letter follows. -/
def startsWord (previous : Option Char) (c : Char) (next : Option Char) : Bool :=
  match previous with
  | none => false
  | some p =>
    c.isUpper && (p.isLower || p.isDigit || (p.isUpper && next.any Char.isLower))

/-- The identifier's characters for the rest of a name after `previous`. -/
def screaming (previous : Option Char) : List Char → List Char
  | [] => []
  | c :: rest =>
    (if c = '_' then ['_', '_']
      else if startsWord previous c rest.head? then ['_', c.toUpper]
      else [c.toUpper]) ++ screaming (some c) rest

/-- The identifier of the constant of a module, before numbers are added. -/
def baseIdentifier (name : String) : String :=
  String.ofList ('_' :: screaming none (sanitize name.toList))

/-! ## The identifiers of a list of modules -/

/-- The identifiers of module names, in the order the names first occur. -/
abbrev Identifiers := List (String × String)

/-- The identifiers tried for a base: itself, then with the numbers from 2 on. -/
def numbered (base : String) : Nat → String
  | 0 => base
  | k + 1 => base ++ "_" ++ toString (k + 2)

/-- The first numbered identifier that is not taken. One more candidate than there
are taken identifiers is enough. -/
def firstFree (taken : List String) (base : String) : String :=
  let candidates := (List.range (taken.length + 1)).map (numbered base)
  (candidates.find? fun c => !taken.contains c).getD base

def addIdentifier (known : Identifiers) (name : String) : Identifiers :=
  if known.any (·.1 == name) then known
  else known ++ [(name, firstFree (known.map (·.2)) (baseIdentifier name))]

def identifiersOf (names : List String) : Identifiers :=
  names.foldl addIdentifier []

/-- The identifiers of names that may be any JSON values; only strings have one. -/
def identifiers (names : List Json) : Except Fault Identifiers := do
  let strings ← names.mapM fun
    | .str s => Except.ok s
    | _ => .error (.wrongKind .name)
  return identifiersOf strings

/-- The identifier of a module name. -/
def lookup (ids : Identifiers) (name : Json) : Except Fault (Option String) :=
  match name with
  | .str s => .ok (ids.lookup s)
  | .arr _ => .error (.wrongKind .key)
  | .obj _ => .error (.wrongKind .key)
  | _ => .ok none

/-- The identifier of a module name that must have one. -/
def require (ids : Identifiers) (name : Json) : Except Fault String := do
  match ← lookup ids name with
  | some id => return id
  | none => .error (.missingKey name)

/-! ## Declarations -/

def declaration (id address : String) : String :=
  Text.tab ++ "address private constant " ++ id ++ " = " ++ address ++ ";"

def declare (ids : Identifiers) (m : Module) : Except Fault String := do
  let id ← require ids m.name
  let address ← m.checksumAddress
  return declaration id address

/-- The declarations of all modules, one a line. -/
def declarations (ids : Identifiers) (modules : List Module) : Except Fault String := do
  let decls ← modules.mapM (declare ids)
  return Text.strip (Text.joinLines decls)

end SelectorRouter.Constant
