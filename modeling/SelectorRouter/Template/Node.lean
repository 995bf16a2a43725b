import SelectorRouter.Fault
import SelectorRouter.Template.Token

/-!
# Templates

The parts of a template: text, outputs, and branches on conditions. Conditions are
made of names with `not`, `and` and `or`. Rendering puts the values of the slots in
place of the names; a name without a value that is output or tested is a fault,
one in a branch that is not taken is not. Names that are the same identifier share
one value.
-/

namespace SelectorRouter.Template

inductive Expr where
  | name (s : String)
  | constant (v : Json)
  | negation (e : Expr)
  | both (a b : Expr)
  | either (a b : Expr)
  deriving Repr

inductive Node where
  | text (s : String)
  | output (e : Expr)
  | branch (condition : Expr) (yes no : List Node)
  deriving Repr

/-! ## Reading -/

def constants : List (String × Json) :=
  [("true", .bool true), ("True", .bool true), ("false", .bool false),
    ("False", .bool false), ("none", .null), ("None", .null)]

def operand (name : String) : Expr :=
  match constants.lookup name with
  | some v => .constant v
  | none => .name name

def readNegation? : List Word → Option (Expr × List Word)
  | .name s :: rest =>
    if s = "not" then (readNegation? rest).map fun (e, rest) => (.negation e, rest)
    else some (operand s, rest)
  | _ => none

/-- Reads operands that are joined by a word, to the left. -/
def readJoined? (word : String) (join : Expr → Expr → Expr)
    (operand? : List Word → Option (Expr × List Word)) :
    Nat → Expr → List Word → Option (Expr × List Word)
  | fuel + 1, left, .name s :: rest =>
    if s = word then do
      let (right, rest) ← operand? rest
      readJoined? word join operand? fuel (join left right) rest
    else some (left, .name s :: rest)
  | _, left, rest => some (left, rest)

def readConjunction? (words : List Word) : Option (Expr × List Word) := do
  let (first, rest) ← readNegation? words
  readJoined? "and" .both readNegation? words.length first rest

def readDisjunction? (words : List Word) : Option (Expr × List Word) := do
  let (first, rest) ← readConjunction? words
  readJoined? "or" .either readConjunction? words.length first rest

/-- The expression that all the words of an output form. -/
def outputExpr? (words : List Word) : Option Expr :=
  match readDisjunction? words with
  | some (e, []) => some e
  | _ => none

/-- The condition of a block; a colon may follow it. -/
def condition? (words : List Word) : Option Expr :=
  match readDisjunction? words with
  | some (e, []) => some e
  | some (e, [.colon]) => some e
  | _ => none

/-- What ends a sequence of nodes. -/
inductive Ending where
  | finish
  | orElseIf (condition : Expr)
  | orElse
  | endIf

inductive BlockKind where
  | start (condition : Expr)
  | ending (e : Ending)

def blockKind? : List Word → Option BlockKind
  | [.name "endif"] => some (.ending .endIf)
  | [.name "else"] => some (.ending .orElse)
  | [.name "else", .colon] => some (.ending .orElse)
  | .name "if" :: words => (condition? words).map .start
  | .name "elif" :: words => (condition? words).map fun e => .ending (.orElseIf e)
  | _ => none

mutual
/-- Reads nodes up to a block that ends them. Each call takes a token. -/
def readNodes? : Nat → List Token → Option (List Node × Ending × List Token)
  | 0, _ => none
  | _ + 1, [] => some ([], .finish, [])
  | fuel + 1, .text s :: rest => do
    let (nodes, ending, rest) ← readNodes? fuel rest
    return (.text s :: nodes, ending, rest)
  | fuel + 1, .output words :: rest => do
    let e ← outputExpr? words
    let (nodes, ending, rest) ← readNodes? fuel rest
    return (.output e :: nodes, ending, rest)
  | fuel + 1, .block words :: rest => do
    match ← blockKind? words with
    | .ending e => return ([], e, rest)
    | .start condition =>
      let (branch, rest) ← readBranch? fuel condition rest
      let (nodes, ending, rest) ← readNodes? fuel rest
      return (branch :: nodes, ending, rest)

/-- Reads the arms of a branch after its condition. -/
def readBranch? : Nat → Expr → List Token → Option (Node × List Token)
  | 0, _, _ => none
  | fuel + 1, condition, tokens => do
    let (yes, ending, rest) ← readNodes? fuel tokens
    match ending with
    | .finish => none
    | .endIf => return (.branch condition yes [], rest)
    | .orElseIf next =>
      let (branch, rest) ← readBranch? fuel next rest
      return (.branch condition yes [branch], rest)
    | .orElse =>
      match ← readNodes? fuel rest with
      | (no, .endIf, rest) => return (.branch condition yes no, rest)
      | _ => none
end

def nodes? (tokens : List Token) : Option (List Node) := do
  match ← readNodes? (2 * tokens.length + 2) tokens with
  | (nodes, .finish, _) => return nodes
  | _ => none

/-- The largest number of branches that are open at once, when `opened` are open
already. -/
def nesting (opened : Nat) : List Token → Nat
  | [] => opened
  | .block (.name s :: _) :: rest =>
    if s = "if" then nesting (opened + 1) rest
    else if s = "endif" then max opened (nesting (opened - 1) rest)
    else nesting opened rest
  | _ :: rest => nesting opened rest

def nestingLimit : Nat := 98

/-- A template must be well formed before its nesting counts. -/
def parse (template : String) : Except Fault (List Node) :=
  match tokens? template with
  | none => .error .malformedTemplate
  | some tokens =>
    match nodes? tokens with
    | none => .error .malformedTemplate
    | some nodes =>
      if nesting 0 tokens ≤ nestingLimit then .ok nodes else .error .deepTemplate

/-! ## Names -/

def Expr.names : Expr → List String
  | name s => [s]
  | constant _ => []
  | negation e => e.names
  | both a b => a.names ++ b.names
  | either a b => a.names ++ b.names

mutual
/-- The names of a node in the order in which they are written. -/
def Node.names : Node → List String
  | .text _ => []
  | .output e => e.names
  | .branch condition yes no => condition.names ++ namesOfAll yes ++ namesOfAll no

def namesOfAll : List Node → List String
  | [] => []
  | node :: rest => node.names ++ namesOfAll rest
end

/-- The name by which a template calls itself. -/
def selfName : String := "self"

/-- The names of a template, each at its first place; the template itself comes
before all others. -/
def firstUses (nodes : List Node) : List String :=
  let names := (namesOfAll nodes).eraseDups
  if names.contains selfName then selfName :: names.erase selfName else names

/-- Of the names that are the same identifier, the one whose value counts for all of
them: the last to be used first. -/
def representative (names : List String) (name : String) : String :=
  let same := names.filter fun other =>
    Text.compatibilityForm other == Text.compatibilityForm name
  same.getLast?.getD name

/-! ## Rendering -/

/-- The values of the slots by their names. -/
abbrev Slots := List (String × Json)

/-- Names that have a value in every template. Most stand for tools, and what they
put out is a description. -/
def standardNames : Slots :=
  [("range", .str "<class 'range'>"), ("dict", .str "<class 'dict'>"),
    ("lipsum", .str "<function generate_lorem_ipsum>"),
    ("cycler", .str "<class 'jinja2.utils.Cycler'>"),
    ("joiner", .str "<class 'jinja2.utils.Joiner'>"),
    ("namespace", .str "<class 'jinja2.utils.Namespace'>"),
    (selfName, .str "<TemplateReference None>")]

/-- The value of a name; a slot hides the standard name. -/
def value? (slots : Slots) (name : String) : Option Json :=
  (slots.lookup name).or (standardNames.lookup name)

/-- The values of the names that a template uses. -/
def bindings (slots : Slots) (nodes : List Node) : Slots :=
  let names := firstUses nodes
  names.filterMap fun name =>
    (value? slots (representative names name)).map fun value => (name, value)

def Expr.eval (slots : Slots) : Expr → Except Fault Json
  | name s =>
    match slots.lookup s with
    | some v => .ok v
    | none => .error (.undefinedName s)
  | constant v => .ok v
  | negation e => do
    let v ← e.eval slots
    return .bool !v.truthy
  | both a b => do
    let v ← a.eval slots
    if v.truthy then b.eval slots else return v
  | either a b => do
    let v ← a.eval slots
    if v.truthy then return v else b.eval slots

mutual
def Node.render (slots : Slots) : Node → Except Fault String
  | .text s => .ok s
  | .output e => do
    let v ← e.eval slots
    return v.display
  | .branch condition yes no => do
    let v ← condition.eval slots
    if v.truthy then renderNodes slots yes else renderNodes slots no

def renderNodes (slots : Slots) : List Node → Except Fault String
  | [] => .ok ""
  | node :: rest => do
    let first ← node.render slots
    let others ← renderNodes slots rest
    return first ++ others
end

def holdsSlot (slots : Slots) (name : String) : Bool :=
  slots.any fun slot => slot.1 == name

/-- Renders a template. A malformed one is a fault even when the malformed part is
not reached. The words `template` and `self` are no names of slots. -/
def render (template : String) (slots : Slots) : Except Fault String :=
  if holdsSlot slots "template" then .error .reservedSlot
  else do
    let nodes ← parse template
    if holdsSlot slots selfName then .error .reservedSlot
    else renderNodes (bindings slots nodes) nodes

end SelectorRouter.Template
