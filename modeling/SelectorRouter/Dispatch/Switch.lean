import SelectorRouter.Constant
import SelectorRouter.Dispatch.Tree

/-!
# The selector switch

The code that maps a method id `sig` to the address constant of its module: a
binary search with a `switch` in each leaf. An inner node is a guard around its
left half, and its right half is what follows the guard; each leaf leaves the
function, so control never runs from the left half into the right one.
-/

namespace SelectorRouter.Dispatch

/-- One line of the switch without its indentation. -/
inductive Statement where
  | guard (bound : String)
  | close
  | switchHead
  | case (literal identifier label : String)
  | leave
  deriving Repr, DecidableEq

def Statement.text : Statement → String
  | guard bound => "if lt(sig," ++ bound ++ ") \x7b"
  | close => "\x7d"
  | switchHead => "switch sig"
  | case literal identifier label =>
    "case " ++ literal ++ " \x7b result := " ++ identifier ++ " \x7d // " ++ label
  | leave => "leave"

structure SwitchLine where
  level : Nat
  statement : Statement
  deriving Repr, DecidableEq

def SwitchLine.text (line : SwitchLine) : String :=
  Text.indent line.level ++ line.statement.text

namespace Switch

/-- The body of the function that holds the switch sits at this level. -/
def baseLevel : Nat := 4

def caseLine (ids : Constant.Identifiers) (level : Nat) (s : Selector) :
    Except Fault SwitchLine := do
  match ← Constant.lookup ids s.module with
  | none => .error (.tree (.noConstant s.module))
  | some id => return ⟨level, .case (← s.emitted) id s.label⟩

/-- A switch over the selectors of a leaf. When none matches, the result stays 0. -/
def leafLines (ids : Constant.Identifiers) (level : Nat) (ss : List Selector) :
    Except Fault (List SwitchLine) :=
  if ss.isEmpty then .error (.tree .emptyLeaf)
  else do
    let cases ← ss.mapM (caseLine ids level)
    return ⟨level, .switchHead⟩ :: cases ++ [⟨level, .leave⟩]

/-- The lines of a tree. Only the first two subtrees of a node count. -/
def lines (ids : Constant.Identifiers) (level : Nat) : Tree → Except Fault (List SwitchLine)
  | .node ss [] => leafLines ids level ss
  | .node _ [_] => .error .missingItem
  | .node _ (left :: right :: _) => do
    let bound ← (← right.least).emitted
    let inner ← lines ids (level + 1) left
    let after ← lines ids level right
    return ⟨level, .guard bound⟩ :: inner ++ ⟨level, .close⟩ :: after

def render (ls : List SwitchLine) : String :=
  Text.strip (Text.joinLines (ls.map SwitchLine.text))

end Switch

/-- The text of the switch of a tree. -/
def switchText (ids : Constant.Identifiers) (t : Tree) : Except Fault String := do
  let ls ← Switch.lines ids Switch.baseLevel t
  return Switch.render ls

end SelectorRouter.Dispatch
