/-!
# Paths

A path as messages show it: repeated slashes, single dots and trailing slashes are
dropped, double dots are kept, and the empty path is a single dot. The stem of a
path is its last component without its last suffix.
-/

namespace SelectorRouter.Files

/-- The pieces of a path between its slashes; some may be empty. -/
def components (path : String) : List String :=
  (path.toList.splitOn '/').map String.ofList

structure Path where
  root : String
  parts : List String
  deriving Repr, DecidableEq

namespace Path

def rootOf : List Char → String
  | ['/', '/'] => "//"
  | '/' :: '/' :: c :: _ => if c = '/' then "/" else "//"
  | '/' :: _ => "/"
  | _ => ""

def ofString (s : String) : Path :=
  ⟨rootOf s.toList, (components s).filter fun part => part ≠ "" ∧ part ≠ "."⟩

def text (p : Path) : String :=
  let joined := p.root ++ "/".intercalate p.parts
  if joined.isEmpty then "." else joined

/-- The last component without its suffix. A dot at either end starts no suffix. -/
def stem (p : Path) : String :=
  let name := (p.parts.getLast?.getD "").toList
  let suffix := name.reverse.takeWhile (· ≠ '.')
  let base := name.take (name.length - suffix.length - 1)
  if suffix.isEmpty || base.isEmpty then String.ofList name else String.ofList base

end Path

end SelectorRouter.Files
