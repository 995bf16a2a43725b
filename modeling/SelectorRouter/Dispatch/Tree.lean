import SelectorRouter.Fault

/-!
# Dispatch trees

A dispatch tree holds selectors in its leaves. Trees that are built are binary
and split a sorted list in the middle until each leaf is small enough; a tree in
general may have any shape, and `Tree.check` says whether it is sound: small
leaves that are not empty, two subtrees and no selectors in every inner node, and
method ids that grow from left to right.
-/

namespace SelectorRouter.Dispatch

inductive Tree where
  | node (selectors : List Selector) (children : List Tree)
  deriving Repr, Inhabited

/-- The largest number of cases in one switch. -/
def defaultLeafSize : Nat := 9

namespace Tree

def leaf (ss : List Selector) : Tree := node ss []

/-- Splits a list in the middle until no leaf is larger than `limit`; of an odd
number of selectors the left half takes one more. -/
def split (limit : Nat) (positive : 0 < limit) (ss : List Selector) : Tree :=
  if _h : ss.length ≤ limit then leaf ss
  else
    let middle := (ss.length + 1) / 2
    node [] [split limit positive (ss.take middle), split limit positive (ss.drop middle)]
termination_by ss.length
decreasing_by
  all_goals simp only [List.length_take, List.length_drop]; omega

def build (limit : Int) (ss : List Selector) : Except Fault Tree :=
  if h : 0 < limit then .ok (split limit.toNat (by omega) ss)
  else .error .leafSizeNotPositive

mutual
/-- The selector lists of the leaves, from left to right. A leaf is a node without
children. -/
def leaves : Tree → List (List Selector)
  | node ss [] => [ss]
  | node _ (child :: rest) => leaves child ++ leavesOfAll rest

def leavesOfAll : List Tree → List (List Selector)
  | [] => []
  | t :: rest => leaves t ++ leavesOfAll rest
end

mutual
def depth : Tree → Nat
  | node _ [] => 0
  | node _ (child :: rest) => 1 + max (depth child) (depthOfAll rest)

def depthOfAll : List Tree → Nat
  | [] => 0
  | t :: rest => max (depth t) (depthOfAll rest)
end

/-- The first selector of the leftmost leaf, which is the least one of a sound tree. -/
def least : Tree → Except Fault Selector
  | node [] [] => .error (.tree .emptyLeaf)
  | node (s :: _) [] => .ok s
  | node _ (child :: _) => least child

/-- Compares the selectors of a leaf with each other and with the one before them.
Returns the last selector. -/
def checkOrder : Option Selector → List Selector → Except Fault (Option Selector)
  | previous, [] => .ok previous
  | none, s :: rest => checkOrder (some s) rest
  | some p, s :: rest =>
    if p.methodId < s.methodId then checkOrder (some s) rest
    else if p.inRange && s.inRange then .error (.tree (.outOfOrder p s))
    else .error .methodIdOutOfRange

mutual
/-- Checks a subtree after the selector `previous`, and returns the last selector. -/
def checkAfter (limit : Int) (previous : Option Selector) :
    Tree → Except Fault (Option Selector)
  | node ss [] =>
    if 0 < ss.length ∧ ss.length ≤ limit then checkOrder previous ss
    else .error (.tree (.leafSize ss.length limit))
  | node ss (child :: rest) =>
    if ss ≠ [] then .error (.tree .innerSelectors)
    else if rest.length ≠ 1 then .error (.tree (.childCount (rest.length + 1)))
    else do
      let last ← checkAfter limit previous child
      checkAllAfter limit last rest

def checkAllAfter (limit : Int) (previous : Option Selector) :
    List Tree → Except Fault (Option Selector)
  | [] => .ok previous
  | t :: rest => do
    let last ← checkAfter limit previous t
    checkAllAfter limit last rest
end

/-- The first problem met from left to right, inner nodes before their subtrees. -/
def check (limit : Int) (t : Tree) : Except Fault Unit :=
  (checkAfter limit none t).map fun _ => ()

end Tree

end SelectorRouter.Dispatch
