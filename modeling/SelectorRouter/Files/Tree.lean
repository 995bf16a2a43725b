import SelectorRouter.Fault
import SelectorRouter.Files.Path
import SelectorRouter.Text.Lines

/-!
# File trees

Files by the components of their paths from the current directory, where `..` leads
out of it and `/` stands for the root. A directory is there when it was made, when it
holds a file, or when it contains the current directory. Opening a path walks its
components one by one.
-/

namespace SelectorRouter.Files

inductive Content where
  | bytes (bs : List UInt8)
  | directory
  deriving Repr, DecidableEq

/-- The files and the directories that were made, in the order they were made. -/
abbrev Tree := List (List String × Content)

namespace Tree

def isBelow (directory place : List String) : Bool :=
  directory.length < place.length && place.take directory.length == directory

/-- The current directory and the directories around it. -/
def isAround (place : List String) : Bool :=
  place.all (· == "..") || place == ["/"]

def content? (tree : Tree) (place : List String) : Option Content :=
  match tree.lookup place with
  | some content => some content
  | none =>
    if isAround place || tree.any fun entry => isBelow place entry.1 then some .directory
    else none

/-- The longest component that a path may have, in bytes. -/
def nameLimit : Nat := 255

/-- One more than the longest path, in bytes. -/
def pathLimit : Nat := 4096

/-- The directory around a place. -/
def parent (place : List String) : List String :=
  if place == ["/"] then place
  else match place.getLast? with
    | none => [".."]
    | some component => if component == ".." then place ++ [".."] else place.dropLast

/-- Goes from a directory to one of its entries, which need not exist. -/
def enter (place : List String) (component : String) : Except FileDefect (List String) :=
  if component.isEmpty || component == "." then .ok place
  else if component == ".." then .ok (parent place)
  else if nameLimit < component.utf8ByteSize then .error .nameTooLong
  else .ok (place ++ [component])

def requireDirectory (tree : Tree) (place : List String) : Except FileDefect Unit :=
  match tree.content? place with
  | some .directory => .ok ()
  | some _ => .error .notDirectory
  | none => .error .missing

/-- Walks along components; every place but the last must be a directory. -/
def walk (tree : Tree) (place : List String) : List String → Except FileDefect (List String)
  | [] => .ok place
  | component :: rest => do
    tree.requireDirectory place
    walk tree (← enter place component) rest

/-- The place at a path, whose components are given apart. -/
def resolve (tree : Tree) (path : String) (components : List String) :
    Except FileDefect (List String) :=
  if path.isEmpty then .error .missing
  else if pathLimit ≤ path.utf8ByteSize then .error .nameTooLong
  else tree.walk (if path.startsWith "/" then ["/"] else []) components

/-- The bytes of the file at a path. -/
def readBytes (tree : Tree) (path : String) : Except FileDefect (List UInt8) := do
  match tree.content? (← tree.resolve path (components path)) with
  | some (.bytes bs) => return bs
  | some .directory => .error .isDirectory
  | none => .error .missing

/-- The text of a file, with all line ends as line feeds. -/
def decode (bs : List UInt8) : Except Fault (List Char) :=
  match Text.ofUtf8? bs with
  | some s => .ok (Text.normalizeNewlines s.toList)
  | none => .error .notUtf8

/-- Reads the text of a file for an operation that shows the path as `shown`. -/
def readText (tree : Tree) (path shown : String) : Except Fault (List Char) :=
  if path.contains '\x00' then .error .embeddedNull
  else match tree.readBytes path with
    | .ok bs => decode bs
    | .error defect => .error (.file defect shown)

/-- Puts a file into the tree, in the place of the one that is there. -/
def put (tree : Tree) (place : List String) (bs : List UInt8) : Tree :=
  match tree with
  | [] => [(place, .bytes bs)]
  | entry :: rest =>
    if entry.1 = place then (place, .bytes bs) :: rest else entry :: put rest place bs

/-- Where a path that is opened for writing puts its file. A slash at the end asks
for a directory, and a directory cannot be written. -/
def target (tree : Tree) (path : String) : Except FileDefect (List String) := do
  let parts := ((components path).reverse.dropWhile String.isEmpty).reverse
  let directory ← tree.resolve path parts.dropLast
  tree.requireDirectory directory
  if path.endsWith "/" then .error .isDirectory
  else
    let place ← enter directory (parts.getLast?.getD "")
    if tree.content? place == some .directory then .error .isDirectory else return place

def writeText (tree : Tree) (path : String) (text : String) : Except Fault Tree :=
  if path.contains '\x00' then .error .embeddedNull
  else match tree.target path with
    | .ok place => .ok (tree.put place (Text.utf8 text))
    | .error defect => .error (.file defect path)

end Tree

end SelectorRouter.Files
