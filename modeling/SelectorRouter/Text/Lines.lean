import SelectorRouter.Text.Blank

/-!
# Lines

Text is cut into lines at any Unicode line boundary; a carriage return and the
line feed after it are one boundary. Each line keeps the characters that end it,
so the lines of a text concatenate to the text.
-/

namespace SelectorRouter.Text

def isLineBreak (c : Char) : Bool :=
  let n := c.toNat
  (10 ≤ n && n ≤ 13) || (28 ≤ n && n ≤ 30) || n == 0x85 || n == 0x2028 || n == 0x2029

/-- Puts a character in front of the first line. -/
def extendFirst (c : Char) : List (List Char) → List (List Char)
  | [] => [[c]]
  | line :: rest => (c :: line) :: rest

def lines : List Char → List (List Char)
  | [] => []
  | '\r' :: '\n' :: rest => ['\r', '\n'] :: lines rest
  | c :: rest => if isLineBreak c then [c] :: lines rest else extendFirst c (lines rest)

/-- Four spaces, the unit of indentation of all emitted code. -/
def tab : String := "    "

def indent (level : Nat) : String :=
  String.ofList (List.replicate (4 * level) ' ')

/-- Indents every line by one tab, except the lines that hold only blanks. -/
def indentLines (s : String) : String :=
  String.ofList <| (lines s.toList).flatMap fun line =>
    if line.all isBlank then line else tab.toList ++ line

def joinLines (ls : List String) : String :=
  "\n".intercalate ls

/-- Writes every line end as a single line feed: carriage returns, alone or
before a line feed, disappear. -/
def normalizeNewlines : List Char → List Char
  | [] => []
  | '\r' :: '\n' :: rest => '\n' :: normalizeNewlines rest
  | c :: rest => (if c = '\r' then '\n' else c) :: normalizeNewlines rest

end SelectorRouter.Text
