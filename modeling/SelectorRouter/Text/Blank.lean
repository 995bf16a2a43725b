/-!
# Blank characters and trimming

A blank is a character that separates words. The set is wider than the ASCII
one: it holds the information separators U+001C to U+001F, the next-line
control and the space separators of Unicode, and it does not hold the
zero-width space U+200B or the byte order mark U+FEFF.
-/

namespace SelectorRouter.Text

def isBlank (c : Char) : Bool :=
  let n := c.toNat
  (9 ≤ n && n ≤ 13) || (28 ≤ n && n ≤ 32) || n == 0x85 || n == 0xA0 || n == 0x1680
    || (0x2000 ≤ n && n ≤ 0x200A) || n == 0x2028 || n == 0x2029 || n == 0x202F
    || n == 0x205F || n == 0x3000

def trimLeft (cs : List Char) : List Char :=
  cs.dropWhile isBlank

def trimRight (cs : List Char) : List Char :=
  (cs.reverse.dropWhile isBlank).reverse

def strip (s : String) : String :=
  String.ofList (trimRight (trimLeft s.toList))

/-- The text with every blank removed, wherever it stands. -/
def withoutBlanks (s : String) : List Char :=
  s.toList.filter fun c => !isBlank c

end SelectorRouter.Text
