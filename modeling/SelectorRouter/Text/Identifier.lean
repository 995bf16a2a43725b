import SelectorRouter.Text.DecompositionTable
import SelectorRouter.Text.Hex
import SelectorRouter.Text.IdentifierTable
import SelectorRouter.Text.Printable

/-!
# Identifiers

Which characters make up an identifier, and when two identifiers are the same.
Unicode holds characters that differ only in width, in ligature or in the way marks
are attached to be compatible; identifiers with one compatibility form are the same.
-/

namespace SelectorRouter.Text

def isIdentifierStart (c : Char) : Bool :=
  if c.toNat < 128 then c.isAlpha || c == '_' else inRanges identifierStartRange c.toNat

def isIdentifierPart (c : Char) : Bool :=
  if c.toNat < 128 then c.isAlphanum || c == '_'
  else inRanges identifierStartRange c.toNat || inRanges identifierMarkRange c.toNat

/-! ## Decomposition -/

def numberOfHex (s : String) : Nat :=
  s.toList.foldl (fun n c => 16 * n + (hexValue? c).getD 0) 0

/-- The characters that a word of the table stands for. -/
def imageOf (word : String) : List Char :=
  (word.splitOn "+").map fun part => Char.ofNat (numberOfHex part)

/-- Reads the words of the table; `next` is the code point of a word that names none. -/
def readDecompositions (next : Nat) : List String → List (Nat × List Char)
  | [] => []
  | word :: rest =>
    match word.splitOn "=" with
    | [point, image] =>
      let n := numberOfHex point
      (n, imageOf image) :: readDecompositions (n + 1) rest
    | _ => (next, imageOf word) :: readDecompositions (next + 1) rest

def decompositions : List (Nat × List Char) :=
  readDecompositions 0 (decompositionLines.flatMap fun line => line.splitOn " ")

/-- The parts of a Hangul syllable: the syllables are in order of a leading consonant,
a vowel and a trailing consonant, which may be missing. -/
def syllableParts (index : Nat) : List Char :=
  let lead := Char.ofNat (0x1100 + index / 588)
  let vowel := Char.ofNat (0x1161 + index % 588 / 28)
  if index % 28 = 0 then [lead, vowel] else [lead, vowel, Char.ofNat (0x11A7 + index % 28)]

def decompose (c : Char) : List Char :=
  if c.toNat < 128 then [c]
  else if 0xAC00 ≤ c.toNat ∧ c.toNat < 0xD7A4 then syllableParts (c.toNat - 0xAC00)
  else (decompositions.lookup c.toNat).getD [c]

/-! ## The order of marks -/

def combiningClass (c : Char) : Nat :=
  if c.toNat < 128 then 0
  else match combiningRange.find? fun r => r.1 ≤ c.toNat && c.toNat ≤ r.2.1 with
    | some r => r.2.2
    | none => 0

/-- Puts a mark of class `k` behind the text, whose last character comes first: it
passes the marks of higher classes. -/
def placeMark (k : Nat) (c : Char) : List Char → List Char
  | [] => [c]
  | d :: rest => if k < combiningClass d then d :: placeMark k c rest else c :: d :: rest

def place (text : List Char) (c : Char) : List Char :=
  if combiningClass c = 0 then c :: text else placeMark (combiningClass c) c text

/-- Marks on the same character stand in order of their classes. -/
def orderMarks (cs : List Char) : List Char :=
  (cs.foldl place []).reverse

/-- The form that all compatible identifiers share. -/
def compatibilityForm (identifier : String) : List Char :=
  orderMarks (identifier.toList.flatMap decompose)

end SelectorRouter.Text
