import SelectorRouter.Json.Literal
import SelectorRouter.Keccak
import SelectorRouter.Text.Hex
import SelectorRouter.Text.Utf8

/-!
# Selectors

The method id of a function is the first four bytes of the hash of its signature,
read as a number with the most significant byte first. In emitted code it is
written as `0x` and eight small hexadecimal digits. A selector is a method id
together with the function and the module it belongs to.
-/

namespace SelectorRouter

/-- One more than the largest method id. -/
def methodIdLimit : Nat := 0x100000000

namespace FourBytes

/-- The four bytes of a number, the most significant first. -/
def ofNat (n : Nat) : List UInt8 :=
  [UInt8.ofNat (n / 0x1000000), UInt8.ofNat (n / 0x10000), UInt8.ofNat (n / 0x100), UInt8.ofNat n]

/-- The bytes of a method id, if the number is one. -/
def ofInt? (n : Int) : Option (List UInt8) :=
  if 0 ≤ n ∧ n < methodIdLimit then some (ofNat n.toNat) else none

/-- The number that the first four items stand for; further ones are ignored, and
the items need not be bytes. -/
def toInt? : List Int → Option Int
  | a :: b :: c :: d :: _ => some (((a * 256 + b) * 256 + c) * 256 + d)
  | _ => none

/-- The number that any count of items stands for in base 256. -/
def fold (items : List Int) : Int :=
  items.foldl (fun n b => n * 256 + b) 0

def toNat : List UInt8 → Nat
  | [a, b, c, d] => ((a.toNat * 256 + b.toNat) * 256 + c.toNat) * 256 + d.toNat
  | _ => 0

end FourBytes

/-- The text of a method id in emitted code. -/
def methodIdLiteral (n : Nat) : String :=
  "0x" ++ Text.hex (FourBytes.ofNat n)

def methodIdLiteral? (n : Int) : Option String :=
  (FourBytes.ofInt? n).map fun bytes => "0x" ++ Text.hex bytes

/-- The first four bytes of the hash of a signature. -/
def methodIdBytes (signature : String) : List UInt8 :=
  (Keccak.digest (Text.utf8 signature)).take 4

def methodId (signature : String) : Nat :=
  FourBytes.toNat (methodIdBytes signature)

structure Selector where
  module : Json
  name : String
  signature : String
  methodId : Int
  deriving Repr, Inhabited

namespace Selector

def literal? (s : Selector) : Option String :=
  methodIdLiteral? s.methodId

def inRange (s : Selector) : Bool :=
  (FourBytes.ofInt? s.methodId).isSome

/-- The text of the method id; a number out of range is reported elsewhere. -/
def literal (s : Selector) : String :=
  methodIdLiteral s.methodId.toNat

/-- How messages show a selector. -/
def describe (s : Selector) : String :=
  "FunctionSelector(" ++ s.literal ++ " " ++ s.module.display ++ "." ++ s.signature ++ ")"

/-- The function a selector belongs to, as comments and messages name it. -/
def label (s : Selector) : String :=
  s.module.display ++ "." ++ s.name ++ "()"

end Selector

end SelectorRouter
