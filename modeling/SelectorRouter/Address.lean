import SelectorRouter.Json.Value
import SelectorRouter.Keccak
import SelectorRouter.Text.Case
import SelectorRouter.Text.Hex
import SelectorRouter.Text.Utf8

/-!
# Addresses

An address is written `0x` and 40 hexadecimal digits. The letter case of the
digits carries a checksum: a letter is a capital exactly when the digit at the
same place of the hash of the small digits is 8 or more.
-/

namespace SelectorRouter.Address

def digitCount : Nat := 40

/-- Is the text `0x` and 40 hexadecimal digits of any letter case? -/
def isHex (s : String) : Bool :=
  match s.toList with
  | '0' :: 'x' :: digits => digits.length == digitCount && digits.all Text.isHexDigit
  | _ => false

def isHexValue : Json → Bool
  | .str s => isHex s
  | _ => false

/-- The four-bit halves of each byte, the high one first. -/
def nibbles (bytes : List UInt8) : List Nat :=
  bytes.flatMap fun b => [b.toNat / 16, b.toNat % 16]

/-- The case of a character under the hash digit at its place. Decimal digits have
no case; any other character, a hexadecimal digit or not, is given one. -/
def recase (c : Char) (nibble : Nat) : List Char :=
  if '0' ≤ c ∧ c ≤ '9' then [c]
  else if 8 ≤ nibble then Text.upperChar c
  else Text.lowerChar c

def checksumDigits (digits : List Char) : List Char :=
  let hash := Keccak.digest (Text.utf8 (String.ofList (Text.lowerAfter [] digits)))
  (List.zipWith recase digits (nibbles hash)).flatten

/-- Puts the checksum into the letter case of the characters after `0x`. Only the
form and the length of the text are checked, not that it holds digits. -/
def checksum? (s : String) : Option String :=
  match s.toList with
  | '0' :: 'x' :: digits =>
    if digits.length = digitCount then some ("0x" ++ String.ofList (checksumDigits digits))
    else none
  | _ => none

end SelectorRouter.Address
