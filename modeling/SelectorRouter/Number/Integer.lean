import SelectorRouter.Text.Blank
import SelectorRouter.Text.DecimalDigit
import SelectorRouter.Text.Quoted

/-!
# Integers written by people

An integer may be surrounded by blanks, carry a sign, group its digits with
single underscores, and use the decimal digits of any script. In base 16 it may
start with `0x`.
-/

namespace SelectorRouter.Number

inductive IntegerDefect where
  | malformed
  | tooLong (digits : Nat)
  | tooLongToWrite
  deriving Repr, DecidableEq

/-- The longest decimal integer that is read or written, in digits. -/
def digitLimit : Nat := 4300

/-- The text of a defect of the integer `s`. Of a malformed text only the first 200
characters of its literal are shown. -/
def IntegerDefect.message (s : String) (base : Nat) : IntegerDefect → String
  | .malformed =>
    "invalid literal for int() with base " ++ toString base ++ ": "
      ++ String.ofList ((Text.quoted s).toList.take 200)
  | .tooLong digits =>
    "Exceeds the limit (" ++ toString digitLimit
      ++ " digits) for integer string conversion: value has " ++ toString digits
      ++ " digits; use sys.set_int_max_str_digits() to increase the limit"
  | .tooLongToWrite =>
    "Exceeds the limit (" ++ toString digitLimit
      ++ " digits) for integer string conversion; "
      ++ "use sys.set_int_max_str_digits() to increase the limit"

def digitValue? (base : Nat) (c : Char) : Option Nat :=
  ((Text.hexValue? c).or (Text.decimalValue? c)).filter (· < base)

/-- The digits at the front of the text and what follows them. An underscore must
stand between two digits: `barred` says that none may stand here. -/
def digitRun (base : Nat) (barred : Bool) : List Char → Option (List Nat × List Char)
  | [] => if barred then none else some ([], [])
  | c :: rest =>
    if c = '_' then
      if barred then none else digitRun base true rest
    else match digitValue? base c with
      | some d => (digitRun base false rest).map fun (ds, after) => (d :: ds, after)
      | none => if barred then none else some ([], c :: rest)

def ofDigits (base : Nat) (digits : List Nat) : Nat :=
  digits.foldl (fun n d => base * n + d) 0

/-- The information separators divide words but do not surround integers. -/
def isMargin (c : Char) : Bool :=
  Text.isBlank c && !(28 ≤ c.toNat && c.toNat ≤ 31)

def splitSign : List Char → Bool × List Char
  | '-' :: rest => (true, rest)
  | '+' :: rest => (false, rest)
  | cs => (false, cs)

/-- Drops the mark `0x` of base 16 and one underscore after it. -/
def dropBaseMark (base : Nat) : List Char → List Char
  | '0' :: x :: rest =>
    if base = 16 ∧ (x = 'x' ∨ x = 'X') then
      match rest with
      | '_' :: digits => digits
      | digits => digits
    else '0' :: x :: rest
  | cs => cs

def readInteger (base : Nat) (s : String) : Except IntegerDefect Int :=
  let (negative, unsigned) := splitSign (s.toList.dropWhile isMargin)
  match digitRun base true (dropBaseMark base unsigned) with
  | none => .error .malformed
  | some (digits, after) =>
    if base = 10 ∧ digitLimit < digits.length then .error (.tooLong digits.length)
    else if after.all isMargin then
      let n : Int := ofDigits base digits
      .ok (if negative then -n else n)
    else .error .malformed

/-- The decimal text of an integer that is not too long. -/
def writeInteger (n : Int) : Except IntegerDefect String :=
  if (toString n.natAbs).length ≤ digitLimit then .ok (toString n) else .error .tooLongToWrite

end SelectorRouter.Number
