/-!
# Binary floating-point numbers

A finite number is a sign, a significand below 2^53 and a power of two. Decimal
text is read to the nearest number, of two equally near ones to that with the
even significand, by exact arithmetic on naturals.
-/

namespace SelectorRouter.Number

inductive Binary64 where
  | nan
  | infinite (negative : Bool)
  | finite (negative : Bool) (significand : Nat) (exponent : Int)
  deriving Repr, DecidableEq

namespace Binary64

/-- The power of two of the smallest numbers. -/
def minExponent : Int := -1074

/-- The power of two of the largest finite numbers. -/
def maxExponent : Int := 971

/-- One more than the largest significand, 2^53. -/
def significandLimit : Nat := 0x20000000000000

/-- The least significand of 53 bits, 2^52. -/
def leastFull : Nat := 0x10000000000000

/-- A power as a quotient, so that the exponent may be negative. -/
def pow (base : Nat) (e : Int) : Nat × Nat :=
  if 0 ≤ e then (base.pow e.toNat, 1) else (1, base.pow (-e).toNat)

/-- The quotient rounded to the nearest natural, a half to the even one. -/
def roundHalfEven (num den : Nat) : Nat :=
  let q := num / den
  let r := num % den
  if 2 * r < den then q
  else if den < 2 * r then q + 1
  else q + q % 2

/-- The power of two that gives the quotient a significand of 53 bits, or the
smallest one. -/
def exponentOf (num den : Nat) : Int :=
  let b : Int := (Nat.log2 num : Int) - (Nat.log2 den : Int)
  let (up, down) := pow 2 b
  let e := if den * up ≤ num * down then b - 52 else b - 53
  max e minExponent

def ofQuotient (negative : Bool) (num den : Nat) : Binary64 :=
  if num = 0 then .finite negative 0 minExponent
  else
    let e := exponentOf num den
    let (up, down) := pow 2 e
    let m := roundHalfEven (num * down) (den * up)
    let (m, e) := if m = significandLimit then (leastFull, e + 1) else (m, e)
    if maxExponent < e then .infinite negative else .finite negative m e

/-- The number nearest to `digits · 10^scale`. Scales far outside the range of the
type are decided without computing the power. -/
def ofDecimal (negative : Bool) (digits : Nat) (scale : Int) : Binary64 :=
  let magnitude : Int := (Nat.log2 digits : Int) / 4 + scale
  if digits = 0 then .finite negative 0 minExponent
  else if 400 < magnitude then .infinite negative
  else if (Nat.log2 digits : Int) + scale < -400 then .finite negative 0 minExponent
  else
    let (up, down) := pow 10 scale
    ofQuotient negative (digits * up) down

def isZero : Binary64 → Bool
  | .finite _ 0 _ => true
  | _ => false

/-- The integer that the number is equal to, if it is one. -/
def toInt? : Binary64 → Option Int
  | .finite negative m e =>
    let (up, down) := pow 2 e
    if m * up % down = 0 then
      let n : Int := (m * up / down : Nat)
      some (if negative then -n else n)
    else none
  | _ => none

end Binary64

end SelectorRouter.Number
