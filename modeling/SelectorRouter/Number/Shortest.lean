import SelectorRouter.Number.Binary64

/-!
# Shortest decimal text of a floating-point number

A number is written with the fewest digits that read back as the same number,
and of those with the digits nearest to its value. Numbers below 10^16 and not
below 10^-4 are written with a decimal point, the others with an exponent.
-/

namespace SelectorRouter.Number

/-- The decimal `digits · 10^scale`. -/
structure Decimal where
  digits : Nat
  scale : Int
  deriving Repr, DecidableEq

namespace Binary64

/-- The reals that are read as the number `m · 2^e`, in quarters of `2^e`: the two
ends, and whether they belong to the interval. Below a power of two the
neighbour is only half as far away. -/
def rounding (m : Nat) (e : Int) : Nat × Nat × Bool :=
  let low := if m = leastFull ∧ minExponent < e then 4 * m - 1 else 4 * m - 2
  (low, 4 * m + 2, m % 2 == 0)

/-- The least power of ten above the quotient, counted up from `10^p`. -/
def pointFrom (num den : Nat) : Nat → Int → Int
  | 0, p => p
  | fuel + 1, p =>
    let (up, down) := pow 10 p
    if num * down < den * up then p else pointFrom num den fuel (p + 1)

/-- The candidate with `n` digits: of the two neighbours of the value on that grid
the one that reads back, or the nearer one when both do. -/
def candidate? (m : Nat) (e : Int) (point : Int) (n : Nat) : Option Nat :=
  let (low, high, closed) := rounding m e
  let (up2, down2) := pow 2 e
  let (up10, down10) := pow 10 (point - n)
  -- a grid point `d` stands for `d · up10 / down10`, a quarter for `up2 / (4 · down2)`
  let grid := 4 * up10 * down2
  let quarter := up2 * down10
  let inside (d : Nat) : Bool :=
    if closed then low * quarter ≤ d * grid && d * grid ≤ high * quarter
    else low * quarter < d * grid && d * grid < high * quarter
  let value := 4 * m * quarter
  let d := value / grid
  let below := value - d * grid
  let above := (d + 1) * grid - value
  match inside d, inside (d + 1) with
  | true, true =>
    some (if below < above then d else if above < below then d + 1 else d + d % 2)
  | true, false => some d
  | false, true => some (d + 1)
  | false, false => none

/-- Fewest digits first; seventeen always suffice. -/
def shortestFrom (m : Nat) (e : Int) (point : Int) : Nat → Nat → Decimal
  | 0, n => ⟨(candidate? m e point n).getD 0, point - n⟩
  | fuel + 1, n =>
    match candidate? m e point n with
    | some d => ⟨d, point - n⟩
    | none => shortestFrom m e point fuel (n + 1)

/-- The shortest decimal that reads back as `m · 2^e`. -/
def shortest (m : Nat) (e : Int) : Decimal :=
  let (up, down) := pow 2 e
  let point := pointFrom (m * up) down 700 (-330)
  shortestFrom m e point 17 1

end Binary64

def dropTrailingZeros (digits : List Char) : List Char :=
  (digits.reverse.dropWhile (· = '0')).reverse

/-- Positional text when the leading digit stands for 10^-4 to 10^15. -/
def formatDecimal (d : Decimal) : String :=
  let all := (toString d.digits).toList
  -- the value is `0.d₁d₂… · 10^point`
  let point : Int := all.length + d.scale
  let digits := dropTrailingZeros all
  if -3 ≤ point ∧ point ≤ 16 then
    if point ≤ 0 then
      "0." ++ String.ofList (List.replicate (-point).toNat '0' ++ digits)
    else
      let whole := digits.take point.toNat
      let part := digits.drop point.toNat
      String.ofList (whole ++ List.replicate (point.toNat - whole.length) '0') ++ "."
        ++ (if part.isEmpty then "0" else String.ofList part)
  else
    let e := point - 1
    let mantissa := match digits with
      | [] => "0"
      | [c] => String.singleton c
      | c :: rest => String.singleton c ++ "." ++ String.ofList rest
    let size := toString e.natAbs
    mantissa ++ "e" ++ (if e < 0 then "-" else "+")
      ++ (if size.length < 2 then "0" ++ size else size)

def Binary64.format : Binary64 → String
  | .nan => "nan"
  | .infinite negative => if negative then "-inf" else "inf"
  | .finite negative m e =>
    (if negative then "-" else "")
      ++ (if m = 0 then "0.0" else formatDecimal (Binary64.shortest m e))

end SelectorRouter.Number
