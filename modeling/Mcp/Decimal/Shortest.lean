import Mcp.Decimal.Binary64

/-!
The fewest decimal digits that identify a binary64 number, found by exact arithmetic, and the
layout of such digits as text. A decimal identifies the number if it lies in the interval of the
reals that round to it; of the two grid points beside the number the nearer one is taken.
-/

namespace Mcp.Decimal

/-- The decimal number `digits · 10 ^ exponent`. -/
structure Scientific where
  digits : Nat
  exponent : Int
  deriving DecidableEq, Repr

namespace Scientific

/-- The same number without zeros at the end of its digits. -/
def strip (s : Scientific) : Scientific := go s.digits s
where
  go : Nat → Scientific → Scientific
    | 0, s => s
    | fuel + 1, s =>
      if s.digits ≠ 0 ∧ s.digits % 10 = 0 then go fuel ⟨s.digits / 10, s.exponent + 1⟩ else s

end Scientific

namespace Binary64

/-- A point of the grid `10 ^ exponent`, in quarters of the unit of `x`'s last place, as a ratio. -/
def quarters (x : Binary64) (point : Nat) (exponent : Int) : Nat × Nat :=
  let binary := x.exponent - 2
  (point * Nat.pow 10 exponent.toNat * Nat.pow 2 (-binary).toNat,
    Nat.pow 10 (-exponent).toNat * Nat.pow 2 binary.toNat)

/-- The lower end of the interval that rounds to `x`, in quarters of its last place: half a place
down, a quarter below a power of two. -/
def lowerEnd (x : Binary64) : Nat :=
  if x.significand = 0x10000000000000 ∧ -1074 < x.exponent then 4 * x.significand - 1
  else 4 * x.significand - 2

/-- The upper end of the interval that rounds to `x`, in quarters of its last place. -/
def upperEnd (x : Binary64) : Nat := 4 * x.significand + 2

/-- Whether a grid point rounds to `x`: it lies in the interval, whose ends belong to it exactly
when the significand is even. -/
def readsBack (x : Binary64) (point : Nat) (exponent : Int) : Bool :=
  let (num, den) := x.quarters point exponent
  if x.significand % 2 = 0 then decide (x.lowerEnd * den ≤ num ∧ num ≤ x.upperEnd * den)
  else decide (x.lowerEnd * den < num ∧ num < x.upperEnd * den)

/-- The grid point that rounds to `x` and lies nearest to it, if there is one. -/
def nearestOn (x : Binary64) (exponent : Int) : Option Nat :=
  let (step, den) := x.quarters 1 exponent
  let below := 4 * x.significand * den / step
  let above := below + 1
  match x.readsBack below exponent && below != 0, x.readsBack above exponent with
  | true, true =>
    let twice := 2 * (4 * x.significand * den)
    let middle := (below + above) * step
    if twice < middle then some below
    else if middle < twice then some above
    else some (if below % 2 = 0 then below else above)
  | true, false => some below
  | false, true => some above
  | false, false => none

def belowPower (x : Binary64) (exponent : Int) : Bool :=
  let (num, den) := x.quarters 1 exponent
  decide (4 * x.significand * den < num)

/-- The least power of ten above the magnitude of a number other than zero. -/
def magnitude (x : Binary64) : Int :=
  let guess := ((x.significand.log2 : Int) + x.exponent) * 1233 / 4096
  ([guess - 1, guess, guess + 1, guess + 2].find? x.belowPower).getD (guess + 3)

/-- The fewest digits that round to `x`, without its sign. -/
def shortest (x : Binary64) : Scientific :=
  if x.isZero then ⟨0, 0⟩
  else
    let top := x.magnitude
    let tries := (List.range 18).filterMap fun (n : Nat) =>
      let exponent := top - (n : Int)
      (x.nearestOn exponent).map fun point => (⟨point, exponent⟩ : Scientific)
    (tries.headD ⟨x.ratio.1 / x.ratio.2, 0⟩).strip

end Binary64

/-- How digits are laid out: the decimal exponents written positionally, the text that marks a
whole number, and the marks of an exponent. -/
structure Layout where
  leastPositional : Int
  greatestPositional : Int
  wholeMark : String
  positiveMark : String
  negativeMark : String
  deriving Repr

/-- The text of a number under a layout. -/
def Layout.write (layout : Layout) (x : Binary64) : String :=
  let s := x.shortest
  let digits := Nat.toDigits 10 s.digits
  let count := digits.length
  let leading : Int := s.exponent + count - 1
  let body : List Char :=
    if layout.leastPositional ≤ leading ∧ leading ≤ layout.greatestPositional then
      if 0 ≤ s.exponent then
        digits ++ List.replicate s.exponent.toNat '0' ++ layout.wholeMark.toList
      else if 0 ≤ leading then
        digits.take (leading.toNat + 1) ++ '.' :: digits.drop (leading.toNat + 1)
      else '0' :: '.' :: List.replicate (-leading - 1).toNat '0' ++ digits
    else
      let fraction := if count ≤ 1 then [] else '.' :: digits.drop 1
      let mark := if 0 ≤ leading then layout.positiveMark else layout.negativeMark
      digits.take 1 ++ fraction ++ mark.toList ++ Nat.toDigits 10 leading.natAbs
  String.ofList (if x.negative then '-' :: body else body)

end Mcp.Decimal
