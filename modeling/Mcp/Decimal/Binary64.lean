/-!
Finite binary64 numbers, kept as a sign and an exact `significand · 2 ^ exponent`, and rounding of
a ratio of naturals to the nearest of them. All arithmetic is exact arithmetic on naturals followed
by one rounding.
-/

namespace Mcp.Decimal

/-- The number `± significand · 2 ^ exponent`. The significand is below `2 ^ 53`, and at least
`2 ^ 52` unless the exponent is the least one, `-1074`. -/
structure Binary64 where
  negative : Bool
  significand : Nat
  exponent : Int
  deriving DecidableEq, Repr, Inhabited

/-- The quotient rounded to the nearest natural, a tie going to the even one. -/
def roundQuotient (num den : Nat) : Nat :=
  let quotient := num / den
  let twice := 2 * (num % den)
  if twice < den then quotient
  else if den < twice then quotient + 1
  else quotient + quotient % 2

namespace Binary64

def zero (negative : Bool) : Binary64 := ⟨negative, 0, -1074⟩

def isZero (x : Binary64) : Bool := x.significand == 0

def negate (x : Binary64) : Binary64 := { x with negative := !x.negative }

def scale (num den : Nat) (exponent : Int) : Nat × Nat :=
  if 0 ≤ exponent then (num, den * Nat.pow 2 exponent.toNat)
  else (num * Nat.pow 2 (-exponent).toNat, den)

/-- The exponent that gives `num / den` a significand of 53 bits, or the least exponent. -/
def exponentFor (num den : Nat) : Int :=
  let guess : Int := (num.log2 : Int) - (den.log2 : Int) - 52
  let (n, d) := scale num den guess
  max (-1074) (if n / d < 0x10000000000000 then guess - 1 else guess)

/-- The number nearest to `num / den`, ties to the even significand; `none` when it is too large. -/
def ofRatio (negative : Bool) (num den : Nat) : Option Binary64 :=
  if num = 0 then some (zero negative)
  else
    let exponent := exponentFor num den
    let (n, d) := scale num den exponent
    let significand := roundQuotient n d
    let (significand, exponent) :=
      if significand = 0x20000000000000 then (0x10000000000000, exponent + 1)
      else (significand, exponent)
    if 971 < exponent then none else some ⟨negative, significand, exponent⟩

/-- The magnitude as a ratio of naturals. -/
def ratio (x : Binary64) : Nat × Nat :=
  if 0 ≤ x.exponent then (x.significand * Nat.pow 2 x.exponent.toNat, 1)
  else (x.significand, Nat.pow 2 (-x.exponent).toNat)

/-- The order of numbers by size; both zeros are equal. -/
def order (x y : Binary64) : Ordering :=
  let (a, b) := x.ratio
  let (c, d) := y.ratio
  let signed (negative : Bool) (n : Nat) : Int := if negative then -n else n
  compare (signed x.negative (a * d)) (signed y.negative (c * b))

/-- The product, rounded once. -/
def mul (x y : Binary64) : Option Binary64 :=
  let (a, b) := x.ratio
  let (c, d) := y.ratio
  ofRatio (x.negative != y.negative) (a * c) (b * d)

/-- The quotient by a number other than zero, rounded once. -/
def div (x y : Binary64) : Option Binary64 :=
  let (a, b) := x.ratio
  let (c, d) := y.ratio
  ofRatio (x.negative != y.negative) (a * d) (b * c)

/-- The number nearest to `10 ^ n`. -/
def powerOfTen (n : Nat) : Option Binary64 := ofRatio false (Nat.pow 10 n) 1

end Binary64

end Mcp.Decimal
