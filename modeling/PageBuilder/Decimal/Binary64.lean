/-! Finite double-precision numbers as exact integers: a sign, a mantissa and a
power of two. Rounding is to the nearest such number, ties to the even mantissa,
and all of it is integer arithmetic. -/
namespace PageBuilder.Decimal

/-- The number `mantissa * 2 ^ exponent`, negated if `negative`. Rounding keeps
`mantissa < 2 ^ 53` and `-1074 ≤ exponent ≤ 971`, and a mantissa under `2 ^ 52`
only at the least exponent, so that a number other than zero has one form. -/
structure Binary64 where
  negative : Bool
  mantissa : Nat
  exponent : Int
  deriving DecidableEq, Repr, Inhabited

/-- The mantissas from here up to the double, `2 ^ 52` to `2 ^ 53`, have 53 bits. -/
def leastNormal : Nat := 0x10000000000000

/-- The quotient to the nearest integer; a half goes to the even neighbour. -/
def roundDiv (num den : Nat) : Nat :=
  let quotient := num / den
  let twice := 2 * (num % den)
  if twice < den then quotient
  else if den < twice then quotient + 1
  else quotient + quotient % 2

/-- `n * 2 ^ e` over `d`, as a fraction of integers. -/
def scaleRatio (n d : Nat) (e : Int) : Nat × Nat :=
  if 0 ≤ e then (n * Nat.pow 2 e.toNat, d) else (n, d * Nat.pow 2 (-e).toNat)

/-- The exponent of the leading bit of `n / d`, for positive `n` and `d`. -/
def leadingBit (n d : Nat) : Int :=
  let guess : Int := (n.log2 : Int) - (d.log2 : Int)
  let (scaled, one) := scaleRatio n d (-guess)
  if one ≤ scaled then guess else guess - 1

namespace Binary64

def zero (negative : Bool) : Binary64 :=
  ⟨negative, 0, -1074⟩

def isZero (x : Binary64) : Bool :=
  x.mantissa = 0

/-- The number nearest to `n / d * 2 ^ e`; `none` where that is too large. -/
def ofRatio (n d : Nat) (e : Int) : Option Binary64 :=
  if n = 0 then some (zero false)
  else
    let (num, den) := scaleRatio n d e
    let unit := max (leadingBit num den - 52) (-1074)
    let (num, den) := scaleRatio num den (-unit)
    let rounded := roundDiv num den
    let (mantissa, exponent) :=
      if rounded = 2 * leastNormal then (leastNormal, unit + 1) else (rounded, unit)
    if 971 < exponent then none else some ⟨false, mantissa, exponent⟩

def ofNat (n : Nat) : Option Binary64 :=
  ofRatio n 1 0

def negate (x : Binary64) : Binary64 :=
  { x with negative := !x.negative }

/-- The rounded product of two magnitudes. -/
def mul (x y : Binary64) : Option Binary64 :=
  ofRatio (x.mantissa * y.mantissa) 1 (x.exponent + y.exponent)

/-- The rounded quotient of two magnitudes. -/
def div (x y : Binary64) : Option Binary64 :=
  ofRatio x.mantissa y.mantissa (x.exponent - y.exponent)

/-- Positive and negative zero are equal, all else only to itself. -/
def canonical (x : Binary64) : Binary64 :=
  if x.isZero then zero false else x

end Binary64

/-! ### Reading a decimal

The digits are rounded first and then scaled by powers of ten, which are rounded
as well; each step rounds again. This is the rule for numbers in JSON, and it may
differ from the nearest number in the last place. -/

/-- The nearest number to `10 ^ k`, which is exact up to `10 ^ 22`. -/
def powerOfTen (k : Nat) : Binary64 :=
  (Binary64.ofNat (Nat.pow 10 k)).getD (Binary64.zero false)

/-- The largest power of ten that is used in one step. -/
def largestStep : Nat := 308

/-- Divides by the largest step `times` over, as long as something is left. -/
def divideLargest : Nat → Binary64 → Binary64
  | 0, x => x
  | times + 1, x =>
    if x.isZero then x
    else divideLargest times ((x.div (powerOfTen largestStep)).getD (Binary64.zero false))

/-- The number read from `digits * 10 ^ scale`; `none` where it is too large. -/
def ofScaled (digits : Nat) (scale : Int) : Option Binary64 :=
  match Binary64.ofNat digits with
  | none => none
  | some x =>
    if x.isZero then some x
    else if 0 ≤ scale then
      if scale.toNat ≤ largestStep then x.mul (powerOfTen scale.toNat) else none
    else
      let places := (-scale).toNat
      let steps := (places - 1) / largestStep
      (divideLargest steps x).div (powerOfTen (places - steps * largestStep))

end PageBuilder.Decimal
