import PageBuilder.Decimal.Binary64
/-! The fewest decimal digits that still name a number, and the text made from
them. Decimals are tried by length; of the two neighbours of the number on the
grid of a length, one that rounds back to it is taken, the nearer one first. -/
namespace PageBuilder.Decimal

/-- The decimal `digits * 10 ^ scale`. -/
structure Digits where
  digits : Nat
  scale : Int
  deriving DecidableEq, Repr

def decimalLength (n : Nat) : Nat :=
  (Nat.toDigits 10 n).length

/-- The exponent of the leading decimal digit of `n / d`, for positive `n` and `d`. -/
def leadingDigit (n d : Nat) : Int :=
  if d ≤ n then (decimalLength (n / d) : Int) - 1
  else
    let places := decimalLength (d / n)
    if n * Nat.pow 10 (places - 1) = d then 1 - (places : Int) else -(places : Int)

/-- `n * 10 ^ e` over `d`, as a fraction of integers. -/
def scaleTen (n d : Nat) (e : Int) : Nat × Nat :=
  if 0 ≤ e then (n * Nat.pow 10 e.toNat, d) else (n, d * Nat.pow 10 (-e).toNat)

namespace Binary64

/-- The decimals that round to a magnitude lie between these bounds, which are
given in quarters of its unit; the bounds belong to it if the mantissa is even. -/
def quarterBounds (x : Binary64) : Nat × Nat :=
  let below := if x.mantissa = leastNormal && (-1074 : Int) < x.exponent then 1 else 2
  (4 * x.mantissa - below, 4 * x.mantissa + 2)

/-- Whether `digits * 10 ^ scale` reads back as the magnitude `x`. -/
def covers (x : Binary64) (digits : Nat) (scale : Int) : Bool :=
  let (low, high) := x.quarterBounds
  let (num, den) := scaleTen digits 1 scale
  let (num, den) := scaleRatio num den (2 - x.exponent)
  if x.mantissa % 2 = 0 then low * den ≤ num && num ≤ high * den
  else low * den < num && num < high * den

/-- The neighbour of `x` on the grid `10 ^ scale` that reads back as `x`. -/
def onGrid? (x : Binary64) (scale : Int) : Option Nat :=
  let (num, den) := scaleRatio x.mantissa 1 x.exponent
  let (num, den) := scaleTen num den (-scale)
  let near := roundDiv num den
  let far := if near = num / den then near + 1 else near - 1
  if x.covers near scale then some near
  else if x.covers far scale then some far
  else none

/-- Tries lengths from `17 - tries` digits on; seventeen digits always suffice. -/
def shortestFrom (x : Binary64) (lead : Int) : Nat → Digits
  | 0 => ⟨(x.onGrid? (lead - 16)).getD 0, lead - 16⟩
  | tries + 1 =>
    let scale := lead - (16 - (tries + 1))
    match x.onGrid? scale with
    | some digits => ⟨digits, scale⟩
    | none => shortestFrom x lead tries

/-- The shortest digits of a magnitude other than zero. -/
def shortest (x : Binary64) : Digits :=
  let (num, den) := scaleRatio x.mantissa 1 x.exponent
  shortestFrom x (leadingDigit num den) 16

end Binary64

/-- Which leading exponents are written without an exponent mark. -/
structure Style where
  least : Int
  limit : Int

/-- Positional from `0.00001` on and below `10 ^ 16`. -/
def standard : Style := ⟨-5, 16⟩

def trimZeros (digits : List Char) : List Char :=
  (digits.reverse.dropWhile (· = '0')).reverse

/-- Digits before the point number `lead + 1`; there is always one on either side. -/
def positional (digits : List Char) (lead : Int) : List Char :=
  if lead < 0 then
    '0' :: '.' :: List.replicate (-lead - 1).toNat '0' ++ digits
  else
    let before := lead.toNat + 1
    let whole := digits.take before ++ List.replicate (before - digits.length) '0'
    let part := digits.drop before
    whole ++ '.' :: (if part.isEmpty then ['0'] else part)

/-- One digit before the point, the point only if more follow, a signed exponent. -/
def scientific (digits : List Char) (lead : Int) : List Char :=
  let part := digits.drop 1
  digits.take 1 ++ (if part.isEmpty then [] else '.' :: part) ++
    ['e', if lead < 0 then '-' else '+'] ++ Nat.toDigits 10 lead.natAbs

def Style.write (style : Style) (x : Binary64) : List Char :=
  let sign := if x.negative then ['-'] else []
  if x.isZero then sign ++ ['0', '.', '0']
  else
    let short := x.shortest
    let all := Nat.toDigits 10 short.digits
    let lead := short.scale + all.length - 1
    let digits := trimZeros all
    sign ++
      if style.least ≤ lead && lead < style.limit then positional digits lead
      else scientific digits lead

def Binary64.toText (x : Binary64) : String :=
  String.ofList (standard.write x)

end PageBuilder.Decimal
