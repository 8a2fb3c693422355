/-!
# Finite binary floating-point numbers

A `Binary64` is a sign, a significand below `2 ^ 53` and an exponent. `nearest` rounds an exact
quotient to the nearest such number, ties to the even significand; products and quotients are the exact
results rounded once. `ofScientific` reads a decimal significand and a power of ten by rounding the
significand, the power of ten and their product or quotient in turn.
-/

namespace ActionForge

/-- The number `± significand * 2 ^ exponent`. -/
structure Binary64 where
  negative : Bool
  significand : Nat
  exponent : Int
  deriving DecidableEq, Repr

namespace Binary64

/-- Exponent of the least positive number. -/
def leastExponent : Int := -1074

/-- Exponent of the greatest numbers. -/
def greatestExponent : Int := 971

/-- Zero with the given sign. -/
def zero (negative : Bool) : Binary64 := ⟨negative, 0, leastExponent⟩

/-- Zero of either sign. -/
def isZero (x : Binary64) : Bool := x.significand == 0

/-- The same magnitude with the given sign. -/
def withSign (x : Binary64) (negative : Bool) : Binary64 := { x with negative }

/-- A power of two. -/
def twoTo (n : Nat) : Nat := Nat.pow 2 n

/-- A power of ten. -/
def tenTo (n : Nat) : Nat := Nat.pow 10 n

/-- The numerator and denominator of `num / (den * 2 ^ exponent)`. -/
def scaledTo (num den : Nat) (exponent : Int) : Nat × Nat :=
  if exponent < 0 then (num * twoTo exponent.natAbs, den)
  else (num, den * twoTo exponent.natAbs)

/-- The quotient rounded to the nearest natural number, a half to the even neighbour. -/
def roundHalfEven (num den : Nat) : Nat :=
  let below := num / den
  let twice := 2 * (num % den)
  if twice < den then below
  else if den < twice then below + 1
  else if below % 2 == 0 then below else below + 1

/-- The exponent at which `num / den` has a significand of 53 binary digits, or the least exponent. -/
def exponentFor (num den : Nat) : Int :=
  let guess : Int := (num.log2 : Int) - (den.log2 : Int) - 53
  let (top, bottom) := scaledTo num den guess
  max leastExponent (if twoTo 53 ≤ top / bottom then guess + 1 else guess)

/-- The number nearest to `± num / den`, or `none` when that lies beyond the greatest number. -/
def nearest (negative : Bool) (num den : Nat) : Option Binary64 :=
  if num == 0 then some (zero negative)
  else
    let exponent := exponentFor num den
    let (top, bottom) := scaledTo num den exponent
    let rounded := roundHalfEven top bottom
    let (significand, exponent) :=
      if rounded == twoTo 53 then (twoTo 52, exponent + 1) else (rounded, exponent)
    if greatestExponent < exponent then none else some ⟨negative, significand, exponent⟩

/-- Numerator and denominator of the magnitude. -/
def fraction (x : Binary64) : Nat × Nat :=
  if x.exponent < 0 then (x.significand, twoTo x.exponent.natAbs)
  else (x.significand * twoTo x.exponent.natAbs, 1)

/-- The product, rounded once. -/
def mul (x y : Binary64) : Option Binary64 :=
  let (a, b) := x.fraction
  let (c, d) := y.fraction
  nearest (x.negative != y.negative) (a * c) (b * d)

/-- The quotient, rounded once; the divisor must not be zero. -/
def div (x y : Binary64) : Option Binary64 :=
  let (a, b) := x.fraction
  let (c, d) := y.fraction
  nearest (x.negative != y.negative) (a * d) (b * c)

/-- The number nearest to a natural number. -/
def ofNat (n : Nat) : Option Binary64 := nearest false n 1

/-- The power of ten, rounded. -/
def powerOfTen (n : Nat) : Option Binary64 := nearest false (tenTo n) 1

/-- The largest power of ten that is a number. -/
def greatestPower : Nat := 308

/-- The significand times a power of ten. Beyond `10 ^ 308` only zero can be scaled up, and scaling
down goes in steps of `10 ^ 308`; two such steps leave nothing of a significand of 64 bits. -/
def ofScientific (significand : Nat) (power : Int) : Option Binary64 := do
  let x ← ofNat significand
  if x.isZero then some x
  else if 0 ≤ power then
    if power ≤ greatestPower then x.mul (← powerOfTen power.toNat) else none
  else
    let down := power.natAbs
    if down ≤ greatestPower then x.div (← powerOfTen down)
    else
      let small ← x.div (← powerOfTen greatestPower)
      if down ≤ 2 * greatestPower then small.div (← powerOfTen (down - greatestPower))
      else some (zero false)

end Binary64

end ActionForge
