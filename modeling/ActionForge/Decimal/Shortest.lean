import ActionForge.Decimal.Binary64

/-!
# Shortest decimal text

`Binary64.shortest` finds the fewest decimal digits that read back as the number, and among those the
nearest to it. On the grid of each digit count it tests the two neighbours of the number in exact
arithmetic. `Binary64.text` writes the digits: positionally from `0.00001` to below `10 ^ 16` and with an
exponent elsewhere.
-/

namespace ActionForge

namespace Binary64

/-- Decimal digits and the power of ten of the last of them. -/
structure Digits where
  digits : Nat
  power : Int
  deriving DecidableEq, Repr

/-- Moves up to `fuel` zeros from the end of the digits into the power. -/
def Digits.strip (d : Digits) : Nat → Digits
  | 0 => d
  | fuel + 1 =>
    if d.digits % 10 == 0 && d.digits != 0 then strip ⟨d.digits / 10, d.power + 1⟩ fuel else d

/-- The exponent of the leading decimal digit of a positive quotient. -/
def leadingPower (num den : Nat) : Int :=
  if den ≤ num then ((Nat.toDigits 10 (num / den)).length : Int) - 1
  else -((Nat.toDigits 10 ((den + num - 1) / num - 1)).length : Int)

/-- The reals that read as a number, scaled to integers over a common denominator. -/
structure Interval where
  value : Nat
  low : Nat
  high : Nat
  denominator : Nat
  closed : Bool

/-- The interval of reals that round to `x`. Below a power of two the numbers lie twice as close; the
ends belong to the interval when the significand is even. -/
def interval (x : Binary64) : Interval :=
  let quarter := x.exponent - 2
  let gap := if x.significand == twoTo 52 && leastExponent < x.exponent then 1 else 2
  let scale (n : Nat) : Nat := if quarter < 0 then n else n * twoTo quarter.natAbs
  { value := scale (4 * x.significand)
    low := scale (4 * x.significand - gap)
    high := scale (4 * x.significand + 2)
    denominator := if quarter < 0 then twoTo quarter.natAbs else 1
    closed := x.significand % 2 == 0 }

/-- Whether `num / den` lies in the interval. -/
def Interval.holds (i : Interval) (num den : Nat) : Bool :=
  let point := num * i.denominator
  if i.closed then i.low * den ≤ point && point ≤ i.high * den
  else i.low * den < point && point < i.high * den

/-- The better of the two neighbours of the value on the grid of step `10 ^ power`, if one of them lies
in the interval. An exact tie goes to the even digit. -/
def Interval.onGrid (i : Interval) (power : Int) : Option Nat :=
  let up := if power < 0 then 1 else tenTo power.natAbs
  let down := if power < 0 then tenTo power.natAbs else 1
  let below := i.value * down / (i.denominator * up)
  let above := below + 1
  let rest := i.value * down % (i.denominator * up)
  match i.holds (below * up) down, i.holds (above * up) down with
  | true, true =>
    let twice := 2 * rest
    if twice < i.denominator * up then some below
    else if i.denominator * up < twice then some above
    else if below % 2 == 0 then some below else some above
  | true, false => some below
  | false, true => some above
  | false, false => none

/-- The first grid with a hit, going from `count` digits to more; `fuel` bounds the search. -/
def Interval.search (i : Interval) (lead : Int) : Nat → Int → Digits
  | 0, _ => ⟨0, lead⟩
  | fuel + 1, count =>
    match i.onGrid (lead - count + 1) with
    | some digits => ⟨digits, lead - count + 1⟩
    | none => i.search lead fuel (count + 1)

/-- The fewest digits that read back as the number, without zeros at the end. Seventeen digits always
suffice. -/
def shortest (x : Binary64) : Digits :=
  let i := x.interval
  (i.search (leadingPower i.value i.denominator) 17 1).strip 20

/-- Where positional notation is used: powers of the leading digit from -5 to 15. -/
def isPositional (lead : Int) : Bool := -5 ≤ lead && lead < 16

/-- Digits written positionally, with at least one digit after the point. -/
def positional (digits : List Char) (lead : Int) : List Char :=
  if lead < 0 then ['0', '.'] ++ List.replicate (lead.natAbs - 1) '0' ++ digits
  else
    let whole := lead.toNat + 1
    let front := digits.take whole
    let back := digits.drop whole
    front ++ List.replicate (whole - front.length) '0' ++ ['.'] ++ (if back.isEmpty then ['0'] else back)

/-- Digits written as `d.ddde±n`, with no point after a lone digit. -/
def scientific (digits : List Char) (lead : Int) : List Char :=
  digits.take 1 ++ (if digits.length ≤ 1 then [] else '.' :: digits.drop 1) ++
    ['e', if lead < 0 then '-' else '+'] ++ Nat.toDigits 10 lead.natAbs

/-- The shortest text that reads back as the number. -/
def text (x : Binary64) : List Char :=
  (if x.negative then ['-'] else []) ++
    if x.isZero then ['0', '.', '0']
    else
      let found := x.shortest
      let shown := Nat.toDigits 10 found.digits
      let lead := found.power + shown.length - 1
      if isPositional lead then positional shown lead else scientific shown lead

end Binary64

end ActionForge
