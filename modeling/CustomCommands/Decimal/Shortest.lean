import CustomCommands.Decimal.Binary

/-!
# Shortest decimal text

The fewest digits that read back as the same double, nearest to it among those,
a tie going up; and texts with a fixed number of places, where a tie goes to
the even neighbour. Both are positional, whatever the magnitude.
-/

namespace CustomCommands.Decimal

/-- The reals that round to one double, as numerators over a common denominator. -/
structure Interval where
  low : Nat
  value : Nat
  high : Nat
  den : Nat
  closed : Bool

/-- The interval of `m · 2 ^ q`; below a power of two the neighbour is half as far. -/
def Interval.ofFraction (m : Nat) (q : Int) : Interval :=
  let scale (n : Nat) : Nat := (quotient n (q - 2)).1
  { low := scale (if m == Nat.pow 2 52 && q != -1074 then 4 * m - 1 else 4 * m - 2)
    value := scale (4 * m)
    high := scale (4 * m + 2)
    den := (quotient 1 (q - 2)).2
    closed := m % 2 == 0 }

def Interval.holds (i : Interval) (n d : Nat) : Bool :=
  if i.closed then i.low * d ≤ n * i.den && n * i.den ≤ i.high * d
  else i.low * d < n * i.den && n * i.den < i.high * d

def digitCount (n : Nat) : Nat :=
  (Nat.toDigits 10 n).length

/-- The power of ten of the leading digit of `num / den`. -/
def leadingPower (num den : Nat) : Int :=
  if den ≤ num then (digitCount (num / den) : Int) - 1
  else -(digitCount ((den - 1) / num) : Int)

/-- The multiple of `10 ^ p` nearest to the interval's value that lies in the interval, as a
multiplier. -/
def Interval.onGrid (i : Interval) (p : Int) : Option Nat :=
  let up := Nat.pow 10 p.toNat
  let down := Nat.pow 10 (-p).toNat
  let below := i.value * down / (i.den * up)
  let holds (k : Nat) : Bool := i.holds (k * up) down
  match holds below, holds (below + 1) with
  | true, true =>
    if 2 * i.value * down < (2 * below + 1) * (i.den * up) then some below else some (below + 1)
  | true, false => some below
  | false, true => some (below + 1)
  | false, false => none

/-- Tries `lead`, `lead - 1`, … as the power of the last digit. -/
def Interval.firstGrid (i : Interval) : Nat → Int → Nat × Int
  | 0, p => (i.value * Nat.pow 10 (-p).toNat / (i.den * Nat.pow 10 p.toNat), p)
  | n + 1, p =>
    match i.onGrid p with
    | some k => (k, p)
    | none => i.firstGrid n (p - 1)

def positional (k : Nat) (p : Int) : List Char :=
  let digits := Nat.toDigits 10 k
  if 0 ≤ p then digits ++ List.replicate p.toNat '0'
  else
    let places := (-p).toNat
    let digits := List.replicate (places + 1 - digits.length) '0' ++ digits
    digits.take (digits.length - places) ++ '.' :: digits.drop (digits.length - places)

/-- Drops zeros that end the places, and the point if nothing is left after it. -/
def dropTrailingZeros (cs : List Char) : List Char :=
  if cs.contains '.' then
    let cs := cs.reverse.dropWhile (· == '0')
    (if cs.head? == some '.' then cs.drop 1 else cs).reverse
  else cs

def signed (negative : Bool) (cs : List Char) : String :=
  String.ofList (if negative then '-' :: cs else cs)

/-- The shortest text that reads back as `x`. -/
def shortest (x : Float) : String :=
  match Fraction.ofFloat x with
  | .nan => "NaN"
  | .infinite negative => signed negative "inf".toList
  | .finite negative 0 _ => signed negative ['0']
  | .finite negative m q =>
    let i := Interval.ofFraction m q
    let (k, p) := i.firstGrid 17 (leadingPower i.value i.den)
    signed negative (dropTrailingZeros (positional k p))

def fixed (places : Nat) (x : Float) : String :=
  match Fraction.ofFloat x with
  | .nan => "NaN"
  | .infinite negative => signed negative "inf".toList
  | .finite negative m q =>
    let (n, d) := quotient m q
    signed negative (positional (roundEven (n * Nat.pow 10 places) d) (-(places : Int)))

end CustomCommands.Decimal
