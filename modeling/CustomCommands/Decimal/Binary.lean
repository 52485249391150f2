/-!
# Binary fractions

What a double stands for, `± m · 2 ^ q` with natural `m`, and the double nearest
to a quotient of natural numbers. Both work on the bit pattern, in exact
arithmetic.
-/

namespace CustomCommands.Decimal

inductive Fraction where
  | nan
  | infinite (negative : Bool)
  | finite (negative : Bool) (m : Nat) (q : Int)
  deriving DecidableEq, Repr

def Fraction.ofFloat (x : Float) : Fraction :=
  let bits := x.toBits.toNat
  let negative := bits / Nat.pow 2 63 == 1
  let exponent : Nat := bits / Nat.pow 2 52 % Nat.pow 2 11
  let fraction : Nat := bits % Nat.pow 2 52
  if exponent == 2047 then
    if fraction == 0 then .infinite negative else .nan
  else if exponent == 0 then .finite negative fraction (-1074)
  else .finite negative (fraction + Nat.pow 2 52) ((exponent : Int) - 1075)

def Fraction.isFinite : Fraction → Bool
  | .finite _ _ _ => true
  | _ => false

/-- Is it finite and without a minus? -/
def Fraction.isAmount : Fraction → Bool
  | .finite negative _ _ => !negative
  | _ => false

def infinity (negative : Bool) : Float :=
  Float.ofBits (if negative then 0xFFF0000000000000 else 0x7FF0000000000000)

def notANumber : Float :=
  Float.ofBits 0x7FF8000000000000

/-- `m · 2 ^ q` as a quotient. -/
def quotient (m : Nat) (q : Int) : Nat × Nat :=
  if 0 ≤ q then (m * Nat.pow 2 q.toNat, 1) else (m, Nat.pow 2 (-q).toNat)

/-- The quotient rounded to a whole number, a half to the even neighbour. -/
def roundEven (num den : Nat) : Nat :=
  let whole := num / den
  let twice := 2 * (num % den)
  if twice < den then whole
  else if den < twice then whole + 1
  else whole + whole % 2

/-- `num / den` divided by `2 ^ e`, as a quotient. -/
def scaleDown (num den : Nat) (e : Int) : Nat × Nat :=
  if 0 ≤ e then (num, den * Nat.pow 2 e.toNat) else (num * Nat.pow 2 (-e).toNat, den)

/-- The double nearest to `num / den`, a tie to the even one; infinite above the largest. -/
def nearest (negative : Bool) (num den : Nat) : Float :=
  let sign : Nat := if negative then Nat.pow 2 63 else 0
  if num == 0 then Float.ofBits (UInt64.ofNat sign)
  else
    let e := max ((num.log2 : Int) - den.log2 - 53) (-1074)
    let (n, d) := scaleDown num den e
    let e := if n / d < Nat.pow 2 53 then e else e + 1
    let (n, d) := scaleDown num den e
    let bits := (e + 1074).toNat * Nat.pow 2 52 + roundEven n d
    Float.ofBits (UInt64.ofNat (sign + min bits (2047 * Nat.pow 2 52)))

/-- The exact value of a finite double; zero stands in for the others. -/
def exactValue (x : Float) : Rat :=
  match Fraction.ofFloat x with
  | .finite negative m q =>
    let (n, d) := quotient m q
    let magnitude := mkRat n d
    if negative then -magnitude else magnitude
  | _ => 0

end CustomCommands.Decimal
