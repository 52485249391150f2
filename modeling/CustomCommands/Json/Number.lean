import CustomCommands.Decimal.Shortest

/-!
# Numbers of a JSON text

A whole number that fits 64 bits is kept as it is. Any other number is the
product or quotient of its leading digits, as many as fit 64 bits, and a power
of ten, each rounded once.
-/

namespace CustomCommands.Json

/-- A number as written: its sign, the digits before the point, those after it, and the power of
ten that follows. -/
structure Literal where
  negative : Bool
  whole : List Nat
  places : List Nat
  power : Option Int

inductive Number where
  | whole (n : Int)
  | decimal (x : Float)

/-- The digits kept so far and the power of ten that they stand under. -/
structure Kept where
  digits : Nat
  power : Int
  full : Bool

/-- Takes in one more digit before the point, or only its place once no more digits fit. -/
def Kept.addWhole (k : Kept) (digit : Nat) : Kept :=
  if k.full || Nat.pow 2 64 ≤ k.digits * 10 + digit then { k with power := k.power + 1, full := true }
  else { k with digits := k.digits * 10 + digit }

/-- Takes in one more digit after the point, or nothing once no more digits fit. -/
def Kept.addPlace (k : Kept) (digit : Nat) : Kept :=
  if k.full || Nat.pow 2 64 ≤ k.digits * 10 + digit then { k with full := true }
  else { k with digits := k.digits * 10 + digit, power := k.power - 1 }

def powerOfTen (n : Nat) : Float :=
  Decimal.nearest false (Nat.pow 10 n) 1

/-- `x · 10 ^ power`, in steps of at most `10 ^ 308`; `none` if it is too large. The steps are
counted: three bring any 64-bit number to zero. -/
def scale : Nat → Float → Int → Option Float
  | 0, _, _ => some 0
  | steps + 1, x, power =>
    if power.natAbs ≤ 308 then
      if 0 ≤ power then
        let y := x * powerOfTen power.natAbs
        if y.isInf then none else some y
      else some (x / powerOfTen power.natAbs)
    else if x == 0 then some x
    else if 0 ≤ power then none
    else scale steps (x / powerOfTen 308) (power + 308)

/-- The value of a literal that is not a whole number of 64 bits. -/
def Literal.decimal? (l : Literal) : Option Float :=
  let k := l.whole.foldl Kept.addWhole { digits := 0, power := 0, full := false }
  let k := l.places.foldl Kept.addPlace { k with full := false }
  let x := (UInt64.ofNat k.digits).toFloat
  (scale 4 x (k.power + l.power.getD 0)).map fun y => if l.negative then -y else y

/-- The value of a literal; `none` if it is too large. Minus zero is no whole number. -/
def Literal.number? (l : Literal) : Option Number :=
  let n : Nat := l.whole.foldl (fun n d => n * 10 + d) 0
  if l.places.isEmpty && l.power.isNone then
    if !l.negative && n < Nat.pow 2 64 then some (.whole n)
    else if l.negative && 0 < n && n ≤ Nat.pow 2 63 then some (.whole (-n))
    else l.decimal?.map .decimal
  else l.decimal?.map .decimal

def Number.text : Number → String
  | .whole n => toString n
  | .decimal x => Decimal.shortest x

def Number.whole? : Number → Option Int
  | .whole n => some n
  | .decimal _ => none

def Number.toFloat : Number → Float
  | .whole n => Decimal.nearest (n < 0) n.natAbs 1
  | .decimal x => x

end CustomCommands.Json
