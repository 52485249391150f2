import CustomCommands.Decimal.Binary

/-!
# Reading decimal numbers

Whole numbers with an optional sign, and decimal fractions with an optional
exponent, rounded to the nearest double. Digits are the ten ASCII ones, and
nothing may stand before or after the number.
-/

namespace CustomCommands.Decimal

def digitValue (base : Nat) (c : Char) : Option Nat :=
  let v :=
    if '0' ≤ c && c ≤ '9' then c.toNat - '0'.toNat
    else if 'a' ≤ c && c ≤ 'f' then c.toNat - 'a'.toNat + 10
    else if 'A' ≤ c && c ≤ 'F' then c.toNat - 'A'.toNat + 10
    else base
  if v < base then some v else none

/-- Reads digits, the most significant first; `none` if another character stands among them. -/
def readDigits (base : Nat) (acc : Nat) : List Char → Option Nat
  | [] => some acc
  | c :: cs => (digitValue base c).bind fun v => readDigits base (acc * base + v) cs

def readNat (base : Nat) : List Char → Option Nat
  | [] => none
  | cs => readDigits base 0 cs

/-- Cuts off a sign; is it a minus? -/
def takeSign : List Char → Bool × List Char
  | '-' :: cs => (true, cs)
  | '+' :: cs => (false, cs)
  | cs => (false, cs)

def readInt (low high : Int) (cs : List Char) : Option Int :=
  let (negative, digits) := takeSign cs
  (readNat 10 digits).bind fun n =>
    let v : Int := if negative then -n else n
    if low ≤ v && v ≤ high then some v else none

def readInt32 : List Char → Option Int :=
  readInt (-2147483648) 2147483647

def readInt64 : List Char → Option Int :=
  readInt (-9223372036854775808) 9223372036854775807

def isDigit (c : Char) : Bool :=
  '0' ≤ c && c ≤ '9'

/-- `digits · 10 ^ power` as a double. Powers beyond every double are cut off before they are
raised. -/
def ofDigits (negative : Bool) (digits : Nat) (size : Nat) (power : Int) : Float :=
  if digits == 0 || power + size < -400 then nearest negative 0 1
  else if 400 < power then infinity negative
  else nearest negative (digits * Nat.pow 10 power.toNat) (Nat.pow 10 (-power).toNat)

/-- The exponent part: nothing, or a letter e, a sign and digits. -/
def readExponent : List Char → Option Int
  | [] => some 0
  | c :: cs =>
    if c == 'e' || c == 'E' then
      let (negative, digits) := takeSign cs
      (readNat 10 digits).map fun n => if negative then -(n : Int) else n
    else none

/-- A decimal fraction without a sign: digits, a point and digits, with a digit somewhere. -/
def readUnsigned (negative : Bool) (cs : List Char) : Option Float :=
  let whole := cs.takeWhile isDigit
  let rest := cs.dropWhile isDigit
  let (places, rest) :=
    match rest with
    | '.' :: cs => (cs.takeWhile isDigit, cs.dropWhile isDigit)
    | cs => ([], cs)
  if whole.isEmpty && places.isEmpty then none
  else
    (readExponent rest).bind fun e =>
      (readDigits 10 0 (whole ++ places)).map fun n =>
        ofDigits negative n (whole.length + places.length) (e - places.length)

/-- A number, or one of the words `inf`, `infinity` and `nan` in any letter case. -/
def readFloat (cs : List Char) : Option Float :=
  let (negative, rest) := takeSign cs
  let word := String.ofList (rest.map Char.toLower)
  if word == "inf" || word == "infinity" then some (infinity negative)
  else if word == "nan" then some notANumber
  else readUnsigned negative rest

end CustomCommands.Decimal
