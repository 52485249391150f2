import CustomCommands.Decimal.Reader
import CustomCommands.Decimal.Shortest
import CustomCommands.Markup.Node
import CustomCommands.Toml.Text

/-!
# TOML numbers and dates

Whole numbers of 64 bits in four bases, decimal fractions, and dates and times,
which are written back in one normal form.
-/

namespace CustomCommands.Toml

open Markup

/-! ## Leaves -/

def ofText (s : String) : Node :=
  .leaf { text := some s, value := some s }

def ofFlag (b : Bool) : Node :=
  .leaf { value := some (if b then "true" else "false"), flag := some b }

def ofWhole (n : Int) : Node :=
  .leaf
    { value := some (toString n)
      number := some (Decimal.nearest (n < 0) n.natAbs 1)
      whole := some n }

def ofDecimal (x : Float) : Node :=
  .leaf { value := some (Decimal.shortest x), number := some x }

/-- The key that a date stands under where a free value is wanted. -/
def dateKey : String := "$__toml_private_datetime"

def ofDate (s : String) : Node :=
  .map false [(ofText dateKey, ofText s)]

/-! ## Numbers -/

/-- Digits with single underscores between them: the digits, and the rest. -/
def readRun (ok : Char → Bool) : List Char → List Char × List Char
  | '_' :: d :: cs => if ok d then let (ds, rest) := readRun ok cs; (d :: ds, rest) else ([], '_' :: d :: cs)
  | d :: cs => if ok d then let (ds, rest) := readRun ok cs; (d :: ds, rest) else ([], d :: cs)
  | [] => ([], [])

def readRun1 (ok : Char → Bool) : List Char → Option (List Char × List Char)
  | d :: cs => if ok d then let (ds, rest) := readRun ok cs; some (d :: ds, rest) else none
  | [] => none

/-- A decimal whole number's digits: no zero leads more digits. -/
def readDecimalDigits : List Char → Option (List Char × List Char)
  | '0' :: cs => some (['0'], cs)
  | cs => readRun1 Decimal.isDigit cs

def readExponentPart : List Char → Option (List Char × List Char)
  | c :: cs =>
    if c == 'e' || c == 'E' then
      let sign := match cs with
        | '+' :: _ => ['+']
        | '-' :: _ => ['-']
        | _ => []
      (readRun1 Decimal.isDigit (cs.drop sign.length)).map fun (ds, rest) =>
        ('e' :: sign ++ ds, rest)
    else none
  | [] => none

def readPlaces : List Char → Option (List Char × List Char)
  | '.' :: cs => (readRun1 Decimal.isDigit cs).map fun (ds, rest) => ('.' :: ds, rest)
  | _ => none

/-- A decimal fraction past its sign. One that is too large is refused unless it is negative. -/
def readFraction (negative : Bool) (cs : List Char) : Option (Node × List Char) := do
  let (whole, rest) ← readDecimalDigits cs
  let (tail, rest) ←
    match readExponentPart rest with
    | some r => some r
    | none =>
      (readPlaces rest).map fun (places, rest) =>
        match readExponentPart rest with
        | some (e, rest) => (places ++ e, rest)
        | none => (places, rest)
  let x ← Decimal.readFloat ((if negative then ['-'] else []) ++ whole ++ tail)
  if x.isInf && !negative then none else some (ofDecimal x, rest)

def readSpecial (negative : Bool) : List Char → Option (Node × List Char)
  | 'i' :: 'n' :: 'f' :: cs => some (ofDecimal (Decimal.infinity negative), cs)
  | 'n' :: 'a' :: 'n' :: cs => some (ofDecimal Decimal.notANumber, cs)
  | _ => none

/-- A whole number in base two, eight or sixteen, past the marker of its base. -/
def readBased (base : Nat) (cs : List Char) : Option (Node × List Char) := do
  let (digits, rest) ← readRun1 (fun c => (Decimal.digitValue base c).isSome) cs
  let n ← Decimal.readNat base digits
  if n < Nat.pow 2 63 then some (ofWhole n, rest) else none

def readWhole (cs : List Char) : Option (Node × List Char) :=
  match cs with
  | '0' :: 'x' :: cs => readBased 16 cs
  | '0' :: 'o' :: cs => readBased 8 cs
  | '0' :: 'b' :: cs => readBased 2 cs
  | cs =>
    let (negative, digits) := Decimal.takeSign cs
    (readDecimalDigits digits).bind fun (ds, rest) =>
      (Decimal.readInt64 ((if negative then ['-'] else []) ++ ds)).map fun n => (ofWhole n, rest)

/-! ## Dates and times -/

def readField (count : Nat) (cs : List Char) : Option (Nat × List Char) :=
  if (cs.take count).length < count then none
  else (Decimal.readNat 10 (cs.take count)).map fun n => (n, cs.drop count)

def pad (count n : Nat) : String :=
  let digits := toString n
  String.ofList (List.replicate (count - digits.length) '0') ++ digits

def daysIn (year month : Nat) : Nat :=
  if month == 2 then
    if (year % 4 == 0 && year % 100 != 0) || year % 400 == 0 then 29 else 28
  else if month == 4 || month == 6 || month == 9 || month == 11 then 30
  else 31

def expect (c : Char) : List Char → Option (List Char)
  | d :: cs => if c == d then some cs else none
  | [] => none

def readDay (cs : List Char) : Option (String × List Char) := do
  let (year, cs) ← readField 4 cs
  let cs ← expect '-' cs
  let (month, cs) ← readField 2 cs
  let cs ← expect '-' cs
  let (day, cs) ← readField 2 cs
  if 1 ≤ month && month ≤ 12 && 1 ≤ day && day ≤ daysIn year month then
    some (pad 4 year ++ "-" ++ pad 2 month ++ "-" ++ pad 2 day, cs)
  else none

/-- The part of a second, to nine places, without trailing zeros. -/
def readSubsecond (cs : List Char) : Option (String × List Char) :=
  match cs with
  | '.' :: cs =>
    let digits := cs.takeWhile Decimal.isDigit
    if digits.isEmpty then none
    else
      let kept := ((digits.take 9).reverse.dropWhile (· == '0')).reverse
      some (String.ofList (if kept.isEmpty then [] else '.' :: kept), cs.dropWhile Decimal.isDigit)
  | cs => some ("", cs)

def readTime (cs : List Char) : Option (String × List Char) := do
  let (hour, cs) ← readField 2 cs
  let cs ← expect ':' cs
  let (minute, cs) ← readField 2 cs
  let cs ← expect ':' cs
  let (second, cs) ← readField 2 cs
  let (part, cs) ← readSubsecond cs
  if hour ≤ 23 && minute ≤ 59 && second ≤ 60 then
    some (pad 2 hour ++ ":" ++ pad 2 minute ++ ":" ++ pad 2 second ++ part, cs)
  else none

def readOffset (cs : List Char) : Option (String × List Char) :=
  match cs with
  | 'Z' :: cs => some ("Z", cs)
  | 'z' :: cs => some ("Z", cs)
  | c :: more =>
    if c == '+' || c == '-' then do
      let (hour, rest) ← readField 2 more
      let rest ← expect ':' rest
      let (minute, rest) ← readField 2 rest
      let sign := if c == '-' && 0 < hour + minute then "-" else "+"
      if hour ≤ 23 && minute ≤ 59 then some (sign ++ pad 2 hour ++ ":" ++ pad 2 minute, rest)
      else none
    else some ("", cs)
  | [] => some ("", [])

def timeFollows : List Char → Bool
  | 'T' :: _ => true
  | 't' :: _ => true
  | ' ' :: c :: d :: _ => Decimal.isDigit c && Decimal.isDigit d
  | _ => false

def looksLikeDate (cs : List Char) : Bool :=
  match cs.dropWhile Decimal.isDigit, (cs.takeWhile Decimal.isDigit).length with
  | '-' :: _, 4 => true
  | ':' :: _, 2 => true
  | _, _ => false

def readDate (cs : List Char) : Option (Node × List Char) :=
  match readField 4 cs with
  | some _ => do
    let (day, rest) ← readDay cs
    if timeFollows rest then
      let (time, rest) ← readTime (rest.drop 1)
      let (offset, rest) ← readOffset rest
      some (ofDate (day ++ "T" ++ time ++ offset), rest)
    else some (ofDate day, rest)
  | none => (readTime cs).map fun (time, rest) => (ofDate time, rest)

/-- A scalar that starts with a sign or a digit. -/
def readNumber (cs : List Char) : Option (Node × List Char) :=
  if looksLikeDate cs then readDate cs
  else
    let (negative, rest) := Decimal.takeSign cs
    match readFraction negative rest with
    | some r => some r
    | none =>
      match readSpecial negative rest with
      | some r => some r
      | none => readWhole cs

end CustomCommands.Toml
