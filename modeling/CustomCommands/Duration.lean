import CustomCommands.Decimal.Reader
import CustomCommands.Text.Blank
import CustomCommands.Text.Lowercase

/-!
# Durations

A duration is written as a positive whole number and a unit that starts with
`sec`, `min` or `hour`. Any other text is no duration, which counts as zero.
-/

namespace CustomCommands.Duration

def maxSeconds : Nat := 18446744073709551615

/-- The seconds of a unit, in any letter case. -/
def unitSeconds? (unit : List Char) : Option Nat :=
  let unit := unit.map Char.toLower
  if Text.startsWith unit "sec".toList then some 1
  else if Text.startsWith unit "min".toList then some 60
  else if Text.startsWith unit "hour".toList then some 3600
  else none

def amount? (digits : List Char) : Option Nat :=
  (Decimal.readInt64 digits).bind fun n => if 0 < n then some n.toNat else none

def seconds? (text : String) : Option Nat :=
  match Text.words text.toList with
  | [amount, unit] => do some (min ((← amount? amount) * (← unitSeconds? unit)) maxSeconds)
  | _ => none

def seconds (text : String) : Nat :=
  (seconds? text).getD 0

end CustomCommands.Duration
