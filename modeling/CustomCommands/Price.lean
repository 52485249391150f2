import CustomCommands.Decimal.Binary

/-!
# Prices and currencies

What an invocation costs is a finite number that is not negative. Balances may
be kept in doubles, as hosts do, or in exact fractions.
-/

namespace CustomCommands

structure Price where
  value : Float
  valid : (Decimal.Fraction.ofFloat value).isAmount

namespace Price

def free : Price :=
  ⟨0, by decide⟩

/-- The price of a cost as written: a negative one is no cost, and one that is not finite none at
all. -/
def ofFloat? (x : Float) : Option Price :=
  if h : (Decimal.Fraction.ofFloat x).isAmount then some ⟨x, h⟩
  else if (Decimal.Fraction.ofFloat x).isFinite then some free
  else none

instance : Inhabited Price := ⟨free⟩

end Price

/-- Numbers that balances are kept in. -/
class Currency (N : Type) where
  zero : N
  ofPrice : Price → N
  isPositive : N → Bool
  /-- Is a balance at least the amount? -/
  covers : N → N → Bool
  /-- Is a balance less than the amount? -/
  isShort : N → N → Bool
  sub : N → N → N

instance : Currency Float where
  zero := 0
  ofPrice p := p.value
  isPositive x := 0 < x
  covers balance amount := amount ≤ balance
  isShort balance amount := balance < amount
  sub := (· - ·)

instance : Currency Rat where
  zero := 0
  ofPrice p := Decimal.exactValue p.value
  isPositive x := 0 < x
  covers balance amount := amount ≤ balance
  isShort balance amount := balance < amount
  sub := (· - ·)

end CustomCommands
