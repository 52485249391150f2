/-!
# Clocks

Instants are milliseconds since a clock was started. The clock counts them in
64 bits and starts again at zero when they run out.
-/

namespace CustomCommands

structure Clock where
  elapsed : UInt64 := 0
  deriving DecidableEq, Repr

namespace Clock

/-- The most milliseconds that one step can take. -/
def maxStep : Nat := 18446744073709551615

/-- Moves the clock on; a longer step than can be counted is cut off. -/
def advance (milliseconds : Nat) (c : Clock) : Clock :=
  ⟨c.elapsed + UInt64.ofNat (min milliseconds maxStep)⟩

def now (c : Clock) : Nat :=
  c.elapsed.toNat

end Clock

end CustomCommands
