import CustomCommands.Host.Notice

/-!
# Pumps

A pump comes round once every period, for the first time at once. Its time is
its own: it passes when somebody waits. A pump whose period is zero fails at its
start: it never comes round, and whoever stops it is told.
-/

namespace CustomCommands

structure Pump where
  /-- The time from one round to the next, in milliseconds. -/
  period : Nat
  now : Nat := 0
  /-- The instant of the next round. -/
  next : Nat := 0
  running : Bool := true

namespace Pump

def hasFailed (p : Pump) : Bool :=
  p.period == 0

def rounds (until_ : Nat) (p : Pump) : List Nat :=
  if p.running && !p.hasFailed then
    (List.range ((until_ - p.next + p.period - 1) / p.period)).map fun i => p.next + i * p.period
  else []

/-- Waits; the rounds of an instant come after whatever else happens at it. -/
def elapse (milliseconds : Nat) (p : Pump) : List Nat × Pump :=
  let now := p.now + milliseconds
  let rounds := p.rounds now
  (rounds, { p with now, next := p.next + rounds.length * p.period })

/-- Ends the pump without waiting for it. -/
def drop (p : Pump) : Pump :=
  { p with running := false }

/-- Ends the pump and waits until it has ended. -/
def stop (p : Pump) : Noted Pump :=
  if p.running && p.hasFailed then .tell .pumpFailed p.drop else pure p.drop

end Pump

end CustomCommands
