/-!
# Countdowns

A countdown of `n` seconds has `n` steps with the seconds left, from `n` down to
one, and then a step that finishes it.
-/

namespace CustomCommands

inductive Countdown where
  | pending (seconds : Nat)
  | done
  deriving DecidableEq, Repr

/-- What one step of a countdown asks for. -/
inductive Countdown.Step where
  | perSecond (left : Nat)
  | finish
  /-- The countdown was done before. -/
  | idle
  deriving DecidableEq, Repr

namespace Countdown

def advance : Countdown → Step × Countdown
  | pending 0 => (.finish, done)
  | pending (n + 1) => (.perSecond (n + 1), pending n)
  | done => (.idle, done)

def isDone : Countdown → Bool
  | done => true
  | pending _ => false

end Countdown

end CustomCommands
