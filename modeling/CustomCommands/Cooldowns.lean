import CustomCommands.Assoc
import CustomCommands.TimerQueue
import CustomCommands.Uuid

/-!
# Cooldowns

For each command, the instants up to which its actors have to wait. An entry is
taken out by a clean-up that was queued with it, unless it has been renewed in
the meantime, and a command without entries is not kept.
-/

namespace CustomCommands

/-- The queued removal of an entry that expires at `expiry`. -/
structure Cleanup where
  command : String
  actor : Uuid
  expiry : Nat
  deriving DecidableEq, Repr

structure Cooldowns where
  commands : List (String × List (Uuid × Nat)) := []

namespace Cooldowns

/-- No cooldown is longer than a hundred years, in milliseconds. -/
def maxDuration : Nat := 100 * 365 * 24 * 60 * 60 * 1000

def actors (command : String) (c : Cooldowns) : List (Uuid × Nat) :=
  (Assoc.get? command c.commands).getD []

def expiry? (command : String) (actor : Uuid) (c : Cooldowns) : Option Nat :=
  Assoc.get? actor (c.actors command)

def isActive (command : String) (actor : Uuid) (now : Nat) (c : Cooldowns) : Bool :=
  (c.expiry? command actor).any (now < ·)

/-- How long the actor has to wait, zero if not at all. -/
def remaining (command : String) (actor : Uuid) (now : Nat) (c : Cooldowns) : Nat :=
  ((c.expiry? command actor).map (· - now)).getD 0

/-- Starts a cooldown, or renews it. A duration of zero is none at all; otherwise there is a
clean-up to queue for the instant at which the entry expires. -/
def start (command : String) (actor : Uuid) (duration now : Nat) (c : Cooldowns) :
    Cooldowns × Option Cleanup :=
  if duration = 0 then (c, none)
  else
    let expiry := now + min duration maxDuration
    ({ commands := Assoc.insert command (Assoc.insert actor expiry (c.actors command)) c.commands },
      some { command, actor, expiry })

/-- Removes an entry if it is still the one that the clean-up was queued for. Was it? -/
def clean (x : Cleanup) (c : Cooldowns) : Bool × Cooldowns :=
  if c.expiry? x.command x.actor = some x.expiry then
    let rest := Assoc.erase x.actor (c.actors x.command)
    (true,
      { commands :=
          if rest.isEmpty then Assoc.erase x.command c.commands
          else Assoc.insert x.command rest c.commands })
  else (false, c)

def size (c : Cooldowns) : Nat :=
  c.commands.foldr (fun (_, actors) n => actors.length + n) 0

def isEmpty (c : Cooldowns) : Bool :=
  c.commands.isEmpty

def commandCount (c : Cooldowns) : Nat :=
  c.commands.length

/-! ## What each operation does to look-up -/

theorem expiry?_start (command : String) (actor : Uuid) (duration now : Nat) (c : Cooldowns)
    (k : String) (a : Uuid) :
    (c.start command actor duration now).1.expiry? k a =
      if duration ≠ 0 ∧ command = k ∧ actor = a then some (now + min duration maxDuration)
      else c.expiry? k a := by
  unfold start
  by_cases hd : duration = 0
  · simp [hd]
  · simp only [hd, ↓reduceIte, expiry?, actors, Assoc.get?_insert, ne_eq, not_false_eq_true,
      true_and]
    by_cases hk : command = k
    · subst hk
      simp [Assoc.get?_insert]
    · simp [hk]

theorem expiry?_clean (x : Cleanup) (c : Cooldowns) (k : String) (a : Uuid) :
    (c.clean x).2.expiry? k a =
      if c.expiry? x.command x.actor = some x.expiry ∧ x.command = k ∧ x.actor = a then none
      else c.expiry? k a := by
  unfold clean
  by_cases hx : c.expiry? x.command x.actor = some x.expiry
  · simp only [hx, ↓reduceIte, true_and]
    by_cases hk : x.command = k
    · subst hk
      have hrest := Assoc.get?_erase x.actor a (c.actors x.command)
      split
      · rename_i he
        rw [List.isEmpty_iff.1 he, Assoc.get?] at hrest
        simp only [expiry?, actors, Assoc.get?_erase, ↓reduceIte, Option.getD_none, Assoc.get?,
          true_and]
        exact hrest
      · simp only [expiry?, actors, Assoc.get?_insert, ↓reduceIte, Option.getD_some, true_and]
        exact hrest
    · split <;> simp [expiry?, actors, Assoc.get?_erase, Assoc.get?_insert, hk]
  · simp [hx]

end Cooldowns

end CustomCommands
