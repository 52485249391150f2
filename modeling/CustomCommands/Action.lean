import CustomCommands.Duration
import CustomCommands.Value

/-!
# Actions

What a command does: entries of a kind and a payload, in the order in which they
run, perhaps after a countdown with entries of its own for every second.
-/

namespace CustomCommands

/-- Kinds with their payloads, in the order they run in. -/
abbrev ActionSet := List (String × Value)

inductive ActionKind where
  | console
  | chat
  | broadcast
  | message
  | sound
  | teleport
  | bigText
  | smallText
  deriving DecidableEq, Repr

namespace ActionKind

def ofName? (name : String) : Option ActionKind :=
  match Text.asciiLower name with
  | "console" => some console
  | "player" => some chat
  | "player-chat" => some chat
  | "broadcast" => some broadcast
  | "message" => some message
  | "sound" => some sound
  | "teleport" => some teleport
  | "big_text" => some bigText
  | "small_text" => some smallText
  | _ => none

def takesLines : ActionKind → Bool
  | console | chat | broadcast | message | sound => true
  | teleport | bigText | smallText => false

def playerOnly : ActionKind → Bool
  | chat | sound => true
  | _ => false

def accepts (kind : ActionKind) (payload : Value) : Bool :=
  match kind, payload with
  | teleport, .map _ => true
  | bigText, .map _ => true
  | smallText, .text _ => true
  | kind, .list _ => kind.takesLines
  | _, _ => false

/-- Whether a payload fits does not depend on its texts. -/
theorem accepts_mapText (kind : ActionKind) (f : String → String) (v : Value) :
    kind.accepts (v.mapText f) = kind.accepts v := by
  cases v <;> cases kind <;> rfl

end ActionKind

/-- A countdown before the actions, and what runs in each of its seconds. -/
structure Delay where
  length : Option String := none
  perSecond : Option ActionSet := none

namespace Delay

/-- The countdown in seconds; a length that is no duration counts as zero. -/
def seconds (d : Delay) : Nat :=
  (d.length.map Duration.seconds).getD 0

def isEmpty (d : Delay) : Bool :=
  d.length.isNone && d.perSecond.all List.isEmpty

end Delay

end CustomCommands
