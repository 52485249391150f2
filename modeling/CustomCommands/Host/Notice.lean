/-!
# Notices

What operators are told in the log, and results that come with notices.
-/

namespace CustomCommands

inductive Notice where
  | unknownAction
  | linesExpected
  | teleportMappingExpected
  | titleMappingExpected
  | barTextExpected
  | unknownSound
  | teleportWithoutTarget
  | teleportTargetMissing
  | teleportDestinationMissing
  | teleportCoordinates
  | teleportWorld
  | rosterUnreadable
  | rosterMalformed
  | rosterIdentifier
  | unitSkipped
  | unitsSkipped
  | reloadFailed
  | duplicateCommand
  | aliasTaken
  | labelTaken
  | registrarMissing
  | withdrawalRefused
  | pumpFailed
  deriving DecidableEq, Repr

namespace Notice

def text : Notice → String
  | unknownAction => "Unknown action type"
  | linesExpected => "Invalid value type for action, expected a list"
  | teleportMappingExpected => "Invalid value type for teleport, expected a mapping"
  | titleMappingExpected => "Invalid value type for big_text, expected a mapping"
  | barTextExpected => "Invalid value type for small_text, expected a string"
  | unknownSound => "Invalid sound name"
  | teleportWithoutTarget => "Teleport action is missing the 'who' field"
  | teleportTargetMissing => "Teleport target not found"
  | teleportDestinationMissing => "Teleport destination player not found"
  | teleportCoordinates => "Invalid teleport coordinates"
  | teleportWorld => "Invalid world for teleport"
  | rosterUnreadable => "Could not read roster"
  | rosterMalformed => "Could not parse roster"
  | rosterIdentifier => "Roster entry has an invalid identifier"
  | unitSkipped => "Skipping specification unit"
  | unitsSkipped => "Some specification units were skipped"
  | reloadFailed => "Reload failed"
  | duplicateCommand => "Duplicate command name, keeping the first"
  | aliasTaken => "Alias already in use, skipping"
  | labelTaken => "Label already taken at the registrar"
  | registrarMissing =>
    "No command registrar available; commands are only reachable through direct dispatch"
  | withdrawalRefused => "Ledger refused a withdrawal it had approved"
  | pumpFailed => "Scheduler driver task failed"

def isError : Notice → Bool
  | reloadFailed | registrarMissing => true
  | _ => false

def line (n : Notice) : String :=
  (if n.isError then "ERROR " else "WARN ") ++ n.text

end Notice

/-- A result and the notices on the way to it. -/
structure Noted (α : Type) where
  value : α
  notices : List Notice := []

namespace Noted

instance : Monad Noted where
  pure a := { value := a }
  bind m f :=
    let r := f m.value
    { value := r.value, notices := m.notices ++ r.notices }

variable {α β : Type}

@[simp] theorem value_pure (a : α) : (pure a : Noted α).value = a := rfl

@[simp] theorem value_bind (m : Noted α) (f : α → Noted β) : (m >>= f).value = (f m.value).value :=
  rfl

theorem notices_bind (m : Noted α) (f : α → Noted β) :
    (m >>= f).notices = m.notices ++ (f m.value).notices := rfl

def tell (n : Notice) (a : α) : Noted α :=
  { value := a, notices := [n] }

@[simp] theorem value_tell (n : Notice) (a : α) : (tell n a).value = a := rfl

end Noted

end CustomCommands
