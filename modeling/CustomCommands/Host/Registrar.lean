import CustomCommands.Assoc
import CustomCommands.Text.Lowercase

/-!
# Registrars

The labels that a host routes to commands, in any letter case. A label belongs
to whoever registered it first.
-/

namespace CustomCommands

structure Handle where
  command : String
  permission : Option String
  usage : String
  deriving DecidableEq, Repr

structure Registrar where
  entries : List (String × Handle) := []

namespace Registrar

def handle? (label : String) (r : Registrar) : Option Handle :=
  Assoc.get? (Text.lower label) r.entries

/-- Registers a label unless it is taken. Was it free? -/
def register (label : String) (h : Handle) (r : Registrar) : Bool × Registrar :=
  if (r.handle? label).isSome then (false, r)
  else (true, { entries := Assoc.insert (Text.lower label) h r.entries })

/-- Removes a label. Was it there? -/
def unregister (label : String) (r : Registrar) : Bool × Registrar :=
  ((r.handle? label).isSome, { entries := Assoc.erase (Text.lower label) r.entries })

def labels (r : Registrar) : List String :=
  (Assoc.keys r.entries).mergeSort (fun a b => decide (a ≤ b))

end Registrar

end CustomCommands
