import CustomCommands.Command
import CustomCommands.Host.Notice
import CustomCommands.Host.Registrar

/-!
# Catalogues

The commands that can be called, in the order in which they were loaded, each
with the aliases that it got. Labels are compared by their small letters: of two
commands with one name the first is kept, and an alias that names a command or
was given out before is not given again.
-/

namespace CustomCommands

namespace Catalogue

structure Entry where
  command : Command
  aliases : List String

def key (label : String) : String :=
  Text.lower label

namespace Entry

def labels (e : Entry) : List String :=
  e.command.name :: e.aliases

def answersTo (label : String) (e : Entry) : Bool :=
  e.labels.any fun l => key l == key label

/-- What a host is told of the command. -/
def handle (e : Entry) : Handle where
  command := e.command.name
  permission := e.command.permission
  usage := e.command.usage

end Entry

end Catalogue

structure Catalogue where
  entries : List Catalogue.Entry := []

namespace Catalogue

def find? (label : String) (c : Catalogue) : Option Command :=
  (c.entries.find? (Entry.answersTo label)).map Entry.command

def names (c : Catalogue) : List String :=
  (c.entries.map fun e => e.command.name).mergeSort (fun a b => decide (a ≤ b))

def labels (c : Catalogue) : List (String × Handle) :=
  c.entries.flatMap fun e => e.labels.map fun l => (l, e.handle)

/-! ## Building -/

/-- Keeps the first of the commands with one name; `seen` are the keys of those kept before. -/
def distinct (seen : List String) : List Command → Noted (List Command)
  | [] => pure []
  | c :: cs =>
    if seen.contains c.key then do
      Noted.tell .duplicateCommand ()
      distinct seen cs
    else do
      let rest ← distinct (c.key :: seen) cs
      pure (c :: rest)

/-- The aliases that can still be given out; `taken` are the keys that cannot. -/
def accept (taken : List String) : List String → Noted (List String)
  | [] => pure []
  | a :: as =>
    if taken.contains (key a) then do
      Noted.tell .aliasTaken ()
      accept taken as
    else do
      let rest ← accept (key a :: taken) as
      pure (a :: rest)

def assign (taken : List String) : List Command → Noted (List Entry)
  | [] => pure []
  | c :: cs => do
    let aliases ← accept taken c.aliases
    let rest ← assign (aliases.map key ++ taken) cs
    pure ({ command := c, aliases } :: rest)

def ofCommands (commands : List Command) : Noted Catalogue := do
  let kept ← distinct [] commands
  let entries ← assign (kept.map Command.key) kept
  pure { entries }

end Catalogue

end CustomCommands
