import CustomCommands.Argument
import CustomCommands.Price
import CustomCommands.Text.Blank

/-!
# Commands

A command that is ready to be loaded. Its name is one word without blanks, and
an alias is not empty and holds no space.
-/

namespace CustomCommands

inductive DefinitionError where
  | name (name : String)
  | cost (name : String)
  | otherName (other name : String)
  deriving DecidableEq, Repr

def DefinitionError.message : DefinitionError → String
  | name n => "command name '" ++ n ++ "' must be a single non-empty word"
  | cost n => "cost of '" ++ n ++ "' is not a finite number"
  | otherName a n => "alias '" ++ a ++ "' of '" ++ n ++ "' must be a single non-empty word"

structure Command where
  name : String
  usageMessage : Option String
  aliases : List String
  price : Price
  /-- The cooldown as written. -/
  cooldown : Option String
  tree : Argument
  /-- The file the command was read from. -/
  source : Option String := none

namespace Command

def isName (s : String) : Bool :=
  !s.isEmpty && !(s.toList.any Text.isBlank)

def isAlias (s : String) : Bool :=
  !s.isEmpty && !(s.toList.contains ' ')

/-- Builds a command; the name is looked at first, then the cost, then the aliases. -/
def ofDefinition (name : String) (d : CommandDefinition) : Except DefinitionError Command :=
  if !isName name then .error (.name name)
  else
    match Price.ofFloat? d.cost with
    | none => .error (.cost name)
    | some price =>
      match d.aliases.find? fun a => !isAlias a with
      | some a => .error (.otherName a name)
      | none =>
        .ok
          { name
            usageMessage := d.usage
            aliases := d.aliases
            price
            cooldown := d.cooldown.filter fun c => !(Text.trim c.toList).isEmpty
            tree := .ofDefinition name d.root }

def permission (c : Command) : Option String :=
  c.tree.traits.permission

def usage (c : Command) : String :=
  c.usageMessage.getD ("/" ++ c.name)

/-- The cooldown in seconds; zero if it is missing or no duration. -/
def cooldownSeconds (c : Command) : Nat :=
  (c.cooldown.map Duration.seconds).getD 0

def key (c : Command) : String :=
  Text.lower c.name

end Command

end CustomCommands
