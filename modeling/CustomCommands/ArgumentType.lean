import CustomCommands.Text.Lowercase

/-!
# Argument types

What a placeholder in brackets takes. A type that is missing or not known takes
any text.
-/

namespace CustomCommands

inductive ArgumentType where
  | onlinePlayer
  | player
  | integer
  | double
  | world
  | text
  deriving DecidableEq, Repr

namespace ArgumentType

def ofName (name : String) : ArgumentType :=
  match Text.asciiLower name with
  | "online_player" => onlinePlayer
  | "player" => player
  | "integer" => integer
  | "double" => double
  | "world" => world
  | _ => text

def ofDeclared (declared : Option String) : ArgumentType :=
  (declared.map ofName).getD text

def name : ArgumentType → String
  | onlinePlayer => "online_player"
  | player => "player"
  | integer => "integer"
  | double => "double"
  | world => "world"
  | text => "text"

end ArgumentType

end CustomCommands
