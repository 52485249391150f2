import CustomCommands.Dispatcher

/-!
# World files

A world file describes the host of a simulation: its worlds, its sounds, and the
players with their balances and permissions. Unknown fields are errors.
-/

namespace CustomCommands

structure PlayerEntry where
  name : String
  id : Option Uuid := none
  online : Bool := true
  balance : Float := 0
  permissions : List String := []
  /-- The game mode as written. -/
  mode : Option String := none
  location : Option Location := none

structure WorldFile where
  /-- Is there a ledger? -/
  economy : Bool := true
  sounds : List String := []
  worlds : List World := []
  players : List PlayerEntry := []

namespace WorldFile

/-! ## Reading -/

open Markup (Node)
open Markup.Node (fieldOr)

def defaultGround : Float := 64

def readWorld (n : Node) : Option World := do
  match ← n.record? true [["name"], ["ground"]] with
  | [some name, ground] =>
    some { name := ← name.text?, ground := ← fieldOr defaultGround Node.number? ground }
  | _ => none

def readLocation (n : Node) : Option Location := do
  match ← n.record? true [["world"], ["x"], ["y"], ["z"]] with
  | [some world, some x, some y, some z] =>
    some { world := ← world.text?, x := ← x.number?, y := ← y.number?, z := ← z.number? }
  | _ => none

/-- An identifier is a text or a list of its bytes. -/
def readUuid (n : Node) : Option Uuid :=
  match n with
  | .list _ _ items => (items.take 16).mapM Node.whole? |>.bind Uuid.ofBytes?
  | n => n.text?.bind Uuid.ofText?

/-- In a list, the fields that are absent have to be given too. -/
def isWhole (count : Nat) : Node → Bool
  | .list _ _ items => count ≤ items.length
  | _ => true

def readPlayer (n : Node) : Option PlayerEntry := do
  match ← n.record? true [["name"], ["uuid"], ["online"], ["balance"], ["permissions"],
    ["game_mode"], ["location"]] with
  | [some name, id, online, balance, permissions, mode, location] =>
    if !isWhole 7 n then none
    else
      some
        { name := ← name.text?
          id := ← fieldOr none (Node.optional? readUuid) id
          online := ← fieldOr true Node.flag? online
          balance := ← fieldOr 0 Node.number? balance
          permissions := ← fieldOr [] (Node.list? Node.text?) permissions
          mode := ← fieldOr none (Node.optional? Node.text?) mode
          location := ← fieldOr none (Node.optional? readLocation) location }
  | _ => none

def read (n : Node) : Option WorldFile := do
  match ← n.record? true [["economy"], ["sounds"], ["worlds"], ["players"]] with
  | [economy, sounds, worlds, players] =>
    some
      { economy := ← fieldOr true Node.flag? economy
        sounds := ← fieldOr [] (Node.list? Node.text?) sounds
        worlds := ← fieldOr [] (Node.list? readWorld) worlds
        players := ← fieldOr [] (Node.list? readPlayer) players }
  | _ => none

def ofText? (text : String) : Option WorldFile :=
  (Toml.readDocument text).bind read

end WorldFile

end CustomCommands
