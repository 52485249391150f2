import CustomCommands.WorldFile

/-!
# Simulations

The host that a world file describes, and who can give commands there: the
console, and each player under the player's name in any letter case.
-/

namespace CustomCommands

inductive WorldError where
  | read (path : String) (e : FileError)
  | malformed (path : String)
  | unknownWorld (player world : String)
  | unknownMode (player mode : String)
  deriving DecidableEq, Repr

/-- What is said of an error, and then its causes. -/
def WorldError.chain : WorldError → List String
  | read path e => ["Failed to read world file " ++ path, e.message]
  | malformed path => ["Failed to parse world file " ++ path, "TOML parse error"]
  | unknownWorld player world => ["player '" ++ player ++ "' is in unknown world '" ++ world ++ "'"]
  | unknownMode player mode => ["player '" ++ player ++ "'", "unknown game mode '" ++ mode ++ "'"]

structure Simulation where
  platform : Platform
  accounts : Option (Accounts Float)
  /-- The players of the file by their names in small letters. -/
  senders : List (String × Sender)

def GameMode.ofName? (name : String) : Option GameMode :=
  match Text.asciiLower name with
  | "survival" => some .survival
  | "creative" => some .creative
  | "adventure" => some .adventure
  | "spectator" => some .spectator
  | _ => none

namespace WorldFile

def defaultWorld : World :=
  { name := "world", ground := defaultGround }

/-- The worlds there are; a file that names none has one. -/
def allWorlds (f : WorldFile) : List World :=
  if f.worlds.isEmpty then [defaultWorld] else f.worlds

/-- Where players are who have no place of their own. -/
def origin (f : WorldFile) : Location where
  world := (f.worlds.head?.getD defaultWorld).name
  x := 0
  y := 64
  z := 0

/-- A location is in one of the worlds that the file names, if it names any. -/
def place (f : WorldFile) (e : PlayerEntry) : Except WorldError Location :=
  match e.location with
  | none => .ok f.origin
  | some l =>
    if f.worlds.isEmpty || f.worlds.any (fun w => w.name == l.world) then .ok l
    else .error (.unknownWorld e.name l.world)

def mode (e : PlayerEntry) : Except WorldError GameMode :=
  match e.mode with
  | none => .ok .survival
  | some name =>
    match GameMode.ofName? name with
    | some m => .ok m
    | none => .error (.unknownMode e.name (Text.asciiLower name))

/-- The player of an entry; one without an identifier gets a fresh one. -/
def player (f : WorldFile) (fresh : Uuid) (e : PlayerEntry) : Except WorldError Player := do
  let location ← f.place e
  let mode ← mode e
  .ok { name := e.name, id := e.id.getD fresh, online := e.online, location, mode }

def players? (f : WorldFile) (fresh : Nat → Uuid) :
    Except WorldError (List (PlayerEntry × Player)) :=
  f.players.zipIdx.mapM fun (e, i) => (f.player (fresh i) e).map fun q => (e, q)

def senderOf (e : PlayerEntry) (q : Player) : Sender :=
  { name := e.name, id := some q.id, permissions := e.permissions }

/-- Builds the host; `fresh` has an identifier for each player without one. -/
def build (fresh : Nat → Uuid) (f : WorldFile) : Except WorldError Simulation := do
  let players ← f.players? fresh
  let world : Platform := { worlds := f.allWorlds, players := players.map Prod.snd }
  let accounts : Accounts Float :=
    players.foldl (fun a (e, q) => a.setBalance q.id e.balance) {}
  .ok
    { platform := f.sounds.foldl (fun p s => p.addSound s) world
      accounts := if f.economy then some accounts else none
      senders := Assoc.ofList (players.map fun (e, q) => (Text.lower e.name, senderOf e q)) }

def load (files : FileTree) (path : String) : Except WorldError WorldFile :=
  match files.readText path with
  | .error e => .error (.read path e)
  | .ok text =>
    match ofText? text with
    | none => .error (.malformed path)
    | some f => .ok f

end WorldFile

namespace Simulation

/-- A player of the file, online or not. -/
def player? (name : String) (s : Simulation) : Option Sender :=
  Assoc.get? (Text.lower name) s.senders

def sender? (who : String) (s : Simulation) : Option Sender :=
  if Text.sameIgnoringCase who "console" then some .console else s.player? who

def ledger (s : Simulation) : Option (Ledger Float) :=
  s.accounts.map .accounts

def balanceIn (accounts : Option (Accounts Float)) (name : String) (s : Simulation) :
    Option Float := do
  let sender ← s.player? name
  let id ← sender.id
  some ((← accounts).balance id)

def balance (name : String) (s : Simulation) : Option Float :=
  s.balanceIn s.accounts name

end Simulation

end CustomCommands
