import CustomCommands.Text.Lowercase
import CustomCommands.Uuid

/-!
# The host's world

The players a host knows, online or not, its worlds and its sounds. Worlds are
flat: a position is safe within one block of the ground.
-/

namespace CustomCommands

inductive GameMode where
  | survival
  | creative
  | adventure
  | spectator
  deriving DecidableEq, Repr, Inhabited

/-- Players in these modes may be put anywhere. -/
def GameMode.ignoresTerrain : GameMode → Bool
  | .creative | .spectator => true
  | .survival | .adventure => false

structure Location where
  world : String
  x : Float
  y : Float
  z : Float
  deriving Inhabited

structure Player where
  name : String
  id : Uuid
  online : Bool := true
  location : Location
  mode : GameMode := .survival
  deriving Inhabited

structure World where
  name : String
  ground : Float

structure Platform where
  players : List Player := []
  worlds : List World := []
  /-- The sounds there are, in capital letters; with none given there is every sound. -/
  sounds : List String := []

namespace Platform

/-- The first player online of exactly this name. -/
def onlineNamed (name : String) (p : Platform) : Option Player :=
  p.players.find? fun q => q.online && q.name == name

def onlinePlayer (name : String) (p : Platform) : Option Uuid :=
  (p.onlineNamed name).map Player.id

def onlineNames (p : Platform) : List String :=
  (p.players.filter Player.online).map Player.name

theorem isSome_onlinePlayer_iff {name : String} {p : Platform} :
    (p.onlinePlayer name).isSome ↔ name ∈ p.onlineNames := by
  simp [onlinePlayer, onlineNamed, onlineNames, and_assoc]

/-- The first player of this name in any letter case, online or not. -/
def knownPlayer (name : String) (p : Platform) : Option Uuid :=
  (p.players.find? fun q => Text.sameIgnoringCase q.name name).map Player.id

/-- The first player of exactly this name, online or not. -/
def player (name : String) (p : Platform) : Option Player :=
  p.players.find? fun q => q.name == name

def location (name : String) (p : Platform) : Option Location :=
  (p.onlineNamed name).map Player.location

def gameMode (name : String) (p : Platform) : Option GameMode :=
  (p.onlineNamed name).map Player.mode

/-! ## Worlds and sounds -/

def ground (world : String) (p : Platform) : Option Float :=
  (p.worlds.find? fun w => w.name == world).map World.ground

def hasWorld (world : String) (p : Platform) : Bool :=
  (p.ground world).isSome

def worldNames (p : Platform) : List String :=
  p.worlds.map World.name

theorem hasWorld_iff {world : String} {p : Platform} :
    p.hasWorld world ↔ world ∈ p.worldNames := by
  simp [hasWorld, ground, worldNames]

def isSafe (l : Location) (p : Platform) : Bool :=
  (p.ground l.world).any fun g => (l.y - g).abs < 1

/-- The position on the ground below or above `l`. -/
def onGround (l : Location) (p : Platform) : Location :=
  { l with y := (p.ground l.world).getD l.y }

def sound? (name : String) (p : Platform) : Option String :=
  let name := name.toUpper
  if p.sounds.isEmpty || p.sounds.contains name then some name else none

/-! ## Changes -/

def addPlayer (q : Player) (p : Platform) : Platform :=
  { p with players := p.players ++ [q] }

def addWorld (w : World) (p : Platform) : Platform :=
  { p with worlds := p.worlds ++ [w] }

def addSound (name : String) (p : Platform) : Platform :=
  { p with sounds := p.sounds ++ [name.toUpper] }

/-- Changes the first player of exactly this name. -/
def updateFirst (name : String) (change : Player → Player) : List Player → List Player
  | [] => []
  | q :: qs => if q.name == name then change q :: qs else q :: updateFirst name change qs

def setOnline (name : String) (online : Bool) (p : Platform) : Platform :=
  { p with players := updateFirst name (fun q => { q with online }) p.players }

def teleport (name : String) (l : Location) (p : Platform) : Platform :=
  { p with players := updateFirst name (fun q => { q with location := l }) p.players }

end Platform

/-! ## Senders and effects -/

/-- Whoever gives a command. The console has no identifier and every permission. -/
structure Sender where
  name : String
  id : Option Uuid
  permissions : List String := []
  operator : Bool := false

namespace Sender

def console : Sender :=
  { name := "CONSOLE", id := none, operator := true }

def has (permission : String) (s : Sender) : Bool :=
  s.operator || s.permissions.contains permission

def isPlayer (s : Sender) : Bool :=
  s.id.isSome

end Sender

/-- What a host is asked to do, in the order in which it is asked. -/
inductive Effect where
  | message (recipient text : String)
  | console (line : String)
  | broadcast (text : String)
  | chat (player text : String)
  | sound (player sound : String)
  | title (player title subtitle : String)
  | actionBar (player text : String)
  | teleport (player : String) (place : Location)

/-- How long a title is shown, in ticks of the host. -/
structure TitleTimings where
  fadeIn : Nat := 10
  stay : Nat := 70
  fadeOut : Nat := 20

end CustomCommands
