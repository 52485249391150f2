import CustomCommands.Action
import CustomCommands.Bindings
import CustomCommands.Colour
import CustomCommands.Countdown
import CustomCommands.Decimal.Reader
import CustomCommands.Host.Notice
import CustomCommands.Host.Platform
import CustomCommands.Text.Blank

/-!
# Running actions

The entries of an action set run in order and independently of each other: one
that is not known, or whose payload does not fit, is skipped and told of. Only
teleports change the platform.
-/

namespace CustomCommands

structure RunSummary where
  executed : Nat := 0
  skipped : Nat := 0
  deriving DecidableEq, Repr

/-- What running something did: the platform after it, and what was asked and told. -/
structure Performance where
  platform : Platform
  effects : List Effect := []
  notices : List Notice := []

namespace Performance

def nothing (p : Platform) : Performance :=
  { platform := p }

def ask (e : Effect) (p : Platform) : Performance :=
  { platform := p, effects := [e] }

def tell (n : Notice) (p : Platform) : Performance :=
  { platform := p, notices := [n] }

end Performance

namespace Executor

/-! ## Lines -/

def runLine (p : Platform) (s : Sender) (kind : ActionKind) (line : String) : Performance :=
  let line := Colour.translate line
  match kind with
  | .console => .ask (.console line) p
  | .chat => .ask (.chat s.name line) p
  | .broadcast => .ask (.broadcast line) p
  | .message => .ask (.message s.name line) p
  | .sound =>
    match p.sound? line with
    | some sound => .ask (.sound s.name sound) p
    | none => .tell .unknownSound p
  | _ => .nothing p

/-- The lines in turn; who is no player gets a message instead of those that need one. -/
def runLines (playerOnly : String) (p : Platform) (s : Sender) (kind : ActionKind)
    (lines : List String) : Performance :=
  if kind.playerOnly && !s.isPlayer then
    .ask (.message s.name (Colour.translate playerOnly)) p
  else
    { platform := p
      effects := lines.flatMap fun l => (runLine p s kind l).effects
      notices := lines.flatMap fun l => (runLine p s kind l).notices }

/-! ## Teleports -/

def moveTo (p : Platform) (who : String) (l : Location) : Performance :=
  { platform := p.teleport who l, effects := [.teleport who l] }

/-- Where a player comes to stand who is sent to `l`. -/
def landing (p : Platform) (who : String) (l : Location) : Location :=
  if (p.gameMode who).any GameMode.ignoresTerrain || p.isSafe l then l else p.onGround l

/-- A coordinate, with blanks around it. -/
def coordinate? (s : String) : Option Float :=
  Decimal.readFloat (Text.trim s.toList)

def teleportTo (p : Platform) (who world x y z : String) : Performance :=
  match coordinate? x, coordinate? y, coordinate? z with
  | some x, some y, some z =>
    if p.hasWorld world then moveTo p who (landing p who { world, x, y, z })
    else .tell .teleportWorld p
  | _, _, _ => .tell .teleportCoordinates p

/-- Sends a player to another player, or to coordinates in a world, by default the player's own.
Missing coordinates are passed over in silence. -/
def teleport (p : Platform) (data : Value) : Performance :=
  match data.getText? "who" with
  | none => .tell .teleportWithoutTarget p
  | some who =>
    if (p.onlinePlayer who).isNone then .tell .teleportTargetMissing p
    else
      match data.getText? "toPlayer" with
      | some other =>
        match p.location other with
        | some l => moveTo p who l
        | none => .tell .teleportDestinationMissing p
      | none =>
        match (data.getText? "world").or ((p.location who).map Location.world),
          data.getText? "x", data.getText? "y", data.getText? "z" with
        | some world, some x, some y, some z => teleportTo p who world x y z
        | _, _, _, _ => .nothing p

/-! ## Entries -/

/-- What is told of a payload that does not fit. -/
def misfit : ActionKind → Notice
  | .teleport => .teleportMappingExpected
  | .bigText => .titleMappingExpected
  | .smallText => .barTextExpected
  | _ => .linesExpected

def showPlayer (p : Platform) (s : Sender) (e : Effect) : Performance :=
  if s.isPlayer then .ask e p else .nothing p

/-- Runs one action whose payload fits. -/
def perform (playerOnly : String) (p : Platform) (s : Sender) (kind : ActionKind)
    (payload : Value) : Performance :=
  match kind with
  | .teleport => teleport p payload
  | .bigText =>
    let text (key : String) : String := Colour.translate ((payload.getText? key).getD "")
    showPlayer p s (.title s.name (text "title") (text "subtitle"))
  | .smallText => showPlayer p s (.actionBar s.name (Colour.translate (payload.text?.getD "")))
  | kind => runLines playerOnly p s kind (payload.lines?.getD [])

def runEntry (playerOnly : String) (p : Platform) (s : Sender) (b : Bindings)
    (entry : String × Value) : Bool × Performance :=
  match ActionKind.ofName? entry.1 with
  | none => (false, .tell .unknownAction p)
  | some kind =>
    let payload := b.substitute entry.2
    if kind.accepts payload then (true, perform playerOnly p s kind payload)
    else (false, .tell (misfit kind) p)

/-- Runs the entries in order, each on the platform that the one before it left. -/
def run (playerOnly : String) (p : Platform) (s : Sender) (b : Bindings) :
    ActionSet → RunSummary × Performance
  | [] => ({}, .nothing p)
  | entry :: entries =>
    let (done, first) := runEntry playerOnly p s b entry
    let (summary, rest) := run playerOnly first.platform s b entries
    ({ executed := summary.executed + (if done then 1 else 0)
       skipped := summary.skipped + (if done then 0 else 1) },
     { platform := rest.platform
       effects := first.effects ++ rest.effects
       notices := first.notices ++ rest.notices })

end Executor

/-! ## Countdowns -/

/-- A countdown under way, with all that it needs to finish on its own. -/
structure Phased where
  sender : Sender
  delay : Delay
  main : Option ActionSet
  bindings : Bindings
  countdown : Countdown

namespace Phased

def start (s : Sender) (delay : Delay) (main : Option ActionSet) (b : Bindings) : Phased :=
  { sender := s, delay, main, bindings := b, countdown := .pending delay.seconds }

/-- One second of the countdown: is there more to come, what is left, and what was done. -/
def tick (playerOnly : String) (p : Platform) (x : Phased) : Bool × Phased × Performance :=
  let (step, countdown) := x.countdown.advance
  let next := { x with countdown }
  match step with
  | .perSecond left =>
    let b := x.bindings.insert Bindings.secondsKey (toString left)
    let actions := x.delay.perSecond.getD []
    (true, next, (Executor.run playerOnly p x.sender b actions).2)
  | .finish =>
    (false, next, (Executor.run playerOnly p x.sender x.bindings (x.main.getD [])).2)
  | .idle => (false, next, .nothing p)

end Phased

end CustomCommands
