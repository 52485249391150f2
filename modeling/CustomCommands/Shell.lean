import CustomCommands.Admin
import CustomCommands.Decimal.Shortest
import CustomCommands.Pump
import CustomCommands.ShellLine
import CustomCommands.Simulation
import CustomCommands.Terminal

/-!
# The shell

A session on a simulated host, line by line. Effects are kept until they are
shown, after the answer to each line, and a pump does what falls due while time
passes.
-/

namespace CustomCommands

def Effect.line (coloured : Bool) (e : Effect) : String :=
  let show_ := Terminal.render coloured
  match e with
  | .message recipient text => "[" ++ recipient ++ "] " ++ show_ text
  | .console text => "[console] /" ++ show_ text
  | .broadcast text => "[broadcast] " ++ show_ text
  | .chat player text => "<" ++ player ++ "> " ++ show_ text
  | .sound player name => "[sound -> " ++ player ++ "] " ++ name
  | .title player large small =>
    "[title -> " ++ player ++ "] " ++ show_ large ++ " / " ++ show_ small
  | .actionBar player text => "[action bar -> " ++ player ++ "] " ++ show_ text
  | .teleport player place =>
    "[teleport] " ++ player ++ " -> " ++ place.world ++ " ("
      ++ ", ".intercalate ([place.x, place.y, place.z].map (Decimal.fixed 1)) ++ ")"

structure Shell where
  dispatcher : Dispatcher Float
  simulation : Simulation
  adminPermission : String
  coloured : Bool := false
  pump : Pump
  /-- Effects that have not been shown. -/
  effects : List Effect := []
  /-- Notices that have not been logged. -/
  notices : List Notice := []

namespace Shell

inductive Next where
  | go
  | wait (milliseconds : Nat)
  | quit
  deriving DecidableEq, Repr

structure Reply where
  lines : List String := []
  next : Next := .go
  session : Shell

def adminLabel : String := "cmdforge"

def paint (s : Style) (text : String) (x : Shell) : String :=
  s.paint x.coloured text

def take {α : Type} (a : Act Float α) (x : Shell) : Shell :=
  { x with
    dispatcher := a.after
    effects := x.effects ++ a.effects
    notices := x.notices ++ a.notices }

def elapse (milliseconds : Nat) (x : Shell) : Shell :=
  let (rounds, pump) := x.pump.elapse milliseconds
  rounds.foldl (fun x now => x.take (x.dispatcher.pump now)) { x with pump }

def sender (who : String) (x : Shell) : Except ShellError Sender :=
  match x.simulation.sender? who with
  | some s => .ok s
  | none => .error (.unknownPlayer who)

/-! ## Lines -/

def invocationLine (x : Shell) (i : Invocation) : String :=
  x.paint .faint <|
    match i with
    | .completed command summary =>
      "(/" ++ command ++ ": " ++ toString summary.executed ++ " action(s) run)"
    | .scheduled command seconds =>
      "(/" ++ command ++ ": " ++ toString seconds ++ "s countdown started)"

/-- Calls a label as the host would: the administrative command first, then what is registered. -/
def invoke (who label : String) (args : List String) (x : Shell) : Except ShellError Reply := do
  let s ← x.sender who
  if Text.sameIgnoringCase label adminLabel then
    .ok { session := x.take (Admin.handle .standard x.adminPermission s label args x.dispatcher) }
  else if (x.dispatcher.registrar.bind fun r => r.handle? label).isNone then
    let text := Colour.translate x.dispatcher.messages.unknownCommand
    .ok { session := { x with effects := x.effects ++ [.message s.name text] } }
  else
    let a := x.dispatcher.execute x.pump.now s label args
    .ok { session := x.take a, lines := a.value.toList.map x.invocationLine }

def complete (who label : String) (args : List String) (x : Shell) : Except ShellError Reply := do
  let s ← x.sender who
  let found : Noted (List String) :=
    if Text.sameIgnoringCase label adminLabel then
      pure (Admin.complete x.adminPermission s args)
    else x.dispatcher.complete s label args
  let line :=
    if found.value.isEmpty then x.paint .faint "(no suggestions)"
    else x.paint .cyan "tab:" ++ " " ++ ", ".intercalate found.value
  .ok { session := { x with notices := x.notices ++ found.notices }, lines := [line] }

def balance (who : String) (x : Shell) : Except ShellError Reply :=
  match x.dispatcher.ledger with
  | none => .error .economyDisabled
  | some l =>
    match x.simulation.balanceIn l.accounts? who with
    | none => .error (.unknownPlayer who)
    | some b =>
      .ok
        { session := x
          lines := [x.paint .cyan "balance" ++ " " ++ who ++ ": " ++ Decimal.fixed 2 b] }

/-- Seconds in milliseconds, rounded up. -/
def milliseconds (seconds : Float) : Nat :=
  (Decimal.exactValue seconds * 1000).ceil.toNat

def answer (line : String) (x : Shell) : Except ShellError Reply := do
  match ← ShellLine.read line with
  | .invoke who label args => x.invoke who label args
  | .complete who label args => x.complete who label args
  | .balance who => x.balance who
  | .wait seconds => .ok { session := x, next := .wait (milliseconds seconds) }
  | .quit => .ok { session := x, next := .quit }
  | .nothing => .ok { session := x }

def cross (coloured : Bool) : String :=
  Style.red.paint coloured "✗"

/-- Answers a line; an error is an answer too. -/
def handle (line : String) (x : Shell) : Reply :=
  match x.answer line with
  | .ok r => r
  | .error e => { session := x, lines := [cross x.coloured ++ " " ++ e.message] }

def flush (x : Shell) : List String × Shell :=
  (x.effects.map (Effect.line x.coloured), { x with effects := [], notices := [] })

/-- Answers lines until one ends the session: all that is shown, and what is logged. -/
def run (x : Shell) : List String → List String × List Notice
  | [] => (x.flush.1, x.notices)
  | line :: lines =>
    let r := x.handle line
    let session :=
      match r.next with
      | .wait ms => r.session.elapse ms
      | _ => r.session
    let (shown, rest) := session.flush
    let (later, notices) := if r.next = .quit then ([], []) else rest.run lines
    (r.lines ++ shown ++ later, session.notices ++ notices)

end Shell

end CustomCommands
