import CustomCommands.Files.FileTree
import CustomCommands.Toml.Document

/-!
# Configuration

An operator's settings and the messages that players see. Every field has a
default, and a file that is missing is not an error.
-/

namespace CustomCommands

/-- Message templates; their colour codes are translated when they are sent. -/
structure Messages where
  cooldown : String := "&cYou are on cooldown for this command."
  insufficientFunds : String := "&cYou do not have enough money to use this command."
  ledgerUnavailable : String := "&cCommands with a cost are currently disabled."
  noPermission : String :=
    "&cI'm sorry, but you do not have permission to perform this command."
  playerOnly : String := "&cThis command action can only be run by a player."
  unknownCommand : String := "Unknown command. Type \"/help\" for help."
  reloaded : String := "&aCustom command specifications have been reloaded!"
  deriving DecidableEq, Repr

structure Config where
  commandsDir : String := "commands"
  usercache : String := "usercache.json"
  /-- How often due work is done, in milliseconds. -/
  tickInterval : Nat := 50
  adminPermission : String := "cmdforge.admin"
  messages : Messages := {}
  deriving DecidableEq, Repr

inductive ConfigError where
  | read (path : String) (e : FileError)
  | malformed (path : String)
  | tickInterval
  deriving DecidableEq, Repr

def ConfigError.message : ConfigError → String
  | read path e => "Failed to read configuration file: " ++ path ++ ": " ++ e.message
  | malformed path => "Failed to parse configuration file: " ++ path
  | tickInterval => "Invalid configuration value: tick_interval_ms must be positive"

open Markup (Node)
open Markup.Node (fieldOr)

def Messages.read (n : Node) : Option Messages := do
  let d : Messages := {}
  match ← n.record? false [["cooldown"], ["insufficient_funds"], ["ledger_unavailable"],
    ["no_permission"], ["player_only"], ["unknown_command"], ["reloaded"]] with
  | [cooldown, funds, ledger, permission, player, unknown, reloaded] =>
    some
      { cooldown := ← fieldOr d.cooldown Node.text? cooldown
        insufficientFunds := ← fieldOr d.insufficientFunds Node.text? funds
        ledgerUnavailable := ← fieldOr d.ledgerUnavailable Node.text? ledger
        noPermission := ← fieldOr d.noPermission Node.text? permission
        playerOnly := ← fieldOr d.playerOnly Node.text? player
        unknownCommand := ← fieldOr d.unknownCommand Node.text? unknown
        reloaded := ← fieldOr d.reloaded Node.text? reloaded }
  | _ => none

namespace Config

def readCount (n : Node) : Option Nat :=
  n.whole?.bind fun v => if 0 ≤ v then some v.toNat else none

def read (n : Node) : Option Config := do
  let d : Config := {}
  match ← n.record? false [["commands_dir"], ["usercache"], ["tick_interval_ms"],
    ["admin_permission"], ["messages"]] with
  | [dir, cache, tick, admin, messages] =>
    some
      { commandsDir := ← fieldOr d.commandsDir Node.text? dir
        usercache := ← fieldOr d.usercache Node.text? cache
        tickInterval := ← fieldOr d.tickInterval readCount tick
        adminPermission := ← fieldOr d.adminPermission Node.text? admin
        messages := ← fieldOr d.messages Messages.read messages }
  | _ => none

def loadFile (files : FileTree) (path : String) : Except ConfigError Config := do
  let text ← (files.readText path).mapError (.read path)
  match (Toml.readDocument text).bind read with
  | none => .error (.malformed path)
  | some c => if c.tickInterval = 0 then .error .tickInterval else .ok c

def loadOrDefault (files : FileTree) (path : String) : Except ConfigError Config :=
  if files.hasPath path then loadFile files path else .ok {}

/-- Takes relative paths as seen from `base`. -/
def rebase (base : String) (c : Config) : Config :=
  { c with commandsDir := Path.join base c.commandsDir, usercache := Path.join base c.usercache }

end Config

end CustomCommands
