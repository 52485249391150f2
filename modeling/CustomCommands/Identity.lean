import CustomCommands.Files.FileTree
import CustomCommands.Host.Notice
import CustomCommands.Host.Platform
import CustomCommands.Json.Document

/-!
# Identities

Who a name belongs to: the player online, or else a player the host has known,
or else an entry of the roster, which is read anew for every name that comes
this far.
-/

namespace CustomCommands

/-- What is found at the roster's place. -/
inductive RosterFile where
  | missing
  | unreadable
  | content (text : String)

def FileTree.roster (path : String) (t : FileTree) : RosterFile :=
  if !t.hasPath path then .missing
  else
    match t.readText path with
    | .ok text => .content text
    | .error _ => .unreadable

structure RosterEntry where
  name : String
  uuid : String

namespace RosterEntry

open Markup (Node)

/-- An entry is an object or a list of its fields, of which the last may be missing. -/
def read (n : Node) : Option RosterEntry := do
  match ← n.record? false [["name"], ["uuid"], ["expiresOn"]] with
  | [some name, some uuid, expires] =>
    let name ← name.text?
    let uuid ← uuid.text?
    let _ ← Node.fieldOr none (Node.optional? Node.text?) expires
    some { name, uuid }
  | _ => none

def readAll (text : String) : Option (List RosterEntry) :=
  (Json.readDocument text).bind (Node.list? read)

end RosterEntry

/-- Where names are looked up: the host's players, and a roster if there is one. -/
structure Identity where
  platform : Platform
  roster : Option RosterFile := none

namespace Identity

def searchEntries (name : String) (entries : List RosterEntry) : Noted (Option Uuid) :=
  match entries.find? fun e => Text.sameIgnoringCase e.name name with
  | none => pure none
  | some e =>
    match Uuid.ofText? e.uuid with
    | some id => pure (some id)
    | none => .tell .rosterIdentifier none

def searchRoster (name : String) : RosterFile → Noted (Option Uuid)
  | .missing => pure none
  | .unreadable => .tell .rosterUnreadable none
  | .content text =>
    match RosterEntry.readAll text with
    | none => .tell .rosterMalformed none
    | some entries => searchEntries name entries

def resolve (name : String) (i : Identity) : Noted (Option Uuid) :=
  match (i.platform.onlinePlayer name).or (i.platform.knownPlayer name) with
  | some id => pure (some id)
  | none =>
    match i.roster with
    | none => pure none
    | some file => searchRoster name file

end Identity

end CustomCommands
