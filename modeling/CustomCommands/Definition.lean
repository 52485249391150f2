import CustomCommands.Action
import CustomCommands.Markup.Node

/-!
# Definitions

A command as its unit describes it: what holds for the command as a whole, and
a tree of arguments with a permission, a type and actions at every node. Fields
that nobody knows are passed over; a field given twice is an error.
-/

namespace CustomCommands

/-- What a unit says of one node of the tree. -/
structure Traits where
  permission : Option String := none
  permissionMessage : Option String := none
  /-- The type of the input that a placeholder takes, as written. -/
  declaredType : Option String := none
  /-- What is said of input that is not of the type. -/
  typeError : Option String := none
  actions : Option ActionSet := none
  delay : Option Delay := none

/-- Drops actions and a delay that say nothing. -/
def Traits.normal (t : Traits) : Traits :=
  { t with
    actions := t.actions.filter fun a => !a.isEmpty
    delay := t.delay.filter fun d => !d.isEmpty }

inductive Definition where
  | mk (traits : Traits) (arguments : List (String × Definition))

namespace Definition

def traits : Definition → Traits
  | mk t _ => t

def arguments : Definition → List (String × Definition)
  | mk _ as => as

end Definition

structure CommandDefinition where
  root : Definition
  usage : Option String := none
  aliases : List String := []
  cost : Float := 0
  cooldown : Option String := none

/-! ## Reading -/

open Markup (Node)
open Markup.Node (fieldOr)

/-- An optional text, which may be written as any scalar. -/
def readOptionalText (n : Node) : Option (Option String) :=
  n.optional? fun n => n.value?.bind Value.text?

def readActions (n : Node) : Option ActionSet :=
  n.dictionary? Node.value?

def delayFields : List Markup.Node.Field :=
  [["length"], ["per_second-actions", "per_second_actions"]]

def readDelay (n : Node) : Option Delay := do
  match ← n.record? false delayFields with
  | [length, perSecond] =>
    let length ← fieldOr none readOptionalText length
    let perSecond ← fieldOr none (Node.optional? readActions) perSecond
    some { length, perSecond }
  | _ => none

/-- The traits of a node; the root has no type. -/
def readTraits (permission permissionMessage declaredType typeError actions delay : Option Node) :
    Option Traits := do
  let permission ← fieldOr none readOptionalText permission
  let permissionMessage ← fieldOr none readOptionalText permissionMessage
  let declaredType ← fieldOr none readOptionalText declaredType
  let typeError ← fieldOr none readOptionalText typeError
  let actions ← fieldOr none (Node.optional? readActions) actions
  let delay ← fieldOr none (Node.optional? readDelay) delay
  some { permission, permissionMessage, declaredType, typeError, actions, delay }

def Definition.fields : List Markup.Node.Field :=
  [["permission"], ["permission-message"], ["type"], ["type-error"], ["actions"], ["delay"],
    ["arguments"]]

/-- A node with the nodes below it; the fuel is the document's height. -/
def Definition.read : Nat → Node → Option Definition
  | 0, _ => none
  | fuel + 1, n => do
    match ← n.record? false Definition.fields with
    | [permission, message, type, typeError, actions, delay, arguments] =>
      let traits ← readTraits permission message type typeError actions delay
      let arguments ← fieldOr [] (Node.dictionary? (Definition.read fuel)) arguments
      some (.mk traits arguments)
    | _ => none

def CommandDefinition.fields : List Markup.Node.Field :=
  [["permission"], ["permission-message"], ["usage-message"], ["aliases"], ["cost"], ["cooldown"],
    ["actions"], ["delay"], ["arguments"]]

def CommandDefinition.read (n : Node) : Option CommandDefinition := do
  match ← n.record? false CommandDefinition.fields with
  | [permission, message, usage, aliases, cost, cooldown, actions, delay, arguments] =>
    let traits ← readTraits permission message none none actions delay
    let usage ← fieldOr none readOptionalText usage
    let aliases ← fieldOr [] (Node.list? Node.text?) aliases
    let cost ← fieldOr 0 Node.number? cost
    let cooldown ← fieldOr none readOptionalText cooldown
    let arguments ← fieldOr [] (Node.dictionary? (Definition.read n.height)) arguments
    some { root := .mk traits arguments, usage, aliases, cost, cooldown }
  | _ => none

/-! ## What is looked at -/

def isField (fields : List Markup.Node.Field) (key : String) : Bool :=
  fields.any fun f => f.contains key

def delayScope : Markup.Scope
  | [] => true
  | key :: _ => isField delayFields key

/-- Where a node's reader looks; each argument is a node again. -/
def Definition.scope : Markup.Scope
  | "arguments" :: _ :: path => Definition.scope path
  | "delay" :: path => delayScope path
  | key :: _ => isField Definition.fields key
  | [] => true

def CommandDefinition.scope : Markup.Scope
  | "arguments" :: _ :: path => Definition.scope path
  | "delay" :: path => delayScope path
  | key :: _ => isField CommandDefinition.fields key
  | [] => true

end CustomCommands
