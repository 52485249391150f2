import CustomCommands.ArgumentType
import CustomCommands.Definition

/-!
# Argument trees

The tree that typed words are matched against. Its root is the command itself.
What a node matches shows in its name: a name in brackets is a placeholder for
input, one in braces matches in any letter case, and any other name matches
itself.
-/

namespace CustomCommands

inductive ArgumentKind where
  | literal
  /-- A name in braces, without them. -/
  | static (inner : String)
  /-- A name in brackets, without them. -/
  | dynamic (inner : String)
  deriving DecidableEq, Repr

/-- What stands between the two characters, if the name starts and ends with them. -/
def between? (first last : Char) (name : String) : Option String :=
  match name.toList with
  | c :: cs => if c = first && cs.getLast? = some last then some (String.ofList cs.dropLast) else none
  | [] => none

def ArgumentKind.ofName (name : String) : ArgumentKind :=
  match between? '[' ']' name with
  | some inner => .dynamic inner
  | none =>
    match between? '\x7b' '\x7d' name with
    | some inner => .static inner
    | none => .literal

def ArgumentKind.isDynamic : ArgumentKind → Bool
  | .dynamic _ => true
  | _ => false

inductive Argument where
  | mk (name : String) (traits : Traits) (children : List Argument)

namespace Argument

def name : Argument → String
  | mk n _ _ => n

def traits : Argument → Traits
  | mk _ t _ => t

def children : Argument → List Argument
  | mk _ _ cs => cs

def kind (a : Argument) : ArgumentKind :=
  .ofName a.name

def isDynamic (a : Argument) : Bool :=
  a.kind.isDynamic

def type (a : Argument) : ArgumentType :=
  .ofDeclared a.traits.declaredType

/-- Does anything happen when the path ends here? -/
def isExecutable (a : Argument) : Bool :=
  a.traits.actions.isSome || a.traits.delay.isSome

theorem isExecutable_iff {a : Argument} :
    a.isExecutable = true ↔ (a.traits.actions.isSome ∨ a.traits.delay.isSome) := by
  rw [isExecutable, Bool.or_eq_true]

mutual

/-- The tree of a definition, under the name of its root. -/
def ofDefinition (name : String) : Definition → Argument
  | .mk traits arguments => mk name traits.normal (ofArguments arguments)

def ofArguments : List (String × Definition) → List Argument
  | [] => []
  | (name, d) :: ds => ofDefinition name d :: ofArguments ds

end

mutual

def size : Argument → Nat
  | mk _ _ cs => sizes cs + 1

def sizes : List Argument → Nat
  | [] => 0
  | a :: as => a.size + sizes as

end

/-! ## Outline -/

/-- The node on one line, without its indentation. -/
def line (a : Argument) : String :=
  a.name
    ++ (if a.isDynamic then " <" ++ a.type.name ++ ">" else "")
    ++ ((a.traits.permission.map fun p => " (permission: " ++ p ++ ")").getD "")
    ++ ((a.traits.actions.map fun as => " actions: " ++ ", ".intercalate (as.map Prod.fst)).getD "")
    ++ ((a.traits.delay.map fun d => " delay: " ++ toString d.seconds ++ "s").getD "")

def indentation (depth : Nat) : String :=
  String.ofList (List.replicate (2 * depth) ' ')

mutual

def outlineAt (depth : Nat) : Argument → List String
  | mk n t cs => (indentation depth ++ (mk n t cs).line) :: outlinesAt (depth + 1) cs

def outlinesAt (depth : Nat) : List Argument → List String
  | [] => []
  | a :: as => outlineAt depth a ++ outlinesAt depth as

end

def outline (a : Argument) : List String :=
  a.outlineAt 0

end Argument

end CustomCommands
