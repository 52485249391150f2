import CustomCommands.Yaml.Anchor
import CustomCommands.Yaml.Layout
import CustomCommands.Yaml.Scalar

/-!
# YAML documents

Reads a YAML text into a document tree, with a copy of its node in place of each
alias. Collections more than 128 levels deep are refused where they are read,
which ends a node that holds an alias of itself; so are aliases once there have
been a hundred for each mark of the text. What a reader does not look at is
passed over as it stands, with its aliases.
-/

namespace CustomCommands.Yaml

open Markup

def maxDepth : Nat := 128

/-- Replaces an alias by its node, as long as `left` allows. -/
def follow (anchored : Anchored) (n : Tree Nat) : StateM Nat (Option (Tree Nat)) := do
  match n with
  | .reference i =>
    let left ← get
    set (left - 1)
    pure (if left == 0 then none else Tree.target? anchored i)
  | n => pure (some n)

def isNamed (p : Properties) : Bool :=
  p.tag.any fun t => t.startsWith "!"

/-- The text of a key, which decides whether the entry is looked at. -/
def isLookedAt (scope : Scope) (key : Node) : Bool :=
  key.text?.all fun key => scope.below key []

/-- The document tree of a node, `depth` more levels deep at most. Keys are looked at as a whole. -/
def expand (anchored : Anchored) : Nat → Scope → Tree Nat → StateM Nat Node
  | depth, scope, n => do
    match ← follow anchored n with
    | none => pure .refused
    | some (.reference _) => pure .refused
    | some (.scalar p text plain) => pure (ofScalar p.tag text plain)
    | some (.list p items) =>
      match depth with
      | 0 => pure .refused
      | depth + 1 =>
        let items ← items.mapM (expand anchored depth scope)
        pure (.list .never (isNamed p) items)
    | some (.map p entries) =>
      match depth with
      | 0 => pure .refused
      | depth + 1 =>
        let entries ← entries.mapM fun (k, v) => do
          let k ← expand anchored depth .everything k
          if isLookedAt scope k then
            let v ← expand anchored depth (scope.below ((k.text?).getD "")) v
            pure (k, v)
          else pure (k, .refused)
        pure (.map (isNamed p) entries)

def readDocument (scope : Scope) (text : String) : Option Node := do
  let tokens ← tokens? text
  match ← Tree.ofTokens? tokens with
  | none => some nothing
  | some tree =>
    let (n, anchored, _) ← tree.number []
    some (StateT.run (expand anchored maxDepth scope n) (100 * n.marks)).1

end CustomCommands.Yaml
