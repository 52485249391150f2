import CustomCommands.Yaml.Tree

/-!
# Anchors and aliases

Numbers the anchors of a document in the order in which their nodes start. An
anchor's number is how many different names came before it, so a name that is
used twice and the next new name share a number; an alias means the last node
of its number.
-/

namespace CustomCommands.Yaml

/-- The nodes that have a number, in the order in which they start. -/
abbrev Anchored := List (Nat × Tree Nat)

namespace Tree

/-- The anchor's number, and the names with it. -/
def anchorNumber (p : Properties) (names : List (String × Nat)) :
    Option Nat × List (String × Nat) :=
  match p.anchor with
  | none => (none, names)
  | some a => (some names.length, Assoc.insert a names.length names)

def listed (id : Option Nat) (n : Tree Nat) (inner : Anchored) : Anchored :=
  match id with
  | none => inner
  | some i => (i, n) :: inner

mutual

/-- Numbers the anchors and aliases of a node. An alias whose name is not known is an error. -/
def number (names : List (String × Nat)) :
    Tree String → Option (Tree Nat × Anchored × List (String × Nat))
  | .reference name => (Assoc.get? name names).map fun i => (.reference i, [], names)
  | .scalar p text plain =>
    let (id, names) := anchorNumber p names
    let n : Tree Nat := .scalar p text plain
    some (n, listed id n [], names)
  | .list p items =>
    let (id, names) := anchorNumber p names
    (numberItems names items).map fun (items, inner, names) =>
      (.list p items, listed id (.list p items) inner, names)
  | .map p entries =>
    let (id, names) := anchorNumber p names
    (numberEntries names entries).map fun (entries, inner, names) =>
      (.map p entries, listed id (.map p entries) inner, names)

def numberItems (names : List (String × Nat)) :
    List (Tree String) → Option (List (Tree Nat) × Anchored × List (String × Nat))
  | [] => some ([], [], names)
  | n :: ns => do
    let (n, a, names) ← number names n
    let (ns, b, names) ← numberItems names ns
    some (n :: ns, a ++ b, names)

def numberEntries (names : List (String × Nat)) :
    List (Tree String × Tree String) →
      Option (List (Tree Nat × Tree Nat) × Anchored × List (String × Nat))
  | [] => some ([], [], names)
  | (k, v) :: es => do
    let (k, a, names) ← number names k
    let (v, b, names) ← number names v
    let (es, c, names) ← numberEntries names es
    some ((k, v) :: es, a ++ b ++ c, names)

end

mutual

/-- How many marks the node takes: one for a scalar or an alias, two around a collection. -/
def marks {α : Type} : Tree α → Nat
  | .reference _ => 1
  | .scalar _ _ _ => 1
  | .list _ items => marksItems items + 2
  | .map _ entries => marksEntries entries + 2

def marksItems {α : Type} : List (Tree α) → Nat
  | [] => 0
  | n :: ns => n.marks + marksItems ns

def marksEntries {α : Type} : List (Tree α × Tree α) → Nat
  | [] => 0
  | (k, v) :: es => k.marks + v.marks + marksEntries es

end

def target? (anchored : Anchored) (i : Nat) : Option (Tree Nat) :=
  (anchored.reverse.find? fun (j, _) => j == i).map Prod.snd

end Tree

end CustomCommands.Yaml
