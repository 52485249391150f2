import CustomCommands.Argument

/-!
# Numbered arguments

The nodes of a tree in one list, each after its parent and after all that stands
before it. A node's number is its place in the list, and a row names its
children by their numbers. `Arena.tree?` reads the tree back.
-/

namespace CustomCommands

structure Arena.Row where
  name : String
  traits : Traits
  children : List (String × Nat)

abbrev Arena := List Arena.Row

namespace Argument

/-- The numbers of nodes that stand side by side, the first of them `first`. -/
def numbered (first : Nat) : List Argument → List (Nat × Argument)
  | [] => []
  | a :: as => (first, a) :: numbered (first + a.size) as

theorem map_snd_numbered (first : Nat) (as : List Argument) :
    (numbered first as).map Prod.snd = as := by
  induction as generalizing first with
  | nil => rfl
  | cons a as ih => rw [numbered, List.map_cons, ih]

mutual

/-- The rows of the tree whose root has the number `id`. -/
def rowsFrom (id : Nat) : Argument → Arena
  | mk n t cs =>
    { name := n, traits := t, children := (numbered (id + 1) cs).map fun (i, a) => (a.name, i) }
      :: rowsOf (id + 1) cs

def rowsOf (first : Nat) : List Argument → Arena
  | [] => []
  | a :: as => rowsFrom first a ++ rowsOf (first + a.size) as

end

def arena (a : Argument) : Arena :=
  a.rowsFrom 0

end Argument

namespace Arena

/-- The tree below a number; the fuel bounds its height. -/
def treeFrom? (rows : Arena) : Nat → Nat → Option Argument
  | 0, _ => none
  | fuel + 1, id => do
    let row ← rows[id]?
    let children ← row.children.mapM fun (_, child) => treeFrom? rows fuel child
    some (.mk row.name row.traits children)

def tree? (rows : Arena) : Option Argument :=
  rows.treeFrom? rows.length 0

end Arena

end CustomCommands
