import CustomCommands.Toml.Scalar

/-!
# TOML tables

Tables while a document is read. A table that only a longer key has named may
be opened once more by a header of its own, and one that dotted keys have made
takes further dotted keys, but no other table is ever opened again.
-/

namespace CustomCommands.Toml

open Markup

mutual

inductive Item where
  | value (n : Node)
  | table (t : Table)
  | tables (ts : List Table)

inductive Table where
  /-- `implicit` tables are named by a longer key only, `dotted` ones by a key before an equals
  sign. -/
  | mk (implicit dotted : Bool) (entries : List (String × Item))

end

namespace Table

def implicit : Table → Bool
  | mk i _ _ => i

def dotted : Table → Bool
  | mk _ d _ => d

def entries : Table → List (String × Item)
  | mk _ _ es => es

def get? (key : String) (t : Table) : Option Item :=
  Assoc.get? key t.entries

def put (key : String) (item : Item) : Table → Table
  | mk i d es => mk i d (Assoc.insert key item es)

def remove (key : String) : Table → Table
  | mk i d es => mk i d (Assoc.erase key es)

/-- A table opened by a header, or a whole document. -/
def fresh : Table := mk false false []

/-- Changes the table under `path`, making the tables on the way. Below an array of tables the way
goes through its last one. A `dotted` way may not enter a table that a header has opened. -/
def modify (dotted : Bool) (change : Table → Option Table) : List String → Table → Option Table
  | [], t => change t
  | key :: path, t =>
    match t.get? key with
    | none => (modify dotted change path (mk true dotted [])).map fun s => t.put key (.table s)
    | some (.value _) => none
    | some (.table s) =>
      if dotted && !s.implicit then none
      else (modify dotted change path s).map fun s => t.put key (.table s)
    | some (.tables ts) =>
      ts.getLast?.bind fun s =>
        (modify dotted change path s).map fun s => t.put key (.tables (ts.dropLast ++ [s]))

def find? : List String → Table → Option Table
  | [], t => some t
  | key :: path, t =>
    match t.get? key with
    | some (.table s) => find? path s
    | some (.tables ts) => ts.getLast?.bind (find? path)
    | _ => none

def define (path : List String) (key : String) (n : Node) (t : Table) : Option Table :=
  t.modify true (fun s =>
    if s.dotted == path.isEmpty || (s.get? key).isSome then none else some (s.put key (.value n)))
    path

end Table

mutual

def Item.node : Item → Node
  | .value n => n
  | .table t => t.node
  | .tables ts => .list .atLeast false (Table.nodes ts)

def Table.node : Table → Node
  | .mk _ _ es => .map false (Item.entryNodes es)

def Table.nodes : List Table → List Node
  | [] => []
  | t :: ts => t.node :: Table.nodes ts

def Item.entryNodes : List (String × Item) → List (Node × Node)
  | [] => []
  | (key, item) :: es => (ofText key, item.node) :: Item.entryNodes es

end

/-! ## Headers -/

/-- A document as far as it has been read: the table that is open, the header that opened it, and
all that was closed before it. -/
structure Builder where
  root : Table := .fresh
  path : List String := []
  inArray : Bool := false
  current : Table := .fresh

namespace Builder

/-- Puts the open table where its header says. -/
def close (b : Builder) : Option Table :=
  match b.path.getLast? with
  | none => some b.current
  | some key =>
    b.root.modify false (fun parent =>
      if b.inArray then
        match parent.get? key with
        | none => some (parent.put key (.tables [b.current]))
        | some (.tables ts) => some (parent.put key (.tables (ts ++ [b.current])))
        | some _ => none
      else some (parent.put key (.table b.current)))
      b.path.dropLast

/-- Follows a header of one table. A table that is there already has to be implicit, and moves
behind those that are closed. -/
def openTable (path : List String) (b : Builder) : Option Builder := do
  let key ← path.getLast?
  let root ← (← b.close).modify false some path.dropLast
  let parent ← root.find? path.dropLast
  match parent.get? key with
  | none => some { root, path }
  | some (.table t) =>
    if t.implicit && !t.dotted then do
      let root ← root.modify false (fun parent => some (parent.remove key)) path.dropLast
      some { root, path, current := .mk false false t.entries }
    else none
  | some _ => none

/-- Follows a header of one more table in an array. -/
def openInArray (path : List String) (b : Builder) : Option Builder := do
  let key ← path.getLast?
  let root ← (← b.close).modify false (fun parent =>
    match parent.get? key with
    | none => some (parent.put key (.tables []))
    | some (.tables _) => some parent
    | some _ => none) path.dropLast
  some { root, path, inArray := true }

def define (path : List String) (key : String) (n : Node) (b : Builder) : Option Builder :=
  (b.current.define path key n).map fun t => { b with current := t }

end Builder

end CustomCommands.Toml
