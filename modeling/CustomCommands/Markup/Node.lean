import CustomCommands.Value

/-!
# Document trees

What a configuration document says, whatever its notation. A leaf records how
it reads for each thing that may be asked of it, because the notations differ
in that: a bare `5` is a text field's value in one and an error in another.
Anything that cannot be read is `none`, and `refused` cannot be read at all;
both are harmless where nobody looks.
-/

namespace CustomCommands.Markup

structure Leaf where
  /-- As a text field. -/
  text : Option String := none
  /-- As a free value, where numbers and truth values become their texts. -/
  value : Option String := none
  /-- As a field for a decimal number. -/
  number : Option Float := none
  /-- As a field for a whole number. -/
  whole : Option Int := none
  flag : Option Bool := none
  /-- Does it say that an optional field is absent? -/
  absent : Option Bool := some false
  /-- May it stand for an empty list or an empty record? -/
  blank : Bool := false

/-- What a list may say where a record is wanted. -/
inductive Positional where
  /-- A list is no record. -/
  | never
  /-- Its items are the record's fields in order, and more items are passed over. -/
  | atLeast
  /-- Its items are the record's fields in order, and there are no more. -/
  | exactly
  deriving DecidableEq, Repr

inductive Node where
  | refused
  | leaf (l : Leaf)
  | list (positional : Positional) (named : Bool) (items : List Node)
  | map (named : Bool) (entries : List (Node × Node))
  deriving Inhabited

/-- The paths of keys at which a reader looks, from the root on. What it does not look at need not be
read. -/
abbrev Scope := List String → Bool

namespace Scope

def everything : Scope := fun _ => true

def below (key : String) (s : Scope) : Scope := fun path => s (key :: path)

end Scope

namespace Node

mutual

def height : Node → Nat
  | refused => 1
  | leaf _ => 1
  | list _ _ items => heightItems items + 1
  | map _ entries => heightEntries entries + 1

def heightItems : List Node → Nat
  | [] => 0
  | n :: ns => max n.height (heightItems ns)

def heightEntries : List (Node × Node) → Nat
  | [] => 0
  | (k, n) :: es => max (max k.height n.height) (heightEntries es)

end

/-! ## Reading -/

def leaf? : Node → Option Leaf
  | leaf l => some l
  | _ => none

def text? (n : Node) : Option String :=
  n.leaf?.bind Leaf.text

def number? (n : Node) : Option Float :=
  n.leaf?.bind Leaf.number

def whole? (n : Node) : Option Int :=
  n.leaf?.bind Leaf.whole

def flag? (n : Node) : Option Bool :=
  n.leaf?.bind Leaf.flag

mutual

/-- The node as a free value. A list or mapping with a name of its own is none. -/
def value? : Node → Option Value
  | refused => none
  | leaf l => l.value.map .text
  | list _ named items => if named then none else (valueItems? items).map .list
  | map named entries =>
    if named then none else (valueEntries? entries).map fun es => .map (Assoc.ofList es)

def valueItems? : List Node → Option (List Value)
  | [] => some []
  | n :: ns => do some ((← n.value?) :: (← valueItems? ns))

/-- Keys of any kind are known by their text. -/
def valueEntries? : List (Node × Node) → Option (List (String × Value))
  | [] => some []
  | (k, n) :: es => do
    let key ← k.value?
    some ((key.display, ← n.value?) :: (← valueEntries? es))

end

/-- Is the node there? An absent one is not read further. -/
def optional? {α : Type} (read : Node → Option α) (n : Node) : Option (Option α) :=
  match n with
  | leaf l =>
    match l.absent with
    | none => none
    | some true => some none
    | some false => (read n).map some
  | n => (read n).map some

def list? {α : Type} (read : Node → Option α) (n : Node) : Option (List α) :=
  match n with
  | leaf l => if l.blank then some [] else none
  | list _ _ items => items.mapM read
  | _ => none

/-- The entries of a mapping under text keys. -/
def entries? (n : Node) : Option (List (String × Node)) :=
  match n with
  | leaf l => if l.blank then some [] else none
  | map _ entries => entries.mapM fun (k, v) => k.text?.map fun key => (key, v)
  | _ => none

/-- A mapping from texts; a later value of a key wins at the key's first place. -/
def dictionary? {α : Type} (read : Node → Option α) (n : Node) : Option (List (String × α)) := do
  let entries ← n.entries?
  let read ← entries.mapM fun (k, v) => (read v).map fun a => (k, a)
  some (Assoc.ofList read)

/-- A field of a record, by the keys it is known under. -/
abbrev Field := List String

/-- The entries that give one field. -/
def given (entries : List (String × Node)) (field : Field) : List Node :=
  (entries.filter fun (k, _) => field.contains k).map Prod.snd

/-- The node of each field, in the fields' order. A field given twice cannot be read, and neither
can a key that no field has if the record is `closed`. -/
def record? (closed : Bool) (fields : List Field) (n : Node) : Option (List (Option Node)) :=
  match n with
  | list positional _ items =>
    if positional == .never || (positional == .exactly && fields.length < items.length) then none
    else some ((List.range fields.length).map fun i => items[i]?)
  | n => do
    let entries ← n.entries?
    if closed && entries.any (fun (k, _) => fields.all fun f => !f.contains k) then none
    else
      fields.mapM fun field =>
        match given entries field with
        | [] => some none
        | [v] => some (some v)
        | _ => none

def fieldOr {α : Type} (default : α) (read : Node → Option α) : Option Node → Option α
  | none => some default
  | some n => read n

end Node

end CustomCommands.Markup
