import CustomCommands.Arena
import CustomCommands.Bindings
import CustomCommands.Decimal.Reader
import CustomCommands.Identity
import CustomCommands.Text.Blank

/-!
# Matching

Typed words go down the tree from the root, one node for each word. A child of
exactly that name comes first, then the first one in braces that agrees up to
letter case, then the first one in brackets whose type takes the word. Every
node on the way needs its permission, and a placeholder binds the word.
-/

namespace CustomCommands

def ArgumentType.takes (i : Identity) (input : String) : ArgumentType → Noted Bool
  | .onlinePlayer => pure (i.platform.onlinePlayer input).isSome
  | .player => do pure (← i.resolve input).isSome
  | .integer => pure (Decimal.readInt32 input.toList).isSome
  | .double => pure (Decimal.readFloat (Text.trim input.toList)).isSome
  | .world => pure (i.platform.hasWorld input)
  | .text => pure true

/-- A node and its number in the tree. -/
structure Place where
  id : Nat
  node : Argument

namespace Place

def root (tree : Argument) : Place :=
  ⟨0, tree⟩

def children (p : Place) : List Place :=
  (Argument.numbered (p.id + 1) p.node.children).map fun (i, a) => ⟨i, a⟩

theorem map_node_children (p : Place) : p.children.map node = p.node.children := by
  rw [children, List.map_map]
  exact Argument.map_snd_numbered (p.id + 1) p.node.children

/-- Is the node one in braces that agrees with the word up to letter case? -/
def isStaticMatch (word : String) (p : Place) : Bool :=
  match p.node.kind with
  | .static inner => Text.lower inner == Text.lower word
  | _ => false

/-- The first node in brackets whose type takes the word. -/
def firstTaking (i : Identity) (word : String) : List Place → Noted (Option Place)
  | [] => pure none
  | p :: ps => do
    if p.node.isDynamic then
      if ← p.node.type.takes i word then pure (some p) else firstTaking i word ps
    else firstTaking i word ps

def select (i : Identity) (word : String) (p : Place) : Noted (Option Place) :=
  match p.children.find? fun q => q.node.name == word with
  | some q => pure (some q)
  | none =>
    match p.children.find? (isStaticMatch word) with
    | some q => pure (some q)
    | none => firstTaking i word p.children

end Place

/-- A path that ends where something happens. -/
structure Resolution where
  place : Place
  bindings : Bindings

inductive MatchOutcome where
  | resolved (r : Resolution)
  /-- The path stops early or leads nowhere in particular. -/
  | usage
  /-- A word is not of the only type that is asked for. -/
  | invalid (message : String)
  /-- A node needs a permission that the sender lacks. -/
  | denied (message : Option String)

namespace Argument

/-- The refusal of a node, if the sender lacks its permission; the root speaks for nodes that have
no message of their own. -/
def denial (root : Argument) (s : Sender) (a : Argument) : Option MatchOutcome :=
  match a.traits.permission with
  | none => none
  | some p =>
    if s.has p then none
    else some (.denied (a.traits.permissionMessage.or root.traits.permissionMessage))

/-- The placeholder of the input in a type error. -/
def inputToken : String := "%input%"

def typeErrorTemplate (a : Argument) : String :=
  a.traits.typeError.getD ("&cInvalid input for <" ++ a.traits.declaredType.getD "text" ++ ">.")

/-- The outcome for a word that no child takes: if a single type is asked for, its error. -/
def unmatched (word : String) (a : Argument) : MatchOutcome :=
  match a.children.filter isDynamic with
  | [d] => .invalid (Text.replaceAll inputToken word d.typeErrorTemplate)
  | _ => .usage

end Argument

namespace Place

def arrive (b : Bindings) (p : Place) : MatchOutcome :=
  if p.node.isExecutable then .resolved { place := p, bindings := b } else .usage

def bind (word : String) (b : Bindings) (p : Place) : Bindings :=
  if p.node.kind == .literal then b else b.insert p.node.name word

def walk (root : Argument) (s : Sender) (i : Identity) (b : Bindings) (p : Place) :
    List String → Noted MatchOutcome
  | [] => pure (p.arrive b)
  | word :: words => do
    match ← p.select i word with
    | none => pure (p.node.unmatched word)
    | some q =>
      match root.denial s q.node with
      | some d => pure d
      | none => walk root s i (q.bind word b) q words

end Place

def Argument.matchPath (root : Argument) (s : Sender) (i : Identity) (words : List String) :
    Noted MatchOutcome :=
  match root.denial s root with
  | some d => pure d
  | none => (Place.root root).walk root s i (.ofSender s.name) words

end CustomCommands
