import CustomCommands.Matching

/-!
# Completion

What may be typed next. The words before the last are followed as in matching,
and only nodes that the sender may use are offered.
-/

namespace CustomCommands

/-- The names that can be listed for a type and start with `partly`, in any letter case. -/
def ArgumentType.suggestions (p : Platform) (partly : List Char) (t : ArgumentType) :
    List String :=
  let names :=
    match t with
    | .onlinePlayer => p.onlineNames
    | .world => p.worldNames
    | _ => []
  names.filter fun n => Text.startsWith (Text.lowerChars n.toList) partly

namespace Argument

def offers (p : Platform) (partly : List Char) (a : Argument) : List String :=
  let fits (name : String) : List String :=
    if Text.startsWith (Text.lowerChars name.toList) partly then [name] else []
  match a.kind with
  | .dynamic _ => a.type.suggestions p partly
  | .static inner => fits inner
  | .literal => fits a.name

end Argument

namespace Place

/-- The node that the words lead to, if it has children and may be used all the way. -/
def follow (root : Argument) (s : Sender) (i : Identity) (p : Place) :
    List String → Noted (Option Place)
  | [] => pure (some p)
  | word :: words => do
    match ← p.select i word with
    | none => pure none
    | some q =>
      if q.node.children.isEmpty || (root.denial s q.node).isSome then pure none
      else follow root s i q words

end Place

def Argument.suggest (root : Argument) (s : Sender) (i : Identity) (words : List String) :
    Noted (List String) :=
  match words.getLast? with
  | none => pure []
  | some partly => do
    match ← (Place.root root).follow root s i words.dropLast with
    | none => pure []
    | some p =>
      let open? := p.node.children.filter fun a => (root.denial s a).isNone
      pure (open?.flatMap (Argument.offers i.platform (Text.lowerChars partly.toList)))

end CustomCommands
