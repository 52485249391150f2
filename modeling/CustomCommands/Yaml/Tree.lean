import CustomCommands.Assoc
import CustomCommands.Yaml.Token

/-!
# YAML trees

The nodes that a list of tokens spells, with their anchors, tags and aliases.
`α` is what an alias is known by. A text holds one document at most.
-/

namespace CustomCommands.Yaml

structure Properties where
  anchor : Option String := none
  tag : Option String := none

inductive Tree (α : Type) where
  | reference (anchor : α)
  | scalar (p : Properties) (text : String) (plain : Bool)
  | list (p : Properties) (items : List (Tree α))
  | map (p : Properties) (entries : List (Tree α × Tree α))

namespace Tree

def empty {α : Type} : Tree α :=
  .scalar {} "" true

/-! ## Tags -/

/-- The handles of a document and what they stand for. -/
abbrev Handles := List (String × String)

def defaultHandles : Handles :=
  [("!", "!"), ("!!", "tag:yaml.org,2002:")]

def resolveTag (handles : Handles) (t : Tag) : Option String :=
  if t.handle.isEmpty then some t.suffix
  else (Assoc.get? t.handle handles).map (· ++ t.suffix)

/-- Reads an anchor and a tag in either order. -/
def properties (handles : Handles) : List Token → Option (Properties × List Token)
  | .anchor a :: .tag t :: ts =>
    (resolveTag handles t).map fun tag => ({ anchor := some a, tag := some tag }, ts)
  | .tag t :: .anchor a :: ts =>
    (resolveTag handles t).map fun tag => ({ anchor := some a, tag := some tag }, ts)
  | .anchor a :: ts => some ({ anchor := some a }, ts)
  | .tag t :: ts => (resolveTag handles t).map fun tag => ({ tag := some tag }, ts)
  | ts => some ({}, ts)

/-! ## Nodes -/

/-- May nothing stand between the token before and this one? -/
def endsBlockItem : List Token → Bool
  | .blockEntry :: _ => true
  | .blockEnd :: _ => true
  | _ => false

def endsBlockEntry : List Token → Bool
  | .key :: _ => true
  | .value :: _ => true
  | .blockEnd :: _ => true
  | _ => false

def endsFlowItem : List Token → Bool
  | .flowEntry :: _ => true
  | .flowSequenceEnd :: _ => true
  | _ => false

def endsFlowEntry : List Token → Bool
  | .flowEntry :: _ => true
  | .flowMappingEnd :: _ => true
  | _ => false

def startsWithValue : List Token → Bool
  | .value :: _ => true
  | _ => false

variable (handles : Handles)

mutual

/-- Reads a node. Only where `block` holds may it be a block, and only where `flush` holds one
whose items stand at the column of their key. The fuel bounds the tokens left. -/
def node (block flush : Bool) : Nat → List Token → Option (Tree String × List Token)
  | 0, _ => none
  | fuel + 1, ts =>
    match ts with
    | .reference name :: ts => some (.reference name, ts)
    | ts => do
      let (p, ts) ← properties handles ts
      match ts with
      | .blockEntry :: _ =>
        if flush then (flushItems fuel ts).map fun (items, ts) => (.list p items, ts)
        else if p.anchor.isSome || p.tag.isSome then some (.scalar p "" true, ts)
        else none
      | .scalar text plain :: ts => some (.scalar p text plain, ts)
      | .flowSequence :: ts => (flowItems true fuel ts).map fun (items, ts) => (.list p items, ts)
      | .flowMapping :: ts => (flowEntries true fuel ts).map fun (es, ts) => (.map p es, ts)
      | ts =>
        match ts, block with
        | .blockSequence :: ts, true => (blockItems fuel ts).map fun (is, ts) => (.list p is, ts)
        | .blockMapping :: ts, true => (blockEntries fuel ts).map fun (es, ts) => (.map p es, ts)
        | ts, _ => if p.anchor.isSome || p.tag.isSome then some (.scalar p "" true, ts) else none

def blockItems : Nat → List Token → Option (List (Tree String) × List Token)
  | 0, _ => none
  | fuel + 1, ts =>
    match ts with
    | .blockEntry :: ts => do
      let (n, ts) ← if endsBlockItem ts then some (empty, ts) else node true false fuel ts
      let (ns, ts) ← blockItems fuel ts
      some (n :: ns, ts)
    | .blockEnd :: ts => some ([], ts)
    | _ => none

def flushItems : Nat → List Token → Option (List (Tree String) × List Token)
  | 0, _ => none
  | fuel + 1, ts =>
    match ts with
    | .blockEntry :: ts => do
      let (n, ts) ←
        if endsBlockItem ts || endsBlockEntry ts then some (empty, ts) else node true false fuel ts
      let (ns, ts) ← flushItems fuel ts
      some (n :: ns, ts)
    | ts => some ([], ts)

def blockEntries : Nat → List Token → Option (List (Tree String × Tree String) × List Token)
  | 0, _ => none
  | fuel + 1, ts =>
    match ts with
    | .key :: ts => do
      let (k, ts) ← if endsBlockEntry ts then some (empty, ts) else node true true fuel ts
      let (v, ts) ← blockValue fuel ts
      let (es, ts) ← blockEntries fuel ts
      some ((k, v) :: es, ts)
    | .blockEnd :: ts => some ([], ts)
    | _ => none

def blockValue : Nat → List Token → Option (Tree String × List Token)
  | 0, _ => none
  | fuel + 1, ts =>
    match ts with
    | .value :: ts => if endsBlockEntry ts then some (empty, ts) else node true true fuel ts
    | ts => some (empty, ts)

def flowItems (first : Bool) : Nat → List Token → Option (List (Tree String) × List Token)
  | 0, _ => none
  | fuel + 1, ts =>
    match ts with
    | .flowSequenceEnd :: ts => some ([], ts)
    | ts => do
      let ts ←
        match ts, first with
        | ts, true => some ts
        | .flowEntry :: ts, false => some ts
        | _, false => none
      match ts with
      | .flowSequenceEnd :: ts => some ([], ts)
      | .key :: ts => do
        let (e, ts) ← flowPair fuel ts
        let (ns, ts) ← flowItems false fuel ts
        some (.map {} [e] :: ns, ts)
      | ts => do
        let (n, ts) ← node false false fuel ts
        let (ns, ts) ← flowItems false fuel ts
        some (n :: ns, ts)

/-- A single entry among the items of a list in brackets. Where no key is written, the token that
stands in its place is passed over. -/
def flowPair : Nat → List Token → Option ((Tree String × Tree String) × List Token)
  | 0, _ => none
  | fuel + 1, ts => do
    let (k, ts) ←
      if startsWithValue ts || endsFlowItem ts then some (empty, ts.drop 1)
      else node false false fuel ts
    match ts with
    | .value :: ts =>
      let (v, ts) ← if endsFlowItem ts then some (empty, ts) else node false false fuel ts
      some ((k, v), ts)
    | ts => some ((k, empty), ts)

def flowEntries (first : Bool) :
    Nat → List Token → Option (List (Tree String × Tree String) × List Token)
  | 0, _ => none
  | fuel + 1, ts =>
    match ts with
    | .flowMappingEnd :: ts => some ([], ts)
    | ts => do
      let ts ←
        match ts, first with
        | ts, true => some ts
        | .flowEntry :: ts, false => some ts
        | _, false => none
      match ts with
      | .flowMappingEnd :: ts => some ([], ts)
      | .key :: ts => do
        let (k, ts) ←
          if startsWithValue ts || endsFlowEntry ts then some (empty, ts)
          else node false false fuel ts
        let (v, ts) ←
          match ts with
          | .value :: ts => if endsFlowEntry ts then some (empty, ts) else node false false fuel ts
          | ts => some (empty, ts)
        let (es, ts) ← flowEntries false fuel ts
        some ((k, v) :: es, ts)
      | ts => do
        let (k, ts) ← node false false fuel ts
        let (es, ts) ← flowEntries false fuel ts
        some ((k, empty) :: es, ts)

end

/-! ## Documents -/

/-- Reads the directives of a document: one version at most, which has to be 1.1 or 1.2, and each
handle once. -/
def directives : Bool → Handles → List Token → Option (Handles × List Token)
  | versioned, hs, .directive d :: ts =>
    match d with
    | .version major minor =>
      if versioned || major != 1 || (minor != 1 && minor != 2) then none
      else directives true hs ts
    | .tag handle leading =>
      if (Assoc.get? handle hs).isSome then none
      else directives versioned ((handle, leading) :: hs) ts
  | _, hs, ts => some (hs, ts)

/-- Adds the handles that are defined in every document unless it defines them itself. -/
def withDefaults (hs : Handles) : Handles :=
  hs ++ defaultHandles

/-- Is there nothing here for a document to hold? -/
def endsDocument : List Token → Bool
  | [] => true
  | .directive _ :: _ => true
  | .documentStart :: _ => true
  | .documentEnd :: _ => true
  | _ => false

def skipDocumentEnds (ts : List Token) : List Token :=
  ts.dropWhile fun t => t == .documentEnd

/-- The document of the tokens; the inner `none` is a text without one. -/
def ofTokens? (ts : List Token) : Option (Option (Tree String)) := do
  let fuel := 3 * ts.length + 3
  let opens := match ts with
    | .directive _ :: _ => true
    | .documentStart :: _ => true
    | _ => false
  if ts.isEmpty then some none
  else
    let (n, rest) ←
      if opens then do
        let (hs, ts) ← directives false [] ts
        match ts with
        | .documentStart :: ts =>
          if endsDocument ts then some (empty, ts) else node (withDefaults hs) true false fuel ts
        | _ => none
      else node defaultHandles true false fuel ts
    if (skipDocumentEnds rest).isEmpty then some (some n) else none

end Tree

end CustomCommands.Yaml
