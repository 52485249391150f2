import CustomCommands.Toml.Table

/-!
# TOML documents

Reads a TOML text into a document tree. A document is a line of space, a
comment, a key with its value or a header, again and again.
-/

namespace CustomCommands.Toml

open Markup

/-- Takes a value that stands alone, such as `true`. -/
def takeWord (word : List Char) (cs : List Char) : Option (List Char) :=
  if word.isPrefixOf cs then some (cs.drop word.length) else none

def inlineTable (entries : List (List String × Node)) : Option Table :=
  entries.foldlM (fun t (path, n) => do t.define path.dropLast (← path.getLast?) n) Table.fresh

mutual

/-- Reads one value inside `depth` collections; the fuel is twice the length of what is left. -/
def readValue : Nat → Nat → List Char → Option (Node × List Char)
  | 0, _, _ => none
  | _ + 1, _, [] => none
  | fuel + 1, depth, c :: cs =>
    if c == '"' || c == '\'' then
      (readString (c :: cs)).map fun (s, rest) => (ofText s, rest)
    else if c == '[' then
      if depth + 1 < depthLimit then
        (readItems fuel (depth + 1) cs).map fun (items, rest) =>
          (.list .atLeast false items, rest)
      else none
    else if c == '\x7b' then
      if depth + 1 < depthLimit then
        (readPairs fuel (depth + 1) true cs).bind fun (pairs, rest) =>
          (inlineTable pairs).map fun t => (t.node, rest)
      else none
    else if Decimal.isDigit c || c == '+' || c == '-' then readNumber (c :: cs)
    else if c == 't' then (takeWord "true".toList (c :: cs)).map fun rest => (ofFlag true, rest)
    else if c == 'f' then (takeWord "false".toList (c :: cs)).map fun rest => (ofFlag false, rest)
    else readSpecial false (c :: cs)

def readItems : Nat → Nat → List Char → Option (List Node × List Char)
  | 0, _, _ => none
  | fuel + 1, depth, cs =>
    match skipLines (cs.length + 1) cs with
    | ']' :: cs => some ([], cs)
    | cs => do
      let (n, cs) ← readValue fuel depth cs
      match skipLines (cs.length + 1) cs with
      | ']' :: cs => some ([n], cs)
      | ',' :: cs =>
        let (ns, cs) ← readItems fuel depth cs
        some (n :: ns, cs)
      | _ => none

/-- Reads the pairs of an inline table up to its closing brace, all on one line. -/
def readPairs : Nat → Nat → Bool → List Char → Option (List (List String × Node) × List Char)
  | 0, _, _, _ => none
  | fuel + 1, depth, first, cs =>
    match skipSpace cs, first with
    | '\x7d' :: cs, true => some ([], cs)
    | cs, _ => do
      let (path, cs) ← readKey cs
      match cs with
      | '=' :: cs =>
        let (n, cs) ← readValue fuel depth (skipSpace cs)
        match skipSpace cs with
        | '\x7d' :: cs => some ([(path, n)], cs)
        | ',' :: cs =>
          let (pairs, cs) ← readPairs fuel depth false cs
          some ((path, n) :: pairs, cs)
        | _ => none
      | _ => none

end

def readLine (b : Builder) (cs : List Char) : Option (Builder × List Char) :=
  match cs with
  | '[' :: '[' :: cs => do
    let (path, cs) ← readKey cs
    match cs with
    | ']' :: ']' :: cs => some (← b.openInArray path, ← endLine cs)
    | _ => none
  | '[' :: cs => do
    let (path, cs) ← readKey cs
    match cs with
    | ']' :: cs => some (← b.openTable path, ← endLine cs)
    | _ => none
  | cs => do
    let (path, cs) ← readKey cs
    match cs with
    | '=' :: cs =>
      let (n, cs) ← readValue (2 * cs.length + 2) 0 (skipSpace cs)
      let key ← path.getLast?
      some (← b.define path.dropLast key n, ← endLine cs)
    | _ => none

/-- Reads the lines that are left; the fuel is their length. -/
def readLines : Nat → Builder → List Char → Option Builder
  | 0, b, cs => if cs.isEmpty then some b else none
  | fuel + 1, b, cs =>
    match skipLines (cs.length + 1) cs with
    | [] => some b
    | cs => (readLine b cs).bind fun (b, rest) => readLines fuel b rest

/-- Reads a whole text; a byte order mark may stand at its start. -/
def readDocument (text : String) : Option Node :=
  let cs := match text.toList with
    | '\ufeff' :: cs => cs
    | cs => cs
  ((readLines (cs.length + 1) {} cs).bind Builder.close).map Table.node

end CustomCommands.Toml
