import CustomCommands.Yaml.Block
import CustomCommands.Yaml.Plain
import CustomCommands.Yaml.Quoted
import CustomCommands.Yaml.Token

/-!
# From text to tokens

Reads the text from left to right and keeps the columns of the blocks that are
open. Whether a scalar is a key shows only at the colon behind it, so each place
where a key may start is remembered, one for each level of brackets, and the
colon puts the key's token there afterwards. A key and its colon stand on one
line, at most 1024 octets apart.
-/

namespace CustomCommands.Yaml

/-- A place where a key may have started. -/
structure KeyPlace where
  /-- How many tokens stood before it. -/
  position : Nat
  index : Nat
  line : Nat
  column : Nat
  /-- Must a colon follow, because the block around it admits nothing else? -/
  required : Bool

structure Layout where
  cursor : Cursor
  tokens : Array Token := #[]
  /-- The column of the innermost block, or -1. -/
  indent : Int := -1
  /-- The columns of the blocks around it, innermost first. -/
  outer : List Int := []
  /-- The key places of the levels of brackets, innermost first; the last is outside all. -/
  places : List (Option KeyPlace) := [none]
  keyAllowed : Bool := true

namespace Layout

def inFlow (l : Layout) : Bool :=
  1 < l.places.length

def push (t : Token) (l : Layout) : Layout :=
  { l with tokens := l.tokens.push t }

def insertAt (i : Nat) (t : Token) (l : Layout) : Layout :=
  { l with tokens := l.tokens.extract 0 i ++ #[t] ++ l.tokens.extract i l.tokens.size }

def skip (n : Nat) (l : Layout) : Layout :=
  { l with cursor := l.cursor.skipN n }

def allowKey (b : Bool) (l : Layout) : Layout :=
  { l with keyAllowed := b }

/-! ## Indentation -/

/-- Opens a block at `column` unless one is open there; its token goes to `position`. -/
def openBlock (column : Nat) (position : Nat) (t : Token) (l : Layout) : Layout :=
  if !l.inFlow && l.indent < column then
    insertAt position t { l with indent := column, outer := l.indent :: l.outer }
  else l

def closeBlocks (column : Int) (l : Layout) : Layout :=
  if l.inFlow then l else go l.outer l
where
  go : List Int → Layout → Layout
    | [], l => l
    | o :: os, l => if column < l.indent then go os (push .blockEnd { l with indent := o, outer := os }) else l

/-! ## Key places -/

/-- Remembers that a key may start here. -/
def markKey (l : Layout) : Option Layout :=
  if !l.keyAllowed then some l
  else
    match l.places with
    | [] => some l
    | p :: ps =>
      if p.any KeyPlace.required then none
      else
        let c := l.cursor
        let place : KeyPlace :=
          { position := l.tokens.size
            index := c.index
            line := c.line
            column := c.column
            required := !l.inFlow && l.indent == (c.column : Int) }
        some { l with places := some place :: ps }

def dropKey (l : Layout) : Option Layout :=
  match l.places with
  | some p :: ps => if p.required then none else some { l with places := none :: ps }
  | _ => some l

/-- Gives up the key places that the cursor has left behind. -/
def dropStale (l : Layout) : Option Layout :=
  let c := l.cursor
  let stale (p : KeyPlace) : Bool := p.line < c.line || p.index + 1024 < c.index
  if l.places.any fun p? => p?.any fun p => stale p && p.required then none
  else some { l with places := l.places.map fun p? => p?.filter fun p => !stale p }

/-! ## Between tokens -/

/-- Passes blanks, comments and line breaks, and a byte order mark at the start of a line. Tabs may
not indent a block. The fuel is more than the length of what is left. -/
def skipGap : Nat → Layout → Layout
  | 0, l => l
  | fuel + 1, l =>
    let tabs := l.inFlow || !l.keyAllowed
    let c := l.cursor.skipMark
    let c := (c.skipWhile fun ch => ch == ' ' || (tabs && ch == '\t')).skipComment
    let l := { l with cursor := c }
    match c.rest with
    | [] => l
    | ch :: _ =>
      if isBreak ch then
        skipGap fuel { l with cursor := c.skipBreak, keyAllowed := l.keyAllowed || !l.inFlow }
      else l

/-! ## Tokens -/

/-- A token that stands alone at the start of a line and closes every block. -/
def lineToken (l : Layout) : Option Layout :=
  ((closeBlocks (-1) l).dropKey).map (allowKey false)

def openFlow (t : Token) (l : Layout) : Option Layout :=
  l.markKey.map fun l =>
    (push t (allowKey true { l with places := none :: l.places })).skip 1

def closeFlow (t : Token) (l : Layout) : Option Layout :=
  l.dropKey.map fun l =>
    let l := if l.inFlow then { l with places := l.places.drop 1 } else l
    (push t (allowKey false l)).skip 1

def flowEntry (l : Layout) : Option Layout :=
  l.dropKey.map fun l => (push .flowEntry (allowKey true l)).skip 1

def blockEntry (l : Layout) : Option Layout :=
  if !l.inFlow && !l.keyAllowed then none
  else
    (l.openBlock l.cursor.column l.tokens.size .blockSequence).dropKey.map fun l =>
      (push .blockEntry (allowKey true l)).skip 1

def explicitKey (l : Layout) : Option Layout :=
  if !l.inFlow && !l.keyAllowed then none
  else
    (l.openBlock l.cursor.column l.tokens.size .blockMapping).dropKey.map fun l =>
      (push .key (allowKey (!l.inFlow) l)).skip 1

/-- A colon: what stands at the key place before it is a key. -/
def value (l : Layout) : Option Layout :=
  match l.places with
  | some p :: ps =>
    let l := { l with places := none :: ps }
    let l := (l.insertAt p.position .key).openBlock p.column p.position .blockMapping
    some ((push .value (allowKey false l)).skip 1)
  | _ =>
    if !l.inFlow && !l.keyAllowed then none
    else
      let l := l.openBlock l.cursor.column l.tokens.size .blockMapping
      some ((push .value (allowKey (!l.inFlow) l)).skip 1)

/-- A token that may be a key, or part of one, and that `read` finds at the cursor. -/
def keyToken (read : Cursor → Option (Token × Cursor)) (l : Layout) : Option Layout :=
  l.markKey.bind fun l =>
    (read l.cursor).map fun (t, c) => push t (allowKey false { l with cursor := c })

def plainScalar (l : Layout) : Option Layout :=
  l.markKey.bind fun l =>
    (readPlain l.inFlow (l.indent + 1).toNat l.cursor).map fun (s, broken, c) =>
      push (.scalar s true) (allowKey broken { l with cursor := c })

def quotedScalar (quote : Char) (l : Layout) : Option Layout :=
  keyToken (fun c => (readQuoted quote c).map fun (s, c) => (.scalar s false, c)) l

def blockScalar (folded : Bool) (l : Layout) : Option Layout :=
  l.dropKey.bind fun l =>
    (readBlock folded l.indent l.cursor).map fun (s, c) =>
      push (.scalar s false) (allowKey true { l with cursor := c })

def isIndicator (c : Char) : Bool :=
  "-?:,[]\x7b\x7d#&*!|>'\"%@\x60".toList.contains c

/-- Reads the token at the cursor, which is not at the end. -/
def token (l : Layout) (ch : Char) (more : List Char) : Option Layout :=
  let c := l.cursor
  let flow := l.inFlow
  if c.column == 0 && ch == '%' then
    l.lineToken.bind fun l =>
      (readDirective l.cursor).map fun (d, c) => push (.directive d) { l with cursor := c }
  else if c.atMarkerLine then
    l.lineToken.map fun l =>
      (push (if ch == '-' then .documentStart else .documentEnd) l).skip 3
  else if ch == '[' then l.openFlow .flowSequence
  else if ch == '\x7b' then l.openFlow .flowMapping
  else if ch == ']' then l.closeFlow .flowSequenceEnd
  else if ch == '\x7d' then l.closeFlow .flowMappingEnd
  else if ch == ',' then l.flowEntry
  else if ch == '-' && atGap more then l.blockEntry
  else if ch == '?' && (flow || atGap more) then l.explicitKey
  else if ch == ':' && (flow || atGap more) then l.value
  else if ch == '*' then
    l.keyToken fun c => (readName c.skip).map fun (name, c) => (.reference name, c)
  else if ch == '&' then
    l.keyToken fun c => (readName c.skip).map fun (name, c) => (.anchor name, c)
  else if ch == '!' then
    l.keyToken fun c => (readTag flow c).map fun (t, c) => (.tag t, c)
  else if ch == '|' && !flow then l.blockScalar false
  else if ch == '>' && !flow then l.blockScalar true
  else if ch == '\'' || ch == '"' then l.quotedScalar ch
  else if (!isSpace ch && !isIndicator ch) || (ch == '-' && !(more.head?.any isSpace)) ||
      (!flow && (ch == '?' || ch == ':')) then
    l.plainScalar
  else none

/-- Reads the tokens that are left; the fuel is more than the length of the text. -/
def tokensFrom : Nat → Layout → Option (Array Token)
  | 0, _ => none
  | fuel + 1, l =>
    (skipGap (l.cursor.rest.length + 1) l).dropStale.bind fun l =>
      let l := l.closeBlocks l.cursor.column
      match l.cursor.rest with
      | [] => ((l.closeBlocks (-1)).dropKey).map Layout.tokens
      | ch :: more => (l.token ch more).bind (tokensFrom fuel)

end Layout

def tokens? (text : String) : Option (List Token) :=
  let cs := text.toList
  if !cs.all isAllowed then none
  else (Layout.tokensFrom (cs.length + 2) { cursor := { rest := cs } }).map Array.toList

end CustomCommands.Yaml
