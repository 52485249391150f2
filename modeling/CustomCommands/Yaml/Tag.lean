import CustomCommands.Decimal.Reader
import CustomCommands.Yaml.Cursor

/-!
# Anchors, tags and directives

Names of nodes, names of their types, and the lines that shorten type names.
-/

namespace CustomCommands.Yaml

def readName (c : Cursor) : Option (String × Cursor) :=
  let name := c.rest.takeWhile isWord
  let c := c.skipN name.length
  let ends := atGap c.rest || c.rest.head?.any fun ch => "?:,]\x7d%@\x60".toList.contains ch
  if name.isEmpty || !ends then none else some (String.ofList name, c)

/-! ## Tags -/

/-- A tag as written: the handle, which a directive may have defined, and what follows it. -/
structure Tag where
  handle : String
  suffix : String
  deriving DecidableEq, Repr

def isUriChar (verbatim : Bool) (c : Char) : Bool :=
  isWord c || ";/?:@&=+$.%!~*'()".toList.contains c || (verbatim && ",[]".toList.contains c)

def readOctet : List Char → Option (Nat × List Char)
  | '%' :: a :: b :: cs => (Decimal.readNat 16 [a, b]).map fun n => (n, cs)
  | _ => none

/-- How many octets the character of a first octet takes, and that octet's share of it. -/
def leadOctet (n : Nat) : Option (Nat × Nat) :=
  if n < 0x80 then some (1, n)
  else if 0xC0 ≤ n && n < 0xE0 then some (2, n % 0x20)
  else if 0xE0 ≤ n && n < 0xF0 then some (3, n % 0x10)
  else if 0xF0 ≤ n && n < 0xF8 then some (4, n % 0x08)
  else none

def readTrail : Nat → Nat → List Char → Option (Nat × List Char)
  | 0, acc, cs => some (acc, cs)
  | k + 1, acc, cs =>
    (readOctet cs).bind fun (n, cs) =>
      if 0x80 ≤ n && n < 0xC0 then readTrail k (acc * 0x40 + n % 0x40) cs else none

def readUriEscape (cs : List Char) : Option (Char × List Char) := do
  let (n, cs) ← readOctet cs
  let (width, share) ← leadOctet n
  let (n, cs) ← readTrail (width - 1) share cs
  some (Char.ofNat n, cs)

/-- The rest of a tag's name. The fuel is the length of what is left. -/
def readUri (verbatim : Bool) : Nat → List Char → Option (List Char × List Char)
  | 0, cs => some ([], cs)
  | fuel + 1, cs =>
    match cs with
    | [] => some ([], [])
    | c :: more =>
      if c == '%' then do
        let (c, cs) ← readUriEscape cs
        let (r, cs) ← readUri verbatim fuel cs
        some (c :: r, cs)
      else if isUriChar verbatim c then
        (readUri verbatim fuel more).map fun (r, cs) => (c :: r, cs)
      else some ([], c :: more)

/-- Moves a cursor on to where `rest` starts, within its line. -/
def Cursor.moveTo (c : Cursor) (rest : List Char) : Cursor :=
  c.skipN (c.rest.length - rest.length)

/-- Reads a tag's name after `before`, the exclamation mark of which is not part of it. -/
def readSuffix (verbatim : Bool) (before : List Char) (c : Cursor) : Option (String × Cursor) :=
  (readUri verbatim (c.rest.length + 1) c.rest).bind fun (uri, rest) =>
    if before.isEmpty && uri.isEmpty then none
    else some (String.ofList (before.drop 1 ++ uri), c.moveTo rest)

/-- A handle: an exclamation mark, word characters, and perhaps another mark. -/
def readHandle (c : Cursor) : Option (List Char × Cursor) :=
  match c.rest with
  | '!' :: cs =>
    let name := cs.takeWhile isWord
    let c := c.skipN (name.length + 1)
    match c.rest with
    | '!' :: _ => some ('!' :: name ++ ['!'], c.skip)
    | _ => some ('!' :: name, c)
  | _ => none

/-- Reads a tag. A comma may follow it inside brackets only; otherwise there has to be a gap. -/
def readTag (inFlow : Bool) (c : Cursor) : Option (Tag × Cursor) := do
  let (tag, c) ←
    match c.rest with
    | '!' :: '<' :: _ => do
      let (suffix, c) ← readSuffix true [] (c.skipN 2)
      if c.rest.head? == some '>' then some ({ handle := "", suffix : Tag }, c.skip) else none
    | _ => do
      let (handle, c) ← readHandle c
      if 1 < handle.length && handle.getLast? == some '!' then do
        let (suffix, c) ← readSuffix false [] c
        some ({ handle := String.ofList handle, suffix : Tag }, c)
      else do
        let (suffix, c) ← readSuffix false handle c
        if suffix.isEmpty then some ({ handle := "", suffix := "!" : Tag }, c)
        else some ({ handle := "!", suffix : Tag }, c)
  if atGap c.rest || (inFlow && c.rest.head? == some ',') then some (tag, c) else none

/-! ## Directives -/

inductive Directive where
  | version (major minor : Nat)
  | tag (handle leading : String)
  deriving DecidableEq, Repr

/-- A part of a version number: up to nine digits. -/
def readVersionPart (c : Cursor) : Option (Nat × Cursor) :=
  let digits := c.rest.takeWhile Decimal.isDigit
  if 9 < digits.length then none
  else (Decimal.readNat 10 digits).map fun n => (n, c.skipN digits.length)

/-- Reads a directive from its percent sign up to the next line. -/
def readDirective (c : Cursor) : Option (Directive × Cursor) := do
  let name := (c.rest.drop 1).takeWhile isWord
  let c := c.skipN (name.length + 1)
  if name.isEmpty || !atGap c.rest then none
  else
    let c := c.skipWhile isSpace
    let (directive, c) ←
      if name == "YAML".toList then do
        let (major, c) ← readVersionPart c
        if c.rest.head? != some '.' then none
        else
          let (minor, c) ← readVersionPart c.skip
          some (Directive.version major minor, c)
      else if name == "TAG".toList then do
        let (handle, c) ← readHandle c
        if 1 < handle.length && handle.getLast? != some '!' then none
        else if !(c.rest.head?.any isSpace) then none
        else
          let (leading, c) ← readSuffix true [] (c.skipWhile isSpace)
          if atGap c.rest then some (Directive.tag (String.ofList handle) leading, c) else none
      else none
    some (directive, ← c.endLine)

end CustomCommands.Yaml
