/-!
# A place in a YAML text

What is left of the text, and how far in it is: octets, lines, and characters
since the last line break. The character classes of the notation stand here
too; the end of the text counts as a break where a class says so.
-/

namespace CustomCommands.Yaml

structure Cursor where
  rest : List Char
  index : Nat := 0
  line : Nat := 0
  column : Nat := 0

/-! ## Character classes -/

def isSpace (c : Char) : Bool :=
  c == ' ' || c == '\t'

def isBreak (c : Char) : Bool :=
  c == '\n' || c == '\r' || c == '\u0085' || c == '\u2028' || c == '\u2029'

def isWord (c : Char) : Bool :=
  c.isAlphanum || c == '_' || c == '-'

def isAllowed (c : Char) : Bool :=
  let n := c.toNat
  n == 0x9 || n == 0xA || n == 0xD || (0x20 ≤ n && n ≤ 0x7E) || n == 0x85 ||
    (0xA0 ≤ n && n ≤ 0xFFFD) || 0x10000 ≤ n

def atBreak : List Char → Bool
  | [] => true
  | c :: _ => isBreak c

/-- Does a blank, a break or the end come next? -/
def atGap : List Char → Bool
  | [] => true
  | c :: _ => isSpace c || isBreak c

/-- Does `---` or `...` stand here, followed by a gap? -/
def atMarker : List Char → Bool
  | '-' :: '-' :: '-' :: cs => atGap cs
  | '.' :: '.' :: '.' :: cs => atGap cs
  | _ => false

namespace Cursor

def octets (n : Nat) (c : Cursor) : Nat :=
  (c.rest.take n).foldr (fun ch m => ch.utf8Size + m) 0

def skipN (n : Nat) (c : Cursor) : Cursor :=
  { c with rest := c.rest.drop n, index := c.index + c.octets n, column := c.column + n }

def skip (c : Cursor) : Cursor :=
  c.skipN 1

def skipWhile (ok : Char → Bool) (c : Cursor) : Cursor :=
  c.skipN (c.rest.takeWhile ok).length

/-- Passes a line break, if one is here, and gives what it stands for in a scalar. -/
def takeBreak (c : Cursor) : List Char × Cursor :=
  let past (n : Nat) : Cursor :=
    { rest := c.rest.drop n, index := c.index + c.octets n, line := c.line + 1, column := 0 }
  match c.rest with
  | '\r' :: '\n' :: _ => (['\n'], past 2)
  | '\u2028' :: _ => (['\u2028'], past 1)
  | '\u2029' :: _ => (['\u2029'], past 1)
  | ch :: _ => if isBreak ch then (['\n'], past 1) else ([], c)
  | [] => ([], c)

def skipBreak (c : Cursor) : Cursor :=
  c.takeBreak.2

def skipComment (c : Cursor) : Cursor :=
  match c.rest with
  | '#' :: _ => c.skipWhile (fun ch => !isBreak ch)
  | _ => c

/-- Passes blanks and a comment; the line has to end there, and its break is passed too. -/
def endLine (c : Cursor) : Option Cursor :=
  let c := (c.skipWhile isSpace).skipComment
  if atBreak c.rest then some c.skipBreak else none

/-- Passes a byte order mark that starts a line. -/
def skipMark (c : Cursor) : Cursor :=
  if c.column == 0 && c.rest.head? == some '\ufeff' then c.skip else c

/-- Is the cursor at a marker that starts its line? -/
def atMarkerLine (c : Cursor) : Bool :=
  c.column == 0 && atMarker c.rest

end Cursor

end CustomCommands.Yaml
