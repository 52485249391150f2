import CustomCommands.Decimal.Reader
import CustomCommands.Yaml.Folding

/-!
# Quoted scalars

Between single quotes a quote is written twice; between double quotes a
backslash starts an escape, and before a line break it joins the lines. Line
breaks fold as in plain scalars.
-/

namespace CustomCommands.Yaml

def escape? (c : Char) : Option Char :=
  match c with
  | '0' => some '\x00'
  | 'a' => some '\x07'
  | 'b' => some '\x08'
  | 't' => some '\t'
  | '\t' => some '\t'
  | 'n' => some '\n'
  | 'v' => some '\x0b'
  | 'f' => some '\x0c'
  | 'r' => some '\r'
  | 'e' => some '\x1b'
  | ' ' => some ' '
  | '"' => some '"'
  | '/' => some '/'
  | '\\' => some '\\'
  | 'N' => some '\u0085'
  | '_' => some '\u00a0'
  | 'L' => some '\u2028'
  | 'P' => some '\u2029'
  | _ => none

/-- How many hexadecimal digits follow the letter of an escape. -/
def escapeDigits (c : Char) : Nat :=
  if c == 'x' then 2 else if c == 'u' then 4 else if c == 'U' then 8 else 0

/-- Reads an escape past its backslash. Half a surrogate pair stands for no character. -/
def readEscape (c : Cursor) : Option (Char × Cursor) :=
  c.rest.head?.bind fun letter =>
    let count := escapeDigits letter
    if count == 0 then (escape? letter).map fun ch => (ch, c.skip)
    else
      let digits := (c.rest.drop 1).take count
      if digits.length < count then none
      else
        (Decimal.readNat 16 digits).bind fun n =>
          if (0xD800 ≤ n && n ≤ 0xDFFF) || 0x10FFFF < n then none
          else some (Char.ofNat n, c.skipN (count + 1))

/-- Reads the characters up to a gap or the closing quote. The flag tells of an escaped line break
at the end. The fuel is the length of what is left. -/
def quotedRun (quote : Char) : Nat → List Char → Cursor → Option (List Char × Bool × Cursor)
  | 0, acc, c => some (acc, false, c)
  | fuel + 1, acc, c =>
    match c.rest with
    | [] => some (acc, false, c)
    | ch :: more =>
      if isSpace ch || isBreak ch then some (acc, false, c)
      else if ch == quote then
        if quote == '\'' && more.head? == some quote then
          quotedRun quote fuel (quote :: acc) (c.skipN 2)
        else some (acc, false, c)
      else if quote == '"' && ch == '\\' then
        if more.head?.any isBreak then some (acc, true, c.skip.skipBreak)
        else (readEscape c.skip).bind fun (e, c) => quotedRun quote fuel (e :: acc) c
      else quotedRun quote fuel (ch :: acc) c.skip

/-- Reads on inside the quotes up to the closing one. -/
def readQuotedFrom (quote : Char) : Nat → List Char → Cursor → Option (List Char × Cursor)
  | 0, _, _ => none
  | fuel + 1, acc, c =>
    if c.atMarkerLine || c.rest.isEmpty then none
    else
      (quotedRun quote (c.rest.length + 1) acc c).bind fun (acc, joined, c) =>
        if c.rest.head? == some quote then some (acc, c.skip)
        else
          (Gap.read 0 (c.rest.length + 1) { broken := joined } c).bind fun (g, c) =>
            readQuotedFrom quote fuel (g.text.reverse ++ acc) c

def readQuoted (quote : Char) (c : Cursor) : Option (String × Cursor) :=
  (readQuotedFrom quote (c.rest.length + 1) [] c.skip).map fun (acc, c) =>
    (String.ofList acc.reverse, c)

end CustomCommands.Yaml
