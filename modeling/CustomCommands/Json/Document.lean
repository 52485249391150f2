import CustomCommands.Decimal.Reader
import CustomCommands.Json.Number
import CustomCommands.Markup.Node

/-!
# JSON documents

Reads a JSON text into a document tree. Nothing may follow the document but
white space. A text with half a surrogate pair, a number that is too large and
a value more than 127 levels deep are refused only where they are read.
-/

namespace CustomCommands.Json

open Markup

def isSpace (c : Char) : Bool :=
  c == ' ' || c == '\n' || c == '\t' || c == '\r'

def skipSpace (cs : List Char) : List Char :=
  cs.dropWhile isSpace

def readUnit (cs : List Char) : Option (Nat × List Char) :=
  if cs.length < 4 then none
  else (Decimal.readNat 16 (cs.take 4)).map fun n => (n, cs.drop 4)

def escape? : Char → Option Char
  | '"' => some '"'
  | '\\' => some '\\'
  | '/' => some '/'
  | 'b' => some '\x08'
  | 'f' => some '\x0c'
  | 'n' => some '\n'
  | 'r' => some '\r'
  | 't' => some '\t'
  | _ => none

/-- The character of `\u` and four digits, perhaps with a second half; `none` for half a pair. -/
def readUnicode (cs : List Char) : Option (Option Char × List Char) := do
  let (high, rest) ← readUnit cs
  if 0xDC00 ≤ high && high ≤ 0xDFFF then some (none, rest)
  else if 0xD800 ≤ high && high ≤ 0xDBFF then
    match rest with
    | '\\' :: 'u' :: more =>
      let (low, rest) ← readUnit more
      if 0xDC00 ≤ low && low ≤ 0xDFFF then
        some (some (Char.ofNat (0x10000 + (high - 0xD800) * 0x400 + (low - 0xDC00))), rest)
      else some (none, rest)
    | _ => some (none, rest)
  else some (some (Char.ofNat high), rest)

/-- Reads up to the closing quote. The outer `none` is an error, the inner one a text with half a
surrogate pair. The fuel is the length of what is left. -/
def readString : Nat → List Char → List Char → Bool → Option (Option String × List Char)
  | 0, _, _, _ => none
  | _ + 1, [], _, _ => none
  | _ + 1, '"' :: cs, acc, whole =>
    some (if whole then some (String.ofList acc.reverse) else none, cs)
  | fuel + 1, '\\' :: c :: cs, acc, whole =>
    if c == 'u' then
      (readUnicode cs).bind fun (c?, rest) =>
        match c? with
        | some c => readString fuel rest (c :: acc) whole
        | none => readString fuel rest acc false
    else (escape? c).bind fun c => readString fuel cs (c :: acc) whole
  | fuel + 1, c :: cs, acc, whole =>
    if c.toNat < 0x20 || c == '\\' then none else readString fuel cs (c :: acc) whole

def digitsOf (cs : List Char) : List Nat :=
  cs.map fun c => c.toNat - '0'.toNat

/-- Reads a number: no zero may lead, and a point and a letter e need digits behind them. -/
def readLiteral (cs : List Char) : Option (Literal × List Char) :=
  let (negative, cs) := match cs with
    | '-' :: cs => (true, cs)
    | cs => (false, cs)
  let whole := cs.takeWhile Decimal.isDigit
  let rest := cs.dropWhile Decimal.isDigit
  if whole.isEmpty || (whole.head? == some '0' && 1 < whole.length) then none
  else
    let (places, dangling, rest) := match rest with
      | '.' :: cs =>
        let places := cs.takeWhile Decimal.isDigit
        (places, places.isEmpty, cs.dropWhile Decimal.isDigit)
      | cs => ([], false, cs)
    if dangling then none
    else
      let literal (power : Option Int) : Literal :=
        { negative, whole := digitsOf whole, places := digitsOf places, power }
      match rest with
      | c :: more =>
        if c == 'e' || c == 'E' then
          let (down, more) := Decimal.takeSign more
          let digits := more.takeWhile Decimal.isDigit
          (Decimal.readNat 10 digits).map fun n =>
            (literal (some (if down then -n else n)), more.dropWhile Decimal.isDigit)
        else some (literal none, rest)
      | [] => some (literal none, [])

def ofNumber? : Option Number → Node
  | none => .refused
  | some n => .leaf { value := some n.text, number := some n.toFloat, whole := n.whole? }

def ofString? : Option String → Node
  | none => .refused
  | some s => .leaf { text := some s, value := some s }

def ofFlag (b : Bool) : Node :=
  .leaf { value := some (if b then "true" else "false"), flag := some b }

def nullNode : Node :=
  .leaf { value := some "", absent := some true }

/-- Collections may be nested this deep. -/
def maxDepth : Nat := 127

/-- A collection inside `depth` others. -/
def nested (depth : Nat) (n : Node) : Node :=
  if depth < maxDepth then n else .refused

mutual

/-- Reads one value; the fuel is the length of what is left. -/
def readValue : Nat → Nat → List Char → Option (Node × List Char)
  | 0, _, _ => none
  | fuel + 1, depth, cs =>
    match skipSpace cs with
    | '"' :: cs => (readString (cs.length + 1) cs [] true).map fun (s, rest) => (ofString? s, rest)
    | '[' :: cs =>
      (readItems fuel (depth + 1) true cs).map fun (items, rest) =>
        (nested depth (.list .exactly false items), rest)
    | '\x7b' :: cs =>
      (readEntries fuel (depth + 1) true cs).map fun (entries, rest) =>
        (nested depth (.map false entries), rest)
    | 't' :: 'r' :: 'u' :: 'e' :: cs => some (ofFlag true, cs)
    | 'f' :: 'a' :: 'l' :: 's' :: 'e' :: cs => some (ofFlag false, cs)
    | 'n' :: 'u' :: 'l' :: 'l' :: cs => some (nullNode, cs)
    | cs => (readLiteral cs).map fun (l, rest) => (ofNumber? l.number?, rest)

def readItems : Nat → Nat → Bool → List Char → Option (List Node × List Char)
  | 0, _, _, _ => none
  | fuel + 1, depth, first, cs =>
    match skipSpace cs with
    | ']' :: cs => if first then some ([], cs) else none
    | cs => do
      let (n, cs) ← readValue fuel depth cs
      match skipSpace cs with
      | ']' :: cs => some ([n], cs)
      | ',' :: cs =>
        match skipSpace cs with
        | ']' :: _ => none
        | cs =>
          let (ns, cs) ← readItems fuel depth false cs
          some (n :: ns, cs)
      | _ => none

def readEntries : Nat → Nat → Bool → List Char → Option (List (Node × Node) × List Char)
  | 0, _, _, _ => none
  | fuel + 1, depth, first, cs =>
    match skipSpace cs with
    | '\x7d' :: cs => if first then some ([], cs) else none
    | '"' :: cs => do
      let (key, cs) ← readString (cs.length + 1) cs [] true
      match skipSpace cs with
      | ':' :: cs =>
        let (n, cs) ← readValue fuel depth cs
        match skipSpace cs with
        | '\x7d' :: cs => some ([(ofString? key, n)], cs)
        | ',' :: cs =>
          let (es, cs) ← readEntries fuel depth false cs
          some ((ofString? key, n) :: es, cs)
        | _ => none
      | _ => none
    | _ => none

end

def readDocument (text : String) : Option Node :=
  let cs := text.toList
  (readValue (2 * cs.length + 2) 0 cs).bind fun (n, rest) =>
    if (skipSpace rest).isEmpty then some n else none

end CustomCommands.Json
