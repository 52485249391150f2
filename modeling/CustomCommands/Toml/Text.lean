import CustomCommands.Decimal.Reader

/-!
# TOML text

White space, comments, keys and the four kinds of string. Each reader takes the
text from where it stands and gives what it read with the rest, or `none` where
the text is malformed.
-/

namespace CustomCommands.Toml

def isSpace (c : Char) : Bool :=
  c == ' ' || c == '\t'

def skipSpace (cs : List Char) : List Char :=
  cs.dropWhile isSpace

def isCommentChar (c : Char) : Bool :=
  c == '\t' || (0x20 ≤ c.toNat && c.toNat ≠ 0x7F)

def skipComment : List Char → List Char
  | '#' :: cs => cs.dropWhile isCommentChar
  | cs => cs

def newline? : List Char → Option (List Char)
  | '\n' :: cs => some cs
  | '\r' :: '\n' :: cs => some cs
  | _ => none

/-- The rest of a line after its last value: space, a comment, and the line's end. -/
def endLine (cs : List Char) : Option (List Char) :=
  match skipComment (skipSpace cs) with
  | [] => some []
  | cs => newline? cs

/-- Skips space, line ends and comments. The fuel is the length of what is left. -/
def skipLines : Nat → List Char → List Char
  | 0, cs => cs
  | fuel + 1, cs =>
    match skipSpace cs with
    | '#' :: more => skipLines fuel (more.dropWhile isCommentChar)
    | cs =>
      match newline? cs with
      | some rest => skipLines fuel rest
      | none => cs

/-! ## Strings -/

/-- The character whose code point has exactly `count` hexadecimal digits. -/
def readCodePoint (count : Nat) (cs : List Char) : Option (Char × List Char) :=
  let digits := cs.take count
  if digits.length < count then none
  else
    (Decimal.readNat 16 digits).bind fun n =>
      if n.isValidChar then some (Char.ofNat n, cs.drop count) else none

/-- The character of an escape, past its backslash. -/
def readEscape : List Char → Option (Char × List Char)
  | 'b' :: cs => some ('\x08', cs)
  | 'f' :: cs => some ('\x0c', cs)
  | 'n' :: cs => some ('\n', cs)
  | 'r' :: cs => some ('\r', cs)
  | 't' :: cs => some ('\t', cs)
  | '"' :: cs => some ('"', cs)
  | '\\' :: cs => some ('\\', cs)
  | 'u' :: cs => readCodePoint 4 cs
  | 'U' :: cs => readCodePoint 8 cs
  | _ => none

def isLiteralChar (c : Char) : Bool :=
  isCommentChar c && c != '\''

def readBasic : Nat → List Char → List Char → Option (String × List Char)
  | 0, _, _ => none
  | _ + 1, acc, '"' :: cs => some (String.ofList acc.reverse, cs)
  | fuel + 1, acc, '\\' :: cs => (readEscape cs).bind fun (c, rest) => readBasic fuel (c :: acc) rest
  | fuel + 1, acc, c :: cs => if isCommentChar c then readBasic fuel (c :: acc) cs else none
  | _ + 1, _, [] => none

def readLiteral (cs : List Char) : Option (String × List Char) :=
  match cs.dropWhile isLiteralChar with
  | '\'' :: rest => some (String.ofList (cs.takeWhile isLiteralChar), rest)
  | _ => none

/-- Skips space and line ends after a backslash that ends a line; there must be a line end. -/
def skipFold : Nat → Bool → List Char → Option (List Char)
  | 0, _, _ => none
  | fuel + 1, broken, cs =>
    match newline? (skipSpace cs) with
    | some rest => skipFold fuel true rest
    | none => if broken then some (skipSpace cs) else none

def quoteRun (q : Char) (cs : List Char) : Nat :=
  (cs.takeWhile (· == q)).length

/-- Reads a string between triple quotes, past the opening ones; one or two more quotes may stand
before the closing three. -/
def readMultiline (q : Char) (escapes : Bool) :
    Nat → List Char → List Char → Option (String × List Char)
  | 0, _, _ => none
  | _ + 1, _, [] => none
  | fuel + 1, acc, c :: cs =>
    if c == q then
      let run := quoteRun q (c :: cs)
      if run < 3 then readMultiline q escapes fuel (List.replicate run q ++ acc) (cs.drop (run - 1))
      else if run ≤ 5 then
        some (String.ofList (List.replicate (run - 3) q ++ acc).reverse, cs.drop (run - 1))
      else none
    else if c == '\\' && escapes then
      match skipFold (cs.length + 1) false cs with
      | some rest => readMultiline q escapes fuel acc rest
      | none => (readEscape cs).bind fun (c, rest) => readMultiline q escapes fuel (c :: acc) rest
    else
      match newline? (c :: cs) with
      | some rest => readMultiline q escapes fuel ('\n' :: acc) rest
      | none => if isCommentChar c then readMultiline q escapes fuel (c :: acc) cs else none

def dropFirstNewline (cs : List Char) : List Char :=
  (newline? cs).getD cs

def readString : List Char → Option (String × List Char)
  | '"' :: '"' :: '"' :: cs => readMultiline '"' true (cs.length + 1) [] (dropFirstNewline cs)
  | '\'' :: '\'' :: '\'' :: cs => readMultiline '\'' false (cs.length + 1) [] (dropFirstNewline cs)
  | '"' :: cs => readBasic (cs.length + 1) [] cs
  | '\'' :: cs => readLiteral cs
  | _ => none

/-! ## Keys -/

def isBareKeyChar (c : Char) : Bool :=
  c.isAlphanum || c == '-' || c == '_'

def readSimpleKey : List Char → Option (String × List Char)
  | '"' :: cs => readBasic (cs.length + 1) [] cs
  | '\'' :: cs => readLiteral cs
  | cs =>
    let key := cs.takeWhile isBareKeyChar
    if key.isEmpty then none else some (String.ofList key, cs.dropWhile isBareKeyChar)

/-- Keys with points between them, with space around each. -/
def readKeyParts : Nat → List Char → Option (List String × List Char)
  | 0, _ => none
  | fuel + 1, cs => do
    let (key, cs) ← readSimpleKey (skipSpace cs)
    match skipSpace cs with
    | '.' :: cs =>
      let (keys, cs) ← readKeyParts fuel cs
      some (key :: keys, cs)
    | cs => some ([key], cs)

/-- Collections may be nested less deep than this, and a key has fewer parts. -/
def depthLimit : Nat := 80

/-- A dotted key and the space behind it. -/
def readKey (cs : List Char) : Option (List String × List Char) :=
  (readKeyParts (cs.length + 1) cs).bind fun (keys, rest) =>
    if keys.length < depthLimit then some (keys, rest) else none

end CustomCommands.Toml
