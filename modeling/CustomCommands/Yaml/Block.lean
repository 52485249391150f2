import CustomCommands.Yaml.Cursor

/-!
# Block scalars

A literal scalar keeps its lines, a folded one joins those that are not
indented further. The header may fix the indentation and what becomes of the
breaks at the end: one stays, or none, or all.
-/

namespace CustomCommands.Yaml

inductive Chomping where
  | clip
  | strip
  | keep
  deriving DecidableEq, Repr

/-- The header past its indicator: chomping and indentation in either order. -/
def readHeader (c : Cursor) : Option (Chomping × Option Nat × Cursor) :=
  let chomp? : Char → Option Chomping
    | '+' => some .keep
    | '-' => some .strip
    | _ => none
  let digit? (ch : Char) : Option Nat :=
    if '0' ≤ ch && ch ≤ '9' then some (ch.toNat - '0'.toNat) else none
  let digit (c : Cursor) : Option (Option Nat × Cursor) :=
    match c.rest.head?.bind digit? with
    | none => some (none, c)
    | some 0 => none
    | some n => some (some n, c.skip)
  match c.rest.head?.bind chomp? with
  | some chomping => (digit c.skip).map fun (n, c) => (chomping, n, c)
  | none =>
    (digit c).map fun (n, c) =>
      match n, c.rest.head?.bind chomp? with
      | some n, some chomping => (chomping, some n, c.skip)
      | n, _ => (.clip, n, c)

/-- Passes empty lines and the indentation of the next line that is not empty. Gives the breaks,
the widest indentation seen, and where that line starts; a tab may not stand in the indentation.
Without a known indentation all leading spaces count. -/
def readBreaks (indent : Option Nat) :
    Nat → List Char → Nat → Cursor → Option (List Char × Nat × Cursor)
  | 0, breaks, widest, c => some (breaks, widest, c)
  | fuel + 1, breaks, widest, c =>
    let spaces := (c.rest.takeWhile (· == ' ')).length
    let c := c.skipN (match indent with
      | none => spaces
      | some n => min spaces (n - c.column))
    let widest := max widest c.column
    let inIndent := indent.all (c.column < ·)
    match c.rest with
    | [] => some (breaks, widest, c)
    | ch :: _ =>
      if inIndent && ch == '\t' then none
      else if isBreak ch then
        let (b, c) := c.takeBreak
        readBreaks indent fuel (breaks ++ b) widest c
      else some (breaks, widest, c)

/-- The lines read so far: the text, newest character first, the last line's break, the breaks
after it, and whether that line started with a blank. -/
structure BlockText where
  text : List Char := []
  lineBreak : List Char := []
  breaks : List Char := []
  blankLine : Bool := false

/-- What joins the next line to the text. -/
def BlockText.joint (folded : Bool) (t : BlockText) (blank : Bool) : List Char :=
  if folded && t.lineBreak.head? == some '\n' && !t.blankLine && !blank then
    if t.breaks.isEmpty then [' '] else t.breaks
  else t.lineBreak ++ t.breaks

/-- Reads the lines that stand at column `indent`. -/
def readBlockLines (folded : Bool) (indent : Nat) : Nat → BlockText → Cursor →
    Option (BlockText × Cursor)
  | 0, t, c => some (t, c)
  | fuel + 1, t, c =>
    match c.rest with
    | [] => some (t, c)
    | ch :: _ =>
      if c.column != indent then some (t, c)
      else
        let blank := isSpace ch
        let line := c.rest.takeWhile fun ch => !isBreak ch
        let (lineBreak, c) := (c.skipN line.length).takeBreak
        (readBreaks (some indent) (c.rest.length + 1) [] 0 c).bind fun (breaks, _, c) =>
          readBlockLines folded indent fuel
            { text := line.reverse ++ (t.joint folded blank).reverse ++ t.text
              lineBreak
              breaks
              blankLine := blank } c

/-- Reads a block scalar from its indicator; `parent` is the column of the block around it, or -1.
-/
def readBlock (folded : Bool) (parent : Int) (c : Cursor) : Option (String × Cursor) := do
  let (chomping, given, c) ← readHeader c.skip
  let c ← c.endLine
  let given := given.map fun n => if 0 ≤ parent then parent.toNat + n else n
  let (breaks, widest, c) ← readBreaks given (c.rest.length + 1) [] 0 c
  let indent := given.getD (max (max widest (parent + 1).toNat) 1)
  let (t, c) ← readBlockLines folded indent (c.rest.length + 1) { breaks } c
  let tail :=
    match chomping with
    | .clip => t.lineBreak
    | .strip => []
    | .keep => t.lineBreak ++ t.breaks
  some (String.ofList (t.text.reverse ++ tail), c)

end CustomCommands.Yaml
