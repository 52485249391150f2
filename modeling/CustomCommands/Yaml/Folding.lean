import CustomCommands.Yaml.Cursor

/-!
# Line folding

What blanks and line breaks between two parts of a scalar become: blanks within
a line stay, a single break becomes a space, and of more breaks the first is
dropped.
-/

namespace CustomCommands.Yaml

/-- The gap since the last character that was kept. -/
structure Gap where
  /-- Blanks, as long as no break has come. -/
  blanks : List Char := []
  /-- The first break, or nothing if it was escaped. -/
  first : List Char := []
  /-- The breaks after the first, newest last. -/
  more : List Char := []
  /-- Has a line ended? -/
  broken : Bool := false

namespace Gap

def text (g : Gap) : List Char :=
  if g.broken then
    if g.first.head? == some '\n' then
      if g.more.isEmpty then [' '] else g.more
    else g.first ++ g.more
  else g.blanks

/-- Takes in the blanks and breaks that come next. In a plain scalar a tab may not stand left of
column `indent` on a new line. The fuel is the length of what is left. -/
def read (indent : Nat) : Nat → Gap → Cursor → Option (Gap × Cursor)
  | 0, g, c => some (g, c)
  | fuel + 1, g, c =>
    match c.rest with
    | [] => some (g, c)
    | ch :: _ =>
      if isSpace ch then
        if g.broken && c.column < indent && ch == '\t' then none
        else if g.broken then read indent fuel g c.skip
        else read indent fuel { g with blanks := g.blanks ++ [ch] } c.skip
      else if isBreak ch then
        let (b, c) := c.takeBreak
        if g.broken then read indent fuel { g with more := g.more ++ b } c
        else read indent fuel { g with blanks := [], first := b, broken := true } c
      else some (g, c)

end Gap

end CustomCommands.Yaml
