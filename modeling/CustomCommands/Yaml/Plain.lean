import CustomCommands.Yaml.Folding

/-!
# Plain scalars

A plain scalar ends at a colon before a gap, at a comment, at a document
marker, and outside brackets at a line that is not indented more than its
parent; inside brackets it ends at the brackets and commas as well.
-/

namespace CustomCommands.Yaml

def isFlowIndicator (c : Char) : Bool :=
  c == ',' || c == '[' || c == ']' || c == '\x7b' || c == '\x7d'

/-- The run of characters up to a gap or the scalar's end. Inside brackets a colon right before a
bracket, a comma or a question mark is an error. -/
def plainRun (inFlow : Bool) : List Char → Option (List Char)
  | [] => some []
  | c :: cs =>
    if isSpace c || isBreak c then some []
    else if c == ':' && atGap cs then some []
    else if c == ':' && inFlow && (cs.head?.any fun d => isFlowIndicator d || d == '?') then none
    else if inFlow && isFlowIndicator c then some []
    else (plainRun inFlow cs).map (c :: ·)

/-- Reads on from a place where the gap `g` has just been read. Gives the text, newest character
first, the gap that was open when the scalar ended, and where it ended. The fuel is the length of
what is left. -/
def readPlainFrom (inFlow : Bool) (indent : Nat) :
    Nat → List Char → Gap → Cursor → Option (List Char × Gap × Cursor)
  | 0, acc, g, c => some (acc, g, c)
  | fuel + 1, acc, g, c =>
    if c.atMarkerLine || c.rest.head? == some '#' then some (acc, g, c)
    else
      (plainRun inFlow c.rest).bind fun run =>
        let (acc, g) := if run.isEmpty then (acc, g) else (run.reverse ++ g.text.reverse ++ acc, {})
        let c := c.skipN run.length
        match c.rest with
        | [] => some (acc, g, c)
        | ch :: _ =>
          if isSpace ch || isBreak ch then
            (Gap.read indent (c.rest.length + 1) g c).bind fun (g, c) =>
              if !inFlow && c.column < indent then some (acc, g, c)
              else readPlainFrom inFlow indent fuel acc g c
          else some (acc, g, c)

/-- Reads a plain scalar whose lines stand at column `indent` or more. Tells whether it ended past
a line break. -/
def readPlain (inFlow : Bool) (indent : Nat) (c : Cursor) : Option (String × Bool × Cursor) :=
  (readPlainFrom inFlow indent (c.rest.length + 1) [] {} c).map fun (acc, g, c) =>
    (String.ofList acc.reverse, g.broken, c)

end CustomCommands.Yaml
