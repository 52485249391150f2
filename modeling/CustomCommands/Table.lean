import CustomCommands.Text.Width

/-!
# Tables

Tables with a frame of lines and round corners. A cell may have several lines;
a column is as wide as its widest line.
-/

namespace CustomCommands

structure Table where
  header : List String
  rows : List (List String)

namespace Table

abbrev Cell := List (List Char)

def lines : List Char → Cell
  | [] => [[]]
  | c :: cs =>
    if c = '\n' then [] :: lines cs
    else
      match lines cs with
      | [] => [[c]]
      | l :: ls => (c :: l) :: ls

def cells (row : List String) : List Cell :=
  row.map fun s => lines s.toList

def cellWidth (c : Cell) : Nat :=
  (c.map Text.width).foldl max 0

def widths (t : Table) : List Nat :=
  t.rows.foldl (fun ws row => List.zipWith max ws ((cells row).map cellWidth))
    ((cells t.header).map cellWidth)

def filled (c : Char) (n : Nat) : String :=
  String.ofList (List.replicate n c)

def rule (left cross right : String) (widths : List Nat) : String :=
  left ++ cross.intercalate (widths.map fun w => filled '─' (w + 2)) ++ right

/-- A line of a cell, made as wide as its column. -/
def padded (width : Nat) (line : List Char) : String :=
  " " ++ String.ofList line ++ filled ' ' (width - Text.width line) ++ " "

def rowLines (widths : List Nat) (row : List String) : List String :=
  let cs := cells row
  let height := (cs.map List.length).foldl max 0
  (List.range height).map fun i =>
    "│" ++ "│".intercalate (List.zipWith (fun w cell => padded w ((cell[i]?).getD [])) widths cs) ++ "│"

def render (t : Table) : List String :=
  let ws := t.widths
  [rule "╭" "┬" "╮" ws] ++ rowLines ws t.header ++ [rule "├" "┼" "┤" ws]
    ++ t.rows.flatMap (rowLines ws) ++ [rule "╰" "┴" "╯" ws]

end Table

end CustomCommands
