import CustomCommands.Colour
import CustomCommands.Text.Replace

/-!
# Terminal text

Formatted text as terminals take it: escape sequences before and after each
piece that has a format. A colour code sets the colour and drops all styles, a
style code adds its style, and `r` drops everything; other codes do nothing.
-/

namespace CustomCommands

structure Style where
  bold : Bool := false
  dimmed : Bool := false
  italic : Bool := false
  underlined : Bool := false
  struck : Bool := false
  /-- The colour by the number that terminals know it under. -/
  colour : Option Nat := none
  deriving DecidableEq, Repr

namespace Style

def flag (on : Bool) (number : Nat) : List Nat :=
  if on then [number] else []

/-- The numbers of everything that is set, styles first. -/
def numbers (s : Style) : List Nat :=
  flag s.bold 1 ++ flag s.dimmed 2 ++ flag s.underlined 4 ++ flag s.italic 3 ++ flag s.struck 9
    ++ s.colour.toList

def escape (numbers : String) : String :=
  "\x1b[" ++ numbers ++ "m"

def reset : String := escape "0"

def start (s : Style) : String :=
  escape (";".intercalate (s.numbers.map toString))

/-- Shows a text in a format; a reset within the text is followed by the format again. -/
def paint (coloured : Bool) (s : Style) (text : String) : String :=
  if !coloured || s.numbers.isEmpty then text
  else s.start ++ Text.replaceAll reset (reset ++ s.start) text ++ reset

def colourNumber? : Char → Option Nat
  | '0' => some 30
  | '1' => some 34
  | '2' => some 32
  | '3' => some 36
  | '4' => some 31
  | '5' => some 35
  | '6' => some 33
  | '7' => some 37
  | '8' => some 90
  | '9' => some 94
  | 'a' => some 92
  | 'b' => some 96
  | 'c' => some 91
  | 'd' => some 95
  | 'e' => some 93
  | 'f' => some 97
  | _ => none

/-- The format after a code in any letter case. -/
def after (s : Style) (code : Char) : Style :=
  match code.toLower with
  | 'l' => { s with bold := true }
  | 'o' => { s with italic := true }
  | 'n' => { s with underlined := true }
  | 'm' => { s with struck := true }
  | 'r' => {}
  | c =>
    match colourNumber? c with
    | some n => { colour := some n }
    | none => s

/-! ## Formats of the program's own output -/

def heading : Style := { bold := true, colour := some 36 }

def success : Style := { bold := true, colour := some 32 }

def green : Style := { colour := some 32 }

def yellow : Style := { colour := some 33 }

def red : Style := { colour := some 31 }

def cyan : Style := { colour := some 36 }

def faint : Style := { dimmed := true }

end Style

namespace Terminal

def isOn (setting : Option String) : Bool :=
  setting.any (· != "0")

/-- Are colours wanted? They can be forced, or refused, or turned off; otherwise a terminal has
them. -/
def wantsColour (force refuse colours : Option String) (terminal : Bool) : Bool :=
  isOn force || (refuse.isNone && (colours.all (· != "0")) && terminal)

abbrev Piece := Style × List Char

def consPiece (s : Style) (cs : List Char) (ps : List Piece) : List Piece :=
  if cs.isEmpty then ps else (s, cs) :: ps

/-- What is shown before the next code, and the pieces from there on. -/
def piecesFrom (s : Style) : List Char → List Char × List Piece
  | [] => ([], [])
  | [c] => if c = Colour.sectionSign then ([], []) else ([c], [])
  | c :: d :: cs =>
    if c = Colour.sectionSign then
      let (shown, rest) := piecesFrom (s.after d) cs
      ([], consPiece (s.after d) shown rest)
    else
      let (shown, rest) := piecesFrom s (d :: cs)
      (c :: shown, rest)

def pieces (cs : List Char) : List Piece :=
  let (shown, rest) := piecesFrom {} cs
  consPiece {} shown rest

/-- Shows a text with its codes as formats, or without them. -/
def render (coloured : Bool) (text : String) : String :=
  String.join ((pieces text.toList).map fun (s, cs) => s.paint coloured (String.ofList cs))

end Terminal

end CustomCommands
