import CustomCommands.Text.Joining

/-!
# Width

How many columns a text takes on a terminal. A character of the control set
takes one; any other takes what its class says, unless it joins what stands
behind it or a variation selector behind it chooses how it is drawn.
-/

namespace CustomCommands.Text

def charWidth (c : Char) : Nat :=
  let n := c.toNat
  if n ≤ 0xA0 then 1
  else if n == 0x17D8 then 3
  else if inRanges zeroWidthRanges n then 0
  else if inRanges wideRanges n then 2
  else 1

/-- How a variation selector asks for a character to be drawn. -/
inductive Presentation where
  | text
  | emoji
  deriving DecidableEq, Repr

def Presentation.ofSelector? (c : Char) : Option Presentation :=
  if c.toNat == 0xFE0E then some .text else if c.toNat == 0xFE0F then some .emoji else none

def isSelectable (c : Char) : Bool :=
  inRanges selectableRanges c.toNat

/-- Can a selector have the character drawn as a text sign and no longer as an emoji? The squared
ideographs stay as wide as they are. -/
def isNarrowable (c : Char) : Bool :=
  isSelectable c && inRanges emojiRanges c.toNat && !(0x1F200 ≤ c.toNat && c.toNat ≤ 0x1F2FF)

/-- What a character stands in front of: what it may join, and a selector that has met no character
yet. -/
structure Context where
  behind : Behind := .plain
  selector : Option Presentation := none
  deriving DecidableEq, Repr

namespace Context

/-- What a character that joins nothing leaves to the one before it. -/
def ofChar (c : Char) : Context :=
  let n := c.toNat
  if c = '\n' then { behind := .lineFeed }
  else if isModifier n then { behind := .modifier }
  else if isRegion n then { behind := .region }
  else if inRanges emojiRanges n then { behind := .emoji }
  else
    match LigatureEnd.ofChar? c with
    | some l => { behind := .ligature l false }
    | none => { selector := Presentation.ofSelector? c }

/-- Drops a selector that the character before it has no use for. -/
def settle (x : Context) : Context :=
  match x.selector with
  | none => x
  | some _ => if x.behind.isLigature then { x with selector := none } else {}

/-- Sets a selector in front. It may stand inside a ligature, and one for an emoji inside a chain of
joined emoji; else it parts what is around it. -/
def select (p : Presentation) (x : Context) : Context :=
  let stays :=
    x.behind.isLigature || (p == .emoji && (x.behind == .joiner || x.behind == .keycap))
  if stays then { x with selector := some p } else { selector := some p }

/-- The columns that a character adds where no selector bears on it. -/
def stepPlain (c : Char) (x : Context) : Int × Context :=
  if c = '\r' && x.behind == .lineFeed then (0, {})
  else
    match if c.toNat ≤ 0xA0 then none else x.behind.join? c with
    | some (columns, behind) => (columns, { behind })
    | none => (charWidth c, ofChar c)

/-- The columns that a character adds, and what the one before it stands in front of. -/
def step (c : Char) (x : Context) : Int × Context :=
  if x.selector == some .emoji && isSelectable c then
    (if x.behind == .joiner || x.behind == .keycap then 0 else 2, { behind := .emoji })
  else if x.selector == some .text && isNarrowable c then (1, {})
  else
    match Presentation.ofSelector? c with
    | some p => (0, x.settle.select p)
    | none => x.settle.stepPlain c

end Context

/-- The columns of a text, and what it begins with. -/
def measure (cs : List Char) : Int × Context :=
  cs.foldr
    (fun c (columns, x) =>
      let (more, x) := x.step c
      (columns + more, x))
    (0, {})

def width (cs : List Char) : Nat :=
  (measure cs).1.toNat

end CustomCommands.Text
