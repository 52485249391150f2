import CustomCommands.Text.EmojiTable
import CustomCommands.Text.Ranges
import CustomCommands.Text.WidthTable

/-!
# Joining

Characters that are drawn as one sign: ligatures of Arabic, Hebrew, Khmer and
other scripts, flags, and emoji that a joiner ties together. Text is read from
its end, so `Behind` says what a character stands in front of, and `Behind.join?`
how many columns it adds to that if the two join.
-/

namespace CustomCommands.Text

def zeroWidthJoiner : Char := '\u200D'

inductive LigatureEnd where
  | alef
  | lamed
  | ya
  /-- A Buginese vowel sign i that is joined to a ya. -/
  | signYa
  | consonant
  /-- A Tifinagh consonant with a consonant joiner before it. -/
  | linkedConsonant
  | toneLetter
  | orkhonI
  | coengLetter
  deriving DecidableEq, Repr

namespace LigatureEnd

def alefRanges : List (Nat × Nat) :=
  [(0x622, 0x623), (0x625, 0x625), (0x627, 0x627), (0x671, 0x673), (0x675, 0x675), (0x773, 0x774),
  (0x870, 0x882)]

def lamRanges : List (Nat × Nat) :=
  [(0x644, 0x644), (0x6B5, 0x6B8), (0x76A, 0x76A), (0x8A6, 0x8A6), (0x8C7, 0x8C7)]

/-- The Khmer letters that are written below another behind a coeng. -/
def coengLetterRanges : List (Nat × Nat) :=
  [(0x1780, 0x1782), (0x1784, 0x1787), (0x1789, 0x178C), (0x178E, 0x1793), (0x1795, 0x1798),
  (0x179B, 0x179D), (0x17A0, 0x17A0), (0x17A2, 0x17A2), (0x17A7, 0x17A7), (0x17AB, 0x17AC),
  (0x17AF, 0x17AF)]

def consonantRanges : List (Nat × Nat) :=
  [(0x2D31, 0x2D65), (0x2D6F, 0x2D6F)]

/-- The ligature that a character can end. -/
def ofChar? (c : Char) : Option LigatureEnd :=
  let n := c.toNat
  if n == 0x5DC then some lamed
  else if inRanges alefRanges n then some alef
  else if inRanges coengLetterRanges n then some coengLetter
  else if n == 0x1A10 then some ya
  else if inRanges consonantRanges n then some consonant
  else if n == 0xA4FC || n == 0xA4FD then some toneLetter
  else if n == 0x10C03 then some orkhonI
  else none

/-- The marks without width that may stand inside a ligature. -/
def markRanges : List (Nat × Nat) :=
  [(0x34F, 0x34F), (0x17B4, 0x17B5), (0x180B, 0x180D), (0x180F, 0x180F), (0xFE00, 0xFE0F),
  (0xE0100, 0xE01EF)]

/-- Does an Arabic ligature reach over the character? -/
def isTransparent (n : Nat) : Bool :=
  inRanges zeroWidthRanges n && !inRanges joinBreakerRanges n

end LigatureEnd

/-- What stands behind a character, as far as the character may join it. -/
inductive Behind where
  | plain
  | lineFeed
  /-- The end of a ligature. With `joined` a joiner stands in front of it. -/
  | ligature (l : LigatureEnd) (joined : Bool)
  /-- A modifier of skin colour. -/
  | modifier
  /-- One regional indicator. -/
  | region
  | regions
  | emoji
  /-- A joiner in front of an emoji. -/
  | joiner
  /-- A keycap in front of a joiner. -/
  | keycap
  /-- A regional indicator in front of a joiner, and a run of them of even or odd length. -/
  | joinedRegion
  | evenRegions
  | oddRegions
  /-- The end of a flag's tags, of which `letters` letters or `digits` digits have been read. -/
  | tags (letters digits : Nat)
  deriving DecidableEq, Repr

def isRegion (n : Nat) : Bool :=
  0x1F1E6 ≤ n && n ≤ 0x1F1FF

def isModifier (n : Nat) : Bool :=
  0x1F3FB ≤ n && n ≤ 0x1F3FF

def isTagLetter (n : Nat) : Bool :=
  0xE0061 ≤ n && n ≤ 0xE007A

def isTagDigit (n : Nat) : Bool :=
  0xE0030 ≤ n && n ≤ 0xE0039

namespace Behind

def isLigature : Behind → Bool
  | ligature .. => true
  | _ => false

def takesJoiner : Behind → Bool
  | emoji | regions | evenRegions | oddRegions | modifier => true
  | _ => false

def joinLigature? (c : Char) (joined : Bool) : LigatureEnd → Option (Int × Behind)
  | .alef =>
    if inRanges LigatureEnd.lamRanges c.toNat then some (0, plain)
    else if LigatureEnd.isTransparent c.toNat then some (0, ligature .alef joined)
    else none
  | l =>
    if c = zeroWidthJoiner then some (0, ligature l true)
    else if inRanges LigatureEnd.markRanges c.toNat then some (0, ligature l joined)
    else
      match l, joined, c.toNat with
      | .lamed, true, 0x5D0 => some (0, plain)
      | .coengLetter, _, 0x17D2 => some (-1, plain)
      | .ya, true, 0x1A17 => some (0, ligature .signYa false)
      | .signYa, _, 0x1A15 => some (0, plain)
      | .orkhonI, true, 0x10C32 => some (0, plain)
      | .consonant, _, 0x2D7F => some (1, ligature .linkedConsonant false)
      | .consonant, true, n => if inRanges LigatureEnd.consonantRanges n then some (0, plain) else none
      | .linkedConsonant, _, n =>
        if inRanges LigatureEnd.consonantRanges n then some (-1, plain) else none
      | .toneLetter, _, n => if 0xA4F8 ≤ n && n ≤ 0xA4FB then some (0, plain) else none
      | _, _, _ => none

def joinJoiner? (n : Nat) : Option (Int × Behind) :=
  if n == 0x20E3 then some (0, keycap)
  else if isRegion n then some (1, joinedRegion)
  else if isModifier n then some (0, modifier)
  else if n == 0xE007F then some (0, tags 0 0)
  else if inRanges emojiRanges n then some (0, emoji)
  else none

/-- A flag's tags end in up to six letters, or in up to four letters behind three digits. -/
def joinTags? (n letters digits : Nat) : Option (Int × Behind) :=
  if n == 0x1F3F4 && (if digits == 0 then 3 ≤ letters else digits == 3) then some (0, emoji)
  else if isTagLetter n && digits == 0 && letters < 6 then some (0, tags (letters + 1) 0)
  else if isTagDigit n && letters ≤ 4 && digits < 3 then some (0, tags 0 (digits + 1))
  else none

/-- The columns that a character adds to what it joins, and what stands there then; `none` if it
joins nothing. -/
def join? (c : Char) (b : Behind) : Option (Int × Behind) :=
  let n := c.toNat
  if c = zeroWidthJoiner && b.takesJoiner then some (0, joiner)
  else
    match b with
    | ligature l joined => joinLigature? c joined l
    | modifier => if inRanges modifierBaseRanges n then some (0, emoji) else none
    | region | regions => if isRegion n then some (1, regions) else none
    | joiner => joinJoiner? n
    | joinedRegion | oddRegions => if isRegion n then some (-1, evenRegions) else none
    | evenRegions => if isRegion n then some (3, oddRegions) else none
    | tags letters digits => joinTags? n letters digits
    | plain | lineFeed | emoji | keycap => none

end Behind

end CustomCommands.Text
