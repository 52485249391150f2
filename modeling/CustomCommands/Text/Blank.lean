/-!
# Blank characters

The characters with the Unicode property `White_Space`, and cutting text at
them. `words` never yields an empty word and never loses a character that is
not blank.
-/

namespace CustomCommands.Text

/-- The twenty-five code points of `White_Space`. -/
def isBlank (c : Char) : Bool :=
  let n := c.toNat
  (0x9 ≤ n && n ≤ 0xD) || n == 0x20 || n == 0x85 || n == 0xA0 || n == 0x1680 ||
    (0x2000 ≤ n && n ≤ 0x200A) || n == 0x2028 || n == 0x2029 || n == 0x202F ||
    n == 0x205F || n == 0x3000

def trimStart (cs : List Char) : List Char :=
  cs.dropWhile isBlank

def trimEnd (cs : List Char) : List Char :=
  (cs.reverse.dropWhile isBlank).reverse

def trim (cs : List Char) : List Char :=
  trimEnd (trimStart cs)

def consWord (w : List Char) (ws : List (List Char)) : List (List Char) :=
  if w.isEmpty then ws else w :: ws

/-- The word that the text starts with, empty at a blank, and the words after it. -/
def wordsFrom : List Char → List Char × List (List Char)
  | [] => ([], [])
  | c :: cs =>
    let (w, ws) := wordsFrom cs
    if isBlank c then ([], consWord w ws) else (c :: w, ws)

/-- The maximal runs of characters that are not blank. -/
def words (cs : List Char) : List (List Char) :=
  let (w, ws) := wordsFrom cs
  consWord w ws

/-- The text up to the first blank, and what follows that blank. -/
def splitBlank : List Char → List Char × List Char
  | [] => ([], [])
  | c :: cs =>
    if isBlank c then ([], cs)
    else
      let (w, rest) := splitBlank cs
      (c :: w, rest)

end CustomCommands.Text
