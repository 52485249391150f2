import CustomCommands.Text.CaseTable
import CustomCommands.Text.Ranges

/-!
# Lower case

Full Unicode lower-casing, which names and labels are compared by. It works
character by character except for a capital sigma, whose form depends on
whether a word ends there, and for the dotted capital I, which becomes two
characters. `asciiLower` folds the twenty-six letters only.
-/

namespace CustomCommands.Text

def isCased (c : Char) : Bool :=
  inRanges casedRanges c.toNat

def isCaseIgnorable (c : Char) : Bool :=
  inRanges caseIgnorableRanges c.toNat

def lowerChar (c : Char) : Char :=
  let n := c.toNat
  if n < 0x80 then c.toLower
  else
    match lowercaseRuns.find? fun (lo, hi, step, _) => lo ≤ n && n ≤ hi && (n - lo) % step == 0 with
    | some (_, _, _, offset) => Char.ofNat (Int.toNat (n + offset))
    | none => c

/-- Is the first character that counts for case a letter with case? -/
def meetsCased (cs : List Char) : Bool :=
  match cs.dropWhile isCaseIgnorable with
  | [] => false
  | c :: _ => isCased c

/-- Lower-cases `cs`; `before` holds the characters already passed, nearest first. -/
def lowerAfter (before : List Char) : List Char → List Char
  | [] => []
  | c :: cs =>
    let rest := lowerAfter (c :: before) cs
    if c == 'Σ' then
      (if meetsCased before && !meetsCased cs then 'ς' else 'σ') :: rest
    else if c == 'İ' then 'i' :: '\u0307' :: rest
    else lowerChar c :: rest

def lowerChars (cs : List Char) : List Char :=
  lowerAfter [] cs

/-- The text that stands for every spelling of `s` that differs in letter case. -/
def lower (s : String) : String :=
  String.ofList (lowerChars s.toList)

def asciiLower (s : String) : String :=
  s.map Char.toLower

/-- Are the texts equal when the letters A to Z are taken as a to z? -/
def sameIgnoringCase (a b : String) : Bool :=
  asciiLower a == asciiLower b

def startsWith : List Char → List Char → Bool
  | _, [] => true
  | [], _ :: _ => false
  | c :: cs, d :: ds => c == d && startsWith cs ds

theorem startsWith_iff {cs ds : List Char} : startsWith cs ds = true ↔ ds <+: cs := by
  induction ds generalizing cs with
  | nil => cases cs <;> simp [startsWith]
  | cons d ds ih =>
    cases cs with
    | nil => simp [startsWith]
    | cons c cs => rw [startsWith, Bool.and_eq_true, beq_iff_eq, ih, List.cons_prefix_cons, eq_comm]

end CustomCommands.Text
