/-!
# Paths

Paths are texts with slashes between their parts. The parts `.` and an empty one
stand for the directory itself, `..` for the one around it.
-/

namespace CustomCommands.Path

def isAbsolute (p : String) : Bool :=
  p.toList.head? == some '/'

/-- `p` as seen from `base`. -/
def join (base p : String) : String :=
  if isAbsolute p || base.isEmpty then p
  else if base.toList.getLast? == some '/' then base ++ p
  else base ++ "/" ++ p

def pieces : List Char → List (List Char)
  | [] => [[]]
  | c :: cs =>
    if c == '/' then [] :: pieces cs
    else
      match pieces cs with
      | [] => [[c]]
      | w :: ws => (c :: w) :: ws

/-- Does the piece stand for the directory itself? -/
def isHere (w : List Char) : Bool :=
  w.isEmpty || w == ['.']

/-- Does the piece stand for the directory around? -/
def isAround (w : List Char) : Bool :=
  w == ['.', '.']

/-- A name has at most 255 octets. -/
def isTooLongName (w : List Char) : Bool :=
  255 < (String.ofList w).utf8ByteSize

/-- A path has fewer than 4096 octets. -/
def isTooLong (p : String) : Bool :=
  4096 ≤ p.utf8ByteSize

/-- The last part that is not the directory itself, unless it is `..`. -/
def fileName? (p : String) : Option String :=
  match ((pieces p.toList).reverse.dropWhile isHere).head? with
  | some w => if isAround w then none else some (String.ofList w)
  | none => none

/-- A name without what follows its last point, and that; a point at the start divides nothing. -/
def splitName (name : String) : String × Option String :=
  let cs := name.toList.reverse
  let after := cs.takeWhile (· != '.')
  let before := (cs.dropWhile (· != '.')).drop 1
  if before.isEmpty then (name, none)
  else (String.ofList before.reverse, some (String.ofList after.reverse))

def stem? (p : String) : Option String :=
  (fileName? p).map fun n => (splitName n).1

def extension? (p : String) : Option String :=
  (fileName? p).bind fun n => (splitName n).2

def trimEnd (ws : List (List Char)) : List (List Char) :=
  (ws.reverse.dropWhile isHere).reverse

/-- The path of the directory around `p`, empty for a lone name; `none` if there is none. -/
def parent? (p : String) : Option String :=
  let ws := pieces p.toList
  match trimEnd ws with
  | [] => if !isAbsolute p && ws.any (· == ['.']) then some "" else none
  | kept =>
    let around := kept.dropLast
    match trimEnd around with
    | [] =>
      if isAbsolute p then some "/"
      else if around.head? == some ['.'] then some "." else some ""
    | ws => some (String.ofList ("/".toList.intercalate ws))

/-- What a path passes, from its first part to the whole path. -/
def beginnings (p : String) : List String :=
  let ws := pieces p.toList
  (List.range ws.length).map fun i =>
    String.ofList (['/'].intercalate (ws.take (i + 1)))

/-- A path, the path of the directory around it, and so on, at most `n` steps outward. -/
def outwardSteps : Nat → String → List String
  | 0, p => [p]
  | n + 1, p =>
    match parent? p with
    | some q => p :: outwardSteps n q
    | none => [p]

/-- A path and the paths of the directories around it. Every step takes off a piece, so their
number bounds the steps. -/
def outward (p : String) : List String :=
  outwardSteps (pieces p.toList).length p

end CustomCommands.Path
