import CustomCommands.Decimal.Reader

/-!
# Identifiers

A player's identifier is a number of 128 bits. It is written in lower-case
hexadecimal in five groups; bare digits, braces and the `urn:uuid:` form, in any
letter case, are read as well.
-/

namespace CustomCommands

structure Uuid where
  value : Nat
  deriving DecidableEq, Repr, Inhabited

namespace Uuid

/-- An identifier of version 4 made of the low 122 bits of `n`. -/
def ofRandom (n : Nat) : Uuid :=
  let high := n / Nat.pow 2 74 % Nat.pow 2 48
  let middle := n / Nat.pow 2 62 % Nat.pow 2 12
  ⟨high * Nat.pow 2 80 + 4 * Nat.pow 2 76 + middle * Nat.pow 2 64 + 2 * Nat.pow 2 62 + n % Nat.pow 2 62⟩

def hex (count n : Nat) : List Char :=
  let digits := Nat.toDigits 16 n
  List.replicate (count - digits.length) '0' ++ digits

/-- Cuts `cs` into groups of the given sizes, with hyphens between them. -/
def group : List Nat → List Char → List Char
  | [], _ => []
  | [n], cs => cs.take n
  | n :: ns, cs => cs.take n ++ '-' :: group ns (cs.drop n)

def groups : List Nat := [8, 4, 4, 4, 12]

def text (u : Uuid) : String :=
  String.ofList (group groups (hex 32 u.value))

/-- Thirty-two digits. -/
def ofSimple? (cs : List Char) : Option Uuid :=
  if cs.length == 32 then (Decimal.readNat 16 cs).map Uuid.mk else none

/-- Removes the hyphens between groups of the given sizes. -/
def ungroup? : List Nat → List Char → Option (List Char)
  | [], cs => if cs.isEmpty then some [] else none
  | [n], cs => if cs.length == n then some cs else none
  | n :: ns, cs =>
    match cs.drop n with
    | '-' :: rest => (ungroup? ns rest).map (cs.take n ++ ·)
    | _ => none

def ofHyphenated? (cs : List Char) : Option Uuid :=
  (ungroup? groups cs).bind ofSimple?

def ofText? (s : String) : Option Uuid :=
  let cs := s.toList
  let urn := "urn:uuid:".toList
  if cs.length == 32 then ofSimple? cs
  else if cs.length == 38 && cs.head? == some '{' && cs.getLast? == some '}' then
    ofHyphenated? ((cs.drop 1).take 36)
  else if cs.length == 45 && (cs.take 9).map Char.toLower == urn then ofHyphenated? (cs.drop 9)
  else ofHyphenated? cs

/-- The identifier of sixteen bytes, the most significant first. -/
def ofBytes? (bytes : List Int) : Option Uuid :=
  if 16 ≤ bytes.length && (bytes.take 16).all (fun b => 0 ≤ b && b ≤ 255) then
    some ⟨(bytes.take 16).foldl (fun n b => n * 256 + b.toNat) 0⟩
  else none

end Uuid

end CustomCommands
