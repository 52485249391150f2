import CustomCommands.Decimal.Reader
import CustomCommands.Decimal.Shortest
import CustomCommands.Markup.Node

/-!
# What a YAML scalar says

A plain scalar is a null, a truth value or a number if it is spelled like one.
A whole number keeps its exact value up to 64 bits; beyond that, up to 128 bits,
it cannot be read. Digits after a leading zero are no number.
-/

namespace CustomCommands.Yaml

open Markup

def isNullWord (s : String) : Bool :=
  s == "~" || s == "null" || s == "Null" || s == "NULL"

def flagWord? (s : String) : Option Bool :=
  if s == "true" || s == "True" || s == "TRUE" then some true
  else if s == "false" || s == "False" || s == "FALSE" then some false
  else none

def hasLeadingZero (cs : List Char) : Bool :=
  match (Decimal.takeSign cs).2 with
  | '0' :: d :: ds => (d :: ds).all Decimal.isDigit
  | _ => false

/-- The digits of a whole number in its base, past its sign. -/
def readBased (cs : List Char) : Option Nat :=
  match cs with
  | '0' :: 'x' :: ds => Decimal.readNat 16 ds
  | '0' :: 'o' :: ds => Decimal.readNat 8 ds
  | '0' :: 'b' :: ds => Decimal.readNat 2 ds
  | ds => Decimal.readNat 10 ds

def wholeWord? (cs : List Char) : Option Int :=
  if hasLeadingZero cs then none
  else
    let (negative, digits) := Decimal.takeSign cs
    (readBased digits).map fun n => if negative then -(n : Int) else n

/-- A decimal number; the words for infinity and for no number start with a point. -/
def decimalWord? (s : String) : Option Float :=
  let cs := s.toList
  let unsigned := match cs with
    | '+' :: cs => cs
    | cs => cs
  if s == ".inf" || s == ".Inf" || s == ".INF" || s == "+.inf" || s == "+.Inf" || s == "+.INF" then
    some (Decimal.infinity false)
  else if s == "-.inf" || s == "-.Inf" || s == "-.INF" then some (Decimal.infinity true)
  else if s == ".nan" || s == ".NaN" || s == ".NAN" then some Decimal.notANumber
  else if unsigned.length < cs.length && (unsigned.head? == some '+' || unsigned.head? == some '-')
  then none
  else (Decimal.readFloat unsigned).filter Float.isFinite

/-- Does a whole number fit into `bits` bits, with a sign or without? -/
def fits (bits : Nat) (n : Int) : Bool :=
  if n < 0 then n.natAbs ≤ Nat.pow 2 (bits - 1) else n.natAbs < Nat.pow 2 bits

/-- The text of a whole number that fits; the inner `none` is one that cannot be read. -/
def wholeText? (s : String) : Option (Option String) :=
  (wholeWord? s.toList).bind fun n =>
    if fits 64 n then some (some (toString n)) else if fits 128 n then some none else none

/-- A plain scalar without a tag, as a free value's text. -/
def plainValue (s : String) : Option String :=
  if s.isEmpty || isNullWord s then some ""
  else
    match flagWord? s with
    | some b => some (if b then "true" else "false")
    | none =>
      match wholeText? s with
      | some r => r
      | none =>
        if hasLeadingZero s.toList then some s
        else
          match decimalWord? s with
          | some x => some (Decimal.shortest x)
          | none => some s

def coreTag (name : String) : String :=
  "tag:yaml.org,2002:" ++ name

/-- A scalar with a tag, as a free value's text. A tag of the document's own names no free value. -/
def taggedValue (tag s : String) : Option String :=
  if tag.startsWith "!" then none
  else if tag == coreTag "bool" then (flagWord? s).map fun b => if b then "true" else "false"
  else if tag == coreTag "int" then (wholeText? s).bind id
  else if tag == coreTag "float" then (decimalWord? s).map Decimal.shortest
  else if tag == coreTag "null" then if isNullWord s then some "" else none
  else some s

/-- Does the scalar say that an optional field is absent? -/
def absence (tag : Option String) (s : String) (plain : Bool) : Option Bool :=
  if !plain then some false
  else
    match tag with
    | none => some (s.isEmpty || isNullWord s)
    | some t => if t == coreTag "null" then if isNullWord s then some true else none else some false

def ofScalar (tag : Option String) (s : String) (plain : Bool) : Node :=
  .leaf
    { text := some s
      value :=
        match tag with
        | some t => taggedValue t s
        | none => if plain then plainValue s else some s
      number := if plain then decimalWord? s else none
      absent := absence tag s plain
      blank := plain && s.isEmpty }

def nothing : Node :=
  .leaf { value := some "", absent := some true, blank := true }

end CustomCommands.Yaml
