/-!
# Colour codes

Formatting is written as an ampersand and a code letter, and shown by hosts as a
section sign and the letter. An ampersand before anything else stays.
-/

namespace CustomCommands.Colour

def sectionSign : Char := '§'

def isCode (c : Char) : Bool :=
  "0123456789AaBbCcDdEeFfKkLlMmNnOoRrXx".toList.contains c

def translateChars : List Char → List Char
  | '&' :: c :: cs =>
    if isCode c then sectionSign :: c.toLower :: translateChars cs
    else '&' :: translateChars (c :: cs)
  | c :: cs => c :: translateChars cs
  | [] => []

/-- Turns every code into its section sign form, with a small letter. -/
def translate (s : String) : String :=
  String.ofList (translateChars s.toList)

def stripChars : List Char → List Char
  | [] => []
  | [c] => if c = sectionSign then [] else [c]
  | c :: d :: cs => if c = sectionSign then stripChars cs else c :: stripChars (d :: cs)

/-- Removes every section sign, with the character behind it. -/
def strip (s : String) : String :=
  String.ofList (stripChars s.toList)

end CustomCommands.Colour
