import CustomCommands.Text.Lowercase

/-!
# Replacing a pattern

Every occurrence of a pattern, from left to right and without overlap. What is
put in is not searched again.
-/

namespace CustomCommands.Text

/-- Replaces in `cs` what `find?` recognises at a position: it gives the text to put there and how
many characters it stands for, at least one. `skip` characters still belong to the last find. -/
def rewriteFrom (find? : List Char → Option (List Char × Nat)) : Nat → List Char → List Char
  | _, [] => []
  | skip + 1, _ :: cs => rewriteFrom find? skip cs
  | 0, c :: cs =>
    match find? (c :: cs) with
    | some (out, n) => out ++ rewriteFrom find? (n - 1) cs
    | none => c :: rewriteFrom find? 0 cs

def rewrite (find? : List Char → Option (List Char × Nat)) (cs : List Char) : List Char :=
  rewriteFrom find? 0 cs

section Steps

variable {find? : List Char → Option (List Char × Nat)} {c : Char} {cs : List Char}

theorem rewriteFrom_eq (find? : List Char → Option (List Char × Nat)) (skip : Nat)
    (cs : List Char) : rewriteFrom find? skip cs = rewrite find? (cs.drop skip) := by
  induction cs generalizing skip with
  | nil => cases skip <;> rfl
  | cons c cs ih =>
    cases skip with
    | zero => rfl
    | succ skip => exact ih skip

theorem rewrite_of_some {out : List Char} {n : Nat} (h : find? (c :: cs) = some (out, n + 1)) :
    rewrite find? (c :: cs) = out ++ rewrite find? (cs.drop n) := by
  rw [rewrite, rewriteFrom, h]
  exact congrArg (out ++ ·) (rewriteFrom_eq find? n cs)

theorem rewrite_of_none (h : find? (c :: cs) = none) :
    rewrite find? (c :: cs) = c :: rewrite find? cs := by
  rw [rewrite, rewriteFrom, h]
  rfl

end Steps

/-- Replaces a pattern, which is not empty. -/
def replaceAll (pattern out : String) (s : String) : String :=
  let p := pattern.toList
  String.ofList (rewrite (fun cs => if startsWith cs p then some (out.toList, p.length) else none)
    s.toList)

end CustomCommands.Text
