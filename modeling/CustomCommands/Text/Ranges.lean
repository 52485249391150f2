/-!
# Ranges of characters

Classes of characters are kept as lists of ranges of code points, both ends
included.
-/

namespace CustomCommands.Text

def inRanges (ranges : List (Nat × Nat)) (n : Nat) : Bool :=
  ranges.any fun (lo, hi) => lo ≤ n && n ≤ hi

end CustomCommands.Text
