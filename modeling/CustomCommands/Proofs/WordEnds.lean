import CustomCommands.Text.Lowercase
import Mathlib.Data.List.TakeWhile

/-!
# Beginnings in lower case

What a character becomes does not depend on what comes behind it, but for a capital
sigma, which has a form of its own where a word ends (`smallForm`). A text that ends
in a sigma ends a word there, while in a longer text the word may go on. So the lower
case of a beginning begins the lower case of the whole, unless the beginning cuts a
word behind a sigma (`lowerChars_prefix_iff`).
-/

namespace CustomCommands.Text

/-- The beginning `part` of `part ++ rest`, behind `before`, cuts a word at a capital sigma: what
follows the sigma in `part` does not count for case, a letter comes before it, and the next
character of the rest that counts is a letter as well. -/
def CutsAfter (before part rest : List Char) : Prop :=
  ∃ inner ignored, part = inner ++ 'Σ' :: ignored ∧ (∀ c ∈ ignored, isCaseIgnorable c = true) ∧
    meetsCased (inner.reverse ++ before) = true ∧ meetsCased rest = true

def CutsWord (part rest : List Char) : Prop :=
  CutsAfter [] part rest

theorem cutsAfter_cons {c : Char} {before part rest : List Char} :
    CutsAfter before (c :: part) rest ↔
      (c = 'Σ' ∧ meetsCased before = true ∧ (∀ d ∈ part, isCaseIgnorable d = true) ∧
        meetsCased rest = true) ∨ CutsAfter (c :: before) part rest := by
  constructor
  · rintro ⟨inner, ignored, hpart, hignored, hbefore, hrest⟩
    cases inner with
    | nil =>
      obtain ⟨rfl, rfl⟩ := List.cons.inj hpart
      exact .inl ⟨rfl, hbefore, hignored, hrest⟩
    | cons d inner =>
      obtain ⟨rfl, rfl⟩ := List.cons.inj hpart
      exact .inr ⟨inner, ignored, rfl, hignored, by simpa using hbefore, hrest⟩
  · rintro (⟨rfl, hbefore, hignored, hrest⟩ | ⟨inner, ignored, rfl, hignored, hbefore, hrest⟩)
    · exact ⟨[], part, rfl, hignored, hbefore, hrest⟩
    · exact ⟨c :: inner, ignored, rfl, hignored, by simpa using hbefore, hrest⟩

/-- More text matters for what is met only if nothing before it counts. -/
theorem meetsCased_append_ne_iff {cs rest : List Char} :
    meetsCased cs ≠ meetsCased (cs ++ rest) ↔
      (∀ c ∈ cs, isCaseIgnorable c = true) ∧ meetsCased rest = true := by
  unfold meetsCased
  rw [List.dropWhile_append, ← List.dropWhile_eq_nil_iff]
  cases cs.dropWhile isCaseIgnorable with
  | nil => simp
  | cons c cs => simp

/-- What a character becomes behind `before`; `goesOn` tells whether the next character that counts
for case is a letter. -/
def smallForm (before : List Char) (c : Char) (goesOn : Bool) : List Char :=
  if c == 'Σ' then [if meetsCased before && !goesOn then 'ς' else 'σ']
  else if c == 'İ' then ['i', '\u0307']
  else [lowerChar c]

theorem lowerAfter_cons (before : List Char) (c : Char) (cs : List Char) :
    lowerAfter before (c :: cs) =
      smallForm before c (meetsCased cs) ++ lowerAfter (c :: before) cs := by
  rw [lowerAfter, smallForm]
  repeat' split
  all_goals rfl

theorem length_smallForm (before : List Char) (c : Char) (goesOn goesOn' : Bool) :
    (smallForm before c goesOn).length = (smallForm before c goesOn').length := by
  unfold smallForm
  repeat' split
  all_goals rfl

theorem length_lowerAfter_le (before part rest : List Char) :
    (lowerAfter before part).length ≤ (lowerAfter before (part ++ rest)).length := by
  induction part generalizing before with
  | nil => exact Nat.zero_le _
  | cons c part ih =>
    rw [List.cons_append, lowerAfter_cons, lowerAfter_cons, List.length_append, List.length_append,
      length_smallForm before c _ (meetsCased (part ++ rest))]
    exact Nat.add_le_add_left (ih _) _

/-- Only a sigma behind a letter shows whether the word goes on. -/
theorem smallForm_eq_iff {before : List Char} {c : Char} {goesOn goesOn' : Bool} :
    smallForm before c goesOn = smallForm before c goesOn' ↔
      ¬ (c = 'Σ' ∧ meetsCased before = true ∧ goesOn ≠ goesOn') := by
  unfold smallForm
  by_cases hc : c = 'Σ'
  · cases meetsCased before <;> cases goesOn <;> cases goesOn' <;> simp [hc]
  · simp [hc]

theorem lowerAfter_prefix_iff (before part rest : List Char) :
    lowerAfter before part <+: lowerAfter before (part ++ rest) ↔ ¬ CutsAfter before part rest := by
  induction part generalizing before with
  | nil =>
    refine iff_of_true List.nil_prefix ?_
    rintro ⟨inner, ignored, hpart, -⟩
    simp at hpart
  | cons c part ih =>
    rw [List.cons_append, lowerAfter_cons, lowerAfter_cons, cutsAfter_cons, not_or,
      ← meetsCased_append_ne_iff, ← smallForm_eq_iff, ← ih]
    constructor
    · -- both forms of the first character have one length, so the texts part at one place
      rintro ⟨more, hmore⟩
      rw [List.append_assoc] at hmore
      obtain ⟨hform, hrest⟩ := List.append_inj hmore (length_smallForm ..)
      exact ⟨hform, more, hrest⟩
    · rintro ⟨hform, hrest⟩
      rw [hform]
      exact (List.prefix_append_right_inj _).2 hrest

/-- The lower case of a beginning begins that of the whole, unless it cuts a word at a sigma. -/
theorem lowerChars_prefix_iff {part rest : List Char} :
    lowerChars part <+: lowerChars (part ++ rest) ↔ ¬ CutsWord part rest :=
  lowerAfter_prefix_iff [] part rest

instance (part rest : List Char) : Decidable (CutsWord part rest) :=
  decidable_of_iff (¬ lowerChars part <+: lowerChars (part ++ rest))
    (by rw [lowerChars_prefix_iff, not_not])

end CustomCommands.Text
