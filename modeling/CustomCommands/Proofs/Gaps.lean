import CustomCommands.Text.Replace

/-!
# What stands around a pattern

`Gaps` cuts a text at the finds of a pattern, from left to right and without overlap:
the gaps are what stands before the first, between any two and behind the last.
Every text can be cut so (`exists_gaps`), and what the pattern is replaced by comes
to stand between the gaps (`replaceAll_of_gaps`).
-/

namespace CustomCommands.Text

/-- What stands before, between and behind the finds of a pattern. -/
inductive Gaps (pattern : List Char) : List Char → List (List Char) → Prop where
  | nil : Gaps pattern [] [[]]
  | found {cs : List Char} {gaps : List (List Char)} (rest : Gaps pattern cs gaps) :
      Gaps pattern (pattern ++ cs) ([] :: gaps)
  | kept {c : Char} {cs gap : List Char} {gaps : List (List Char)} (free : ¬ pattern <+: c :: cs)
      (rest : Gaps pattern cs (gap :: gaps)) : Gaps pattern (c :: cs) ((c :: gap) :: gaps)

variable {pattern : List Char} {c : Char} {cs gap : List Char} {gaps : List (List Char)}

/-! ## Cutting -/

theorem Gaps.exists_cons (h : Gaps pattern cs gaps) : ∃ gap more, gaps = gap :: more := by
  cases h <;> exact ⟨_, _, rfl⟩

theorem exists_gaps (hpattern : pattern ≠ []) (cs : List Char) :
    ∃ gaps, Gaps pattern cs gaps := by
  induction hlen : cs.length using Nat.strongRecOn generalizing cs with
  | ind n ih =>
    subst hlen
    by_cases hfound : pattern <+: cs
    · obtain ⟨rest, rfl⟩ := hfound
      have hpos : 0 < pattern.length := List.length_pos_iff.2 hpattern
      have hless : rest.length < (pattern ++ rest).length := by
        rw [List.length_append]
        omega
      obtain ⟨gaps, hgaps⟩ := ih _ hless rest rfl
      exact ⟨[] :: gaps, .found hgaps⟩
    · cases cs with
      | nil => exact ⟨[[]], .nil⟩
      | cons c cs =>
        obtain ⟨gaps, hgaps⟩ := ih cs.length (by simp) cs rfl
        obtain ⟨gap, more, rfl⟩ := hgaps.exists_cons
        exact ⟨(c :: gap) :: more, .kept hfound hgaps⟩

/-- A character that no find begins with is the first of its gap. -/
theorem Gaps.of_free (h : Gaps pattern (c :: cs) gaps) (free : ¬ pattern <+: c :: cs) :
    ∃ gap more, gaps = (c :: gap) :: more ∧ Gaps pattern cs (gap :: more) := by
  generalize hcs : c :: cs = text at h
  cases h with
  | nil => cases hcs
  | found rest => exact absurd (hcs ▸ List.prefix_append pattern _) free
  | kept _ rest =>
    obtain ⟨rfl, rfl⟩ := List.cons.inj hcs
    exact ⟨_, _, rfl, rest⟩

/-- The text begins with its first gap. -/
theorem Gaps.starts (h : Gaps pattern cs (gap :: gaps)) : gap <+: cs := by
  generalize hgaps : gap :: gaps = all at h
  induction h generalizing gap gaps with
  | nil =>
    cases hgaps
    exact List.nil_prefix
  | found =>
    cases hgaps
    exact List.nil_prefix
  | kept _ _ ih =>
    cases hgaps
    exact List.cons_prefix_cons.2 ⟨rfl, ih rfl⟩

/-! ## Replacing -/

theorem rewrite_of_gaps (hpattern : pattern ≠ []) (h : Gaps pattern cs gaps) (out : List Char) :
    rewrite (fun cs => if startsWith cs pattern then some (out, pattern.length) else none) cs =
      out.intercalate gaps := by
  obtain ⟨first, tail, hfirst⟩ := List.exists_cons_of_ne_nil hpattern
  have hlength : pattern.length = tail.length + 1 := by rw [hfirst, List.length_cons]
  induction h with
  | nil => rfl
  | @found cs gaps rest ih =>
    have hgaps : gaps ≠ [] := by
      obtain ⟨gap, more, rfl⟩ := rest.exists_cons
      exact List.cons_ne_nil gap more
    have htext : pattern ++ cs = first :: (tail ++ cs) := by rw [hfirst, List.cons_append]
    have hstarts : startsWith (first :: (tail ++ cs)) pattern = true := by
      rw [startsWith_iff, ← htext]
      exact List.prefix_append pattern cs
    rw [htext, rewrite_of_some (by rw [if_pos hstarts, hlength]), List.drop_left, ih,
      List.intercalate_cons_of_ne_nil hgaps, List.nil_append]
  | @kept c cs gap gaps free rest ih =>
    have hfree : ¬ startsWith (c :: cs) pattern = true := by rwa [startsWith_iff]
    rw [rewrite_of_none (if_neg hfree), ih]
    cases gaps with
    | nil => rfl
    | cons next more => rw [List.intercalate_cons_cons, List.intercalate_cons_cons]; rfl

/-- What a pattern is replaced by comes to stand between the gaps. -/
theorem replaceAll_of_gaps {pattern s : String} (hpattern : pattern ≠ "")
    (h : Gaps pattern.toList s.toList gaps) (out : String) :
    replaceAll pattern out s = String.ofList (out.toList.intercalate gaps) := by
  have hchars : pattern.toList ≠ [] := by simpa using hpattern
  rw [replaceAll, rewrite_of_gaps hchars h]

end CustomCommands.Text
