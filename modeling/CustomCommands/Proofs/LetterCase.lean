import CustomCommands.Text.Lowercase

/-!
# Letters A to Z and all others

Texts that are equal when A to Z are taken as a to z have one lower case
(`lower_eq_of_sameIgnoringCase`), for what lower-casing asks of a character, and of
the characters around it, is the same of a capital A to Z and of its small letter.
The other way round it takes texts of ASCII characters, which lower-casing treats
as A to Z are treated (`sameIgnoringCase_of_lower_eq`).
-/

namespace CustomCommands.Text

/-! ## Capitals A to Z -/

/-- A function that does not tell the capitals A to Z from their small letters tells no character
from what `toLower` makes of it, since it leaves all others. -/
theorem apply_toLower {α : Type} (f : Char → α)
    (capital : ∀ i : Fin 26, f (Char.ofNat (65 + i)).toLower = f (Char.ofNat (65 + i))) (c : Char) :
    f c.toLower = f c := by
  by_cases hc : 65 ≤ c.toNat ∧ c.toNat ≤ 90
  · have h := capital ⟨c.toNat - 65, by omega⟩
    simp only [Nat.add_sub_cancel' hc.1, Char.ofNat_toNat] at h
    exact h
  · congr 1
    unfold Char.toLower
    rw [dif_neg]
    exact fun h => hc ⟨UInt32.le_iff_toNat_le.1 h.1, UInt32.le_iff_toNat_le.1 h.2⟩

theorem toLower_toLower (c : Char) : c.toLower.toLower = c.toLower :=
  apply_toLower Char.toLower (by decide) c

theorem isCased_toLower (c : Char) : isCased c.toLower = isCased c :=
  apply_toLower isCased (by decide +kernel) c

theorem isCaseIgnorable_toLower (c : Char) : isCaseIgnorable c.toLower = isCaseIgnorable c :=
  apply_toLower isCaseIgnorable (by decide +kernel) c

theorem lowerChar_toLower (c : Char) : lowerChar c.toLower = lowerChar c :=
  apply_toLower lowerChar (by decide +kernel) c

theorem beq_of_ascii {c d : Char} (hc : c.toNat < 0x80) (hd : ¬ d.toNat < 0x80) :
    (c == d) = false := by
  rw [beq_eq_false_iff_ne]
  rintro rfl
  exact hd hc

theorem toLower_beq {d : Char} (hd : ¬ d.toNat < 0x80) (c : Char) : (c.toLower == d) = (c == d) := by
  refine apply_toLower (· == d) (fun i => ?_) c
  have hascii : ∀ i : Fin 26, (Char.ofNat (65 + i)).toNat < 0x80 ∧
      (Char.ofNat (65 + i)).toLower.toNat < 0x80 := by decide
  simp only [beq_of_ascii (hascii i).1 hd, beq_of_ascii (hascii i).2 hd]

/-! ## Whole texts -/

theorem meetsCased_map_toLower (cs : List Char) :
    meetsCased (cs.map Char.toLower) = meetsCased cs := by
  have hignorable : isCaseIgnorable ∘ Char.toLower = isCaseIgnorable :=
    funext isCaseIgnorable_toLower
  unfold meetsCased
  rw [List.dropWhile_map, hignorable]
  cases cs.dropWhile isCaseIgnorable with
  | nil => rfl
  | cons c cs => exact isCased_toLower c

theorem lowerAfter_map_toLower (before cs : List Char) :
    lowerAfter (before.map Char.toLower) (cs.map Char.toLower) = lowerAfter before cs := by
  induction cs generalizing before with
  | nil => rfl
  | cons c cs ih =>
    have hsigma := toLower_beq (d := 'Σ') (by decide) c
    have hdotted := toLower_beq (d := 'İ') (by decide) c
    simp only [List.map_cons, lowerAfter, hsigma, hdotted, meetsCased_map_toLower,
      lowerChar_toLower]
    rw [← List.map_cons, ih]

theorem lower_asciiLower (s : String) : lower (asciiLower s) = lower s := by
  rw [lower, lower, asciiLower, String.toList_map]
  exact congrArg String.ofList (lowerAfter_map_toLower [] s.toList)

/-- Texts that are equal up to the case of A to Z have one lower case. -/
theorem lower_eq_of_sameIgnoringCase {a b : String} (h : sameIgnoringCase a b = true) :
    lower a = lower b := by
  rw [sameIgnoringCase, beq_iff_eq] at h
  rw [← lower_asciiLower a, ← lower_asciiLower b, h]

/-! ## ASCII texts -/

/-- Are all characters of the text ASCII? -/
def isAscii (s : String) : Bool :=
  s.toList.all fun c => c.toNat < 0x80

theorem lowerAfter_of_ascii {cs : List Char} (h : ∀ c ∈ cs, c.toNat < 0x80) (before : List Char) :
    lowerAfter before cs = cs.map Char.toLower := by
  induction cs generalizing before with
  | nil => rfl
  | cons c cs ih =>
    have hc := h c List.mem_cons_self
    have hsigma : (c == 'Σ') = false := beq_of_ascii hc (by decide)
    have hdotted : (c == 'İ') = false := beq_of_ascii hc (by decide)
    rw [lowerAfter, ih fun d hd => h d (List.mem_cons_of_mem _ hd)]
    simp only [hsigma, hdotted, Bool.false_eq_true, ↓reduceIte, lowerChar, hc, List.map_cons]

/-- ASCII texts that have one lower case are equal up to the case of A to Z. -/
theorem sameIgnoringCase_of_lower_eq {a b : String} (ha : isAscii a = true) (hb : isAscii b = true)
    (h : lower a = lower b) : sameIgnoringCase a b = true := by
  have hascii {s : String} (hs : isAscii s = true) : lower s = asciiLower s := by
    simp only [isAscii, List.all_eq_true, decide_eq_true_eq] at hs
    rw [lower, lowerChars, lowerAfter_of_ascii hs, ← String.toList_map, String.ofList_toList]
    rfl
  rw [sameIgnoringCase, beq_iff_eq, ← hascii ha, ← hascii hb, h]

end CustomCommands.Text
