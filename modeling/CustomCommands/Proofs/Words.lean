import CustomCommands.Proofs.LetterCase
import CustomCommands.Text.Blank

/-!
# Words and the blanks between them

`Spaced` says what the words of a text are: runs without blanks, each as long as it
can be, with only blanks before, between and after them. Cutting a text finds just
those (`words_eq_iff`). More blanks where there is one already, or at an end, leave
them as they are (`words_append_blanks`), and so does the case of A to Z
(`words_map_toLower`).
-/

namespace CustomCommands.Text

def AllBlank (cs : List Char) : Prop :=
  ∀ c ∈ cs, isBlank c = true

def Solid (cs : List Char) : Prop :=
  ∀ c ∈ cs, isBlank c = false

instance (cs : List Char) : Decidable (AllBlank cs) :=
  List.decidableBAll (fun c => isBlank c = true) cs

instance (cs : List Char) : Decidable (Solid cs) :=
  List.decidableBAll (fun c => isBlank c = false) cs

theorem allBlank_nil : AllBlank [] := nofun

/-- No word goes on where the text begins. -/
def AtGap (cs : List Char) : Prop :=
  ∀ c ∈ cs.head?, isBlank c = true

/-- The words of a text. -/
inductive Spaced : List Char → List (List Char) → Prop where
  | blanks {bs : List Char} (blank : AllBlank bs) : Spaced bs []
  | word {bs w rest : List Char} {ws : List (List Char)} (blank : AllBlank bs) (solid : Solid w)
      (nonempty : w ≠ []) (gap : AtGap rest) (more : Spaced rest ws) :
      Spaced (bs ++ w ++ rest) (w :: ws)

variable {c : Char} {cs bs w rest more : List Char} {ws : List (List Char)}

/-! ## Cutting -/

theorem words_eq_consWord (cs : List Char) :
    words cs = consWord (wordsFrom cs).1 (wordsFrom cs).2 := rfl

theorem words_cons_of_blank (h : isBlank c = true) : words (c :: cs) = words cs := by
  simp only [words, wordsFrom, h, if_true]
  rfl

theorem wordsFrom_append_of_solid (h : Solid w) (rest : List Char) :
    wordsFrom (w ++ rest) = (w ++ (wordsFrom rest).1, (wordsFrom rest).2) := by
  induction w with
  | nil => rfl
  | cons c w ih =>
    obtain ⟨hc, hw⟩ := List.forall_mem_cons.1 h
    rw [List.cons_append, wordsFrom, ih hw]
    simp [hc]

theorem AtGap.wordsFrom (h : AtGap rest) : wordsFrom rest = ([], words rest) := by
  cases rest with
  | nil => rfl
  | cons c cs =>
    have hc : isBlank c = true := h c rfl
    rw [words_cons_of_blank hc]
    simp only [Text.wordsFrom, hc, if_true]
    rfl

theorem words_append_of_allBlank (h : AllBlank bs) (cs : List Char) :
    words (bs ++ cs) = words cs := by
  induction bs with
  | nil => rfl
  | cons b bs ih =>
    obtain ⟨hb, hbs⟩ := List.forall_mem_cons.1 h
    rw [List.cons_append, words_cons_of_blank hb, ih hbs]

theorem Spaced.words_eq (h : Spaced cs ws) : words cs = ws := by
  induction h with
  | @blanks bs blank =>
    have hnil := words_append_of_allBlank blank []
    rw [List.append_nil] at hnil
    exact hnil
  | @word bs w rest ws blank solid nonempty gap _ ih =>
    rw [List.append_assoc, words_append_of_allBlank blank, words_eq_consWord,
      wordsFrom_append_of_solid solid, gap.wordsFrom, ih, List.append_nil, consWord, if_neg]
    rwa [List.isEmpty_iff]

/-! ## Every text has its words -/

theorem Spaced.of_blanks (hbs : AllBlank bs) (h : Spaced cs ws) : Spaced (bs ++ cs) ws := by
  have hboth {bs' : List Char} (hbs' : AllBlank bs') : AllBlank (bs ++ bs') := fun c hc =>
    (List.mem_append.1 hc).elim (hbs c) (hbs' c)
  cases h with
  | blanks blank => exact .blanks (hboth blank)
  | word blank solid nonempty gap more =>
    rw [← List.append_assoc, ← List.append_assoc]
    exact .word (hboth blank) solid nonempty gap more

theorem Spaced.consWord (hbs : AllBlank bs) (hw : Solid w) (hgap : AtGap rest)
    (h : Spaced rest ws) : Spaced (bs ++ w ++ rest) (consWord w ws) := by
  cases w with
  | nil =>
    rw [List.append_nil]
    exact h.of_blanks hbs
  | cons c w => exact .word hbs hw (List.cons_ne_nil c w) hgap h

/-- What is cut off in front is a run up to the next blank, and the rest has the other words. -/
theorem exists_rest (cs : List Char) :
    ∃ rest, cs = (wordsFrom cs).1 ++ rest ∧ Solid (wordsFrom cs).1 ∧ AtGap rest ∧
      Spaced rest (wordsFrom cs).2 := by
  induction cs with
  | nil => exact ⟨[], rfl, nofun, nofun, .blanks nofun⟩
  | cons c cs ih =>
    obtain ⟨rest, hcs, hsolid, hgap, hrest⟩ := ih
    rw [wordsFrom]
    by_cases hc : isBlank c = true
    · have hblank : AllBlank [c] := by simpa [AllBlank] using hc
      refine ⟨c :: cs, ?_, ?_, ?_, ?_⟩
      · simp [hc]
      · simp [hc, Solid]
      · simpa [AtGap] using hc
      · simp only [hc, if_true]
        have hspaced := Spaced.consWord hblank hsolid hgap hrest
        rwa [List.append_assoc, ← hcs] at hspaced
    · simp only [hc, Bool.false_eq_true, if_false]
      refine ⟨rest, congrArg (c :: ·) hcs, ?_, hgap, hrest⟩
      exact List.forall_mem_cons.2 ⟨Bool.eq_false_iff.2 hc, hsolid⟩

theorem spaced_words (cs : List Char) : Spaced cs (words cs) := by
  obtain ⟨rest, hcs, hsolid, hgap, hrest⟩ := exists_rest cs
  have hspaced := Spaced.consWord allBlank_nil hsolid hgap hrest
  rwa [List.nil_append, ← hcs] at hspaced

theorem Spaced.solid (h : Spaced cs ws) : ∀ w ∈ ws, w ≠ [] ∧ Solid w := by
  induction h with
  | blanks => exact nofun
  | word _ solid nonempty _ _ ih => exact List.forall_mem_cons.2 ⟨⟨nonempty, solid⟩, ih⟩

theorem words_eq_iff : words cs = ws ↔ Spaced cs ws :=
  ⟨fun h => h ▸ spaced_words cs, Spaced.words_eq⟩

/-! ## More blanks -/

theorem consWord_append (w : List Char) (ws vs : List (List Char)) :
    consWord w (ws ++ vs) = consWord w ws ++ vs := by
  unfold consWord
  split <;> rfl

theorem wordsFrom_append_of_blank (h : isBlank c = true) (cs more : List Char) :
    wordsFrom (cs ++ c :: more) = ((wordsFrom cs).1, (wordsFrom cs).2 ++ words more) := by
  induction cs with
  | nil =>
    simp only [List.nil_append, wordsFrom, h, if_true]
    rfl
  | cons d cs ih =>
    rw [List.cons_append, wordsFrom, ih, wordsFrom]
    simp only [consWord_append]
    split <;> rfl

theorem words_append_cons (h : isBlank c = true) (cs more : List Char) :
    words (cs ++ c :: more) = words cs ++ words more := by
  rw [words_eq_consWord, wordsFrom_append_of_blank h]
  exact consWord_append ..

/-- More blanks before a blank, or at the end, make no difference. -/
theorem words_append_blanks (hbs : AllBlank bs) (hmore : AtGap more) (cs : List Char) :
    words (cs ++ bs ++ more) = words (cs ++ more) := by
  have hend : words (cs ++ bs) = words cs := by
    cases bs with
    | nil => rw [List.append_nil]
    | cons b bs =>
      obtain ⟨hb, hbs⟩ := List.forall_mem_cons.1 hbs
      rw [words_append_cons hb, Spaced.words_eq (.blanks hbs), List.append_nil]
  cases more with
  | nil => rwa [List.append_nil, List.append_nil]
  | cons c more =>
    have hc : isBlank c = true := hmore c rfl
    rw [words_append_cons hc, words_append_cons hc, hend]

/-! ## Letter case -/

theorem isBlank_toLower (c : Char) : isBlank c.toLower = isBlank c :=
  apply_toLower isBlank (by decide) c

theorem wordsFrom_map_toLower (cs : List Char) :
    wordsFrom (cs.map Char.toLower) =
      ((wordsFrom cs).1.map Char.toLower, (wordsFrom cs).2.map (List.map Char.toLower)) := by
  induction cs with
  | nil => rfl
  | cons c cs ih =>
    rw [List.map_cons, wordsFrom, ih, wordsFrom]
    simp only [isBlank_toLower, consWord, List.isEmpty_map]
    split
    · split <;> rfl
    · rfl

theorem words_map_toLower (cs : List Char) :
    words (cs.map Char.toLower) = (words cs).map (List.map Char.toLower) := by
  rw [words_eq_consWord, wordsFrom_map_toLower, words_eq_consWord, consWord, consWord,
    List.isEmpty_map]
  split <;> rfl

end CustomCommands.Text
