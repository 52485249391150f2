import CustomCommands.Colour
import CustomCommands.Proofs.LetterCase
import Mathlib.Data.List.Chain

/-!
# Colour codes in a text

A text splits in one way into codes, an ampersand and a code letter each, and
characters that are kept (`exists_split`, `Split.unique`). Translating it writes the
codes anew and copies the rest (`translateChars_of_split`). In what comes out no
ampersand meets a code letter, since the kept character that follows it was no code
letter and a code now begins with a section sign (`Split.clear`), and a text where
none does is left alone (`translateChars_of_clear`).
-/

namespace CustomCommands.Colour

/-! ## Pieces -/

/-- A piece of a text: a code, or a character that is kept. -/
inductive Piece where
  | code (c : Char)
  | kept (c : Char)

namespace Piece

def source : Piece → List Char
  | .code c => ['&', c]
  | .kept c => [c]

def translated : Piece → List Char
  | .code c => [sectionSign, c.toLower]
  | .kept c => [c]

def kept? : Piece → Option Char
  | .code _ => none
  | .kept c => some c

end Piece

def StartsCode (cs : List Char) : Prop :=
  ∃ c rest, cs = '&' :: c :: rest ∧ isCode c = true

/-- The pieces of a text, from left to right. -/
inductive Split : List Char → List Piece → Prop where
  | nil : Split [] []
  | code {c : Char} {cs : List Char} {pieces : List Piece} (code : isCode c = true)
      (rest : Split cs pieces) : Split ('&' :: c :: cs) (.code c :: pieces)
  | kept {c : Char} {cs : List Char} {pieces : List Piece} (free : ¬ StartsCode (c :: cs))
      (rest : Split cs pieces) : Split (c :: cs) (.kept c :: pieces)

variable {c d : Char} {cs : List Char} {pieces pieces' : List Piece}

theorem Split.source (h : Split cs pieces) : pieces.flatMap Piece.source = cs := by
  induction h with
  | nil => rfl
  | code _ _ ih => rw [List.flatMap_cons, ih]; rfl
  | kept _ _ ih => rw [List.flatMap_cons, ih]; rfl

theorem Split.unique (h : Split cs pieces) (h' : Split cs pieces') : pieces' = pieces := by
  induction h generalizing pieces' with
  | nil =>
    cases h'
    rfl
  | code code _ ih =>
    cases h' with
    | code _ rest => rw [ih rest]
    | kept free _ => exact absurd ⟨_, _, rfl, code⟩ free
  | kept free _ ih =>
    cases h' with
    | code code _ => exact absurd ⟨_, _, rfl, code⟩ free
    | kept _ rest => rw [ih rest]

/-! ## Translating -/

theorem translateChars_code (h : isCode c = true) (cs : List Char) :
    translateChars ('&' :: c :: cs) = sectionSign :: c.toLower :: translateChars cs := by
  rw [translateChars, if_pos h]

theorem translateChars_kept (h : ¬ StartsCode (c :: cs)) :
    translateChars (c :: cs) = c :: translateChars cs := by
  by_cases hc : c = '&'
  · subst hc
    cases cs with
    | nil => rfl
    | cons d cs =>
      rw [translateChars, if_neg]
      exact fun hd => h ⟨d, cs, rfl, hd⟩
  · rw [translateChars]
    rintro d cs ⟨⟩
    exact absurd rfl hc

theorem exists_split (cs : List Char) : ∃ pieces, Split cs pieces := by
  induction cs using translateChars.induct with
  | case1 c cs code ih =>
    obtain ⟨pieces, h⟩ := ih
    exact ⟨.code c :: pieces, .code code h⟩
  | case2 c cs hkept ih =>
    obtain ⟨pieces, h⟩ := ih
    have hfree : ¬ StartsCode ('&' :: c :: cs) := by
      rintro ⟨d, rest, ⟨⟩, hd⟩
      exact hkept hd
    exact ⟨.kept '&' :: pieces, .kept hfree h⟩
  | case3 c cs halone ih =>
    obtain ⟨pieces, h⟩ := ih
    have hfree : ¬ StartsCode (c :: cs) := by
      rintro ⟨d, rest, ⟨⟩, -⟩
      exact halone d rest rfl rfl
    exact ⟨.kept c :: pieces, .kept hfree h⟩
  | case4 => exact ⟨[], .nil⟩

theorem translateChars_of_split (h : Split cs pieces) :
    translateChars cs = pieces.flatMap Piece.translated := by
  induction h with
  | nil => rfl
  | code code _ ih => rw [translateChars_code code, ih]; rfl
  | kept free _ ih => rw [translateChars_kept free, ih]; rfl

/-! ## A second time -/

/-- An ampersand may not stand before a code letter. -/
def MayPrecede (c d : Char) : Prop :=
  c = '&' → isCode d = false

/-- No ampersand is directly followed by a code letter. -/
def Clear (cs : List Char) : Prop :=
  cs.IsChain MayPrecede

theorem isCode_toLower (c : Char) : isCode c.toLower = isCode c :=
  Text.apply_toLower isCode (by decide +kernel) c

theorem ne_of_isCode (h : isCode c = true) (hd : isCode d = false) : c ≠ d := by
  rintro rfl
  rw [h] at hd
  cases hd

/-- A code letter that comes out first stood there before. -/
theorem Split.head?_translated (h : Split cs pieces)
    (hd : (pieces.flatMap Piece.translated).head? = some d) (hcode : isCode d = true) :
    cs.head? = some d := by
  cases h with
  | nil => cases hd
  | code _ _ =>
    cases hd
    exact absurd hcode (by decide)
  | kept _ _ => exact hd

theorem Split.clear (h : Split cs pieces) : Clear (pieces.flatMap Piece.translated) := by
  induction h with
  | nil => exact .nil
  | @code c cs pieces code rest ih =>
    have hsign : MayPrecede sectionSign c.toLower := fun hand => absurd hand (by decide)
    have hletter (d : Char) : MayPrecede c.toLower d := fun hand =>
      absurd hand (ne_of_isCode (isCode_toLower c ▸ code) (by decide))
    refine List.isChain_cons_cons.2 ⟨hsign, ?_⟩
    exact List.isChain_cons.2 ⟨fun d _ => hletter d, ih⟩
  | @kept c cs pieces free rest ih =>
    refine List.isChain_cons.2 ⟨fun d hd => ?_, ih⟩
    rintro rfl
    refine Bool.eq_false_iff.2 fun hcode => ?_
    obtain ⟨tail, rfl⟩ := List.head?_eq_some_iff.1 (rest.head?_translated hd hcode)
    exact free ⟨d, tail, rfl, hcode⟩

theorem translateChars_of_clear (h : Clear cs) : translateChars cs = cs := by
  induction cs with
  | nil => rfl
  | cons c cs ih =>
    rw [translateChars_kept, ih h.tail]
    rintro ⟨d, rest, hcs, hd⟩
    obtain ⟨rfl, rfl⟩ := List.cons.inj hcs
    have hfree : isCode d = false := (List.isChain_cons_cons.1 h).1 rfl
    rw [hd] at hfree
    cases hfree

theorem clear_translateChars (cs : List Char) : Clear (translateChars cs) := by
  obtain ⟨pieces, h⟩ := exists_split cs
  rw [translateChars_of_split h]
  exact h.clear

/-! ## Stripping -/

theorem stripChars_sign (c : Char) (cs : List Char) :
    stripChars (sectionSign :: c :: cs) = stripChars cs := by
  rw [stripChars, if_pos rfl]

theorem stripChars_cons (h : c ≠ sectionSign) (cs : List Char) :
    stripChars (c :: cs) = c :: stripChars cs := by
  cases cs with
  | nil => exact if_neg h
  | cons d cs => rw [stripChars, if_neg h]

/-- A section sign comes out of a code only, and the small letter follows it. -/
theorem Split.followed (h : Split cs pieces) (hsign : sectionSign ∉ cs) {before after : List Char}
    (hcut : pieces.flatMap Piece.translated = before ++ sectionSign :: after) :
    ∃ c rest, after = c :: rest ∧ isCode c = true ∧ c.toLower = c := by
  induction h generalizing before with
  | nil => simp at hcut
  | @code c cs pieces code rest ih =>
    have hletter : c.toLower ≠ sectionSign := ne_of_isCode (isCode_toLower c ▸ code) (by decide)
    have hrest : sectionSign ∉ cs := fun hin =>
      hsign (List.mem_cons_of_mem _ (List.mem_cons_of_mem _ hin))
    -- the sign is the one of this code, or stands behind its letter
    match before with
    | [] =>
      obtain ⟨-, rfl⟩ := List.cons.inj hcut
      exact ⟨c.toLower, _, rfl, isCode_toLower c ▸ code, Text.toLower_toLower c⟩
    | [d] =>
      obtain ⟨-, hcut⟩ := List.cons.inj hcut
      exact absurd (List.cons.inj hcut).1 hletter
    | d :: e :: before =>
      obtain ⟨-, hcut⟩ := List.cons.inj hcut
      exact ih hrest (List.cons.inj hcut).2
  | @kept c cs pieces free rest ih =>
    match before with
    | [] => exact absurd (List.mem_cons.2 (.inl (List.cons.inj hcut).1.symm)) hsign
    | d :: before =>
      exact ih (fun hin => hsign (List.mem_cons_of_mem _ hin)) (List.cons.inj hcut).2

/-- Stripping removes what codes have become and nothing else. -/
theorem Split.strip (h : Split cs pieces) (hsign : sectionSign ∉ cs) :
    stripChars (pieces.flatMap Piece.translated) = pieces.filterMap Piece.kept? := by
  induction h with
  | nil => rfl
  | code _ _ ih =>
    have hrest := ih fun hin => hsign (List.mem_cons_of_mem _ (List.mem_cons_of_mem _ hin))
    rw [List.flatMap_cons, List.filterMap_cons_none rfl, ← hrest]
    exact stripChars_sign ..
  | @kept c cs pieces _ _ ih =>
    have hc : c ≠ sectionSign := fun hc => hsign (List.mem_cons.2 (.inl hc.symm))
    have hrest := ih fun hin => hsign (List.mem_cons_of_mem _ hin)
    have hkept : (Piece.kept c).kept? = some c := rfl
    rw [List.flatMap_cons, List.filterMap_cons_some hkept, ← hrest]
    exact stripChars_cons hc _

/-- **Translating twice is translating once, and stripping undoes it.** A text that has been
translated is left alone by a second translation, for no ampersand in it is directly followed by a
code letter. If the text has no section sign, every section sign in what comes out is directly
followed by a small code letter; and the text splits in one way into codes and kept characters, of
which stripping leaves the kept ones. -/
theorem translate_idempotent (text : String) :
    translate (translate text) = translate text ∧
    (∀ before c after, (translate text).toList = before ++ '&' :: c :: after →
      isCode c = false) ∧
    (sectionSign ∉ text.toList →
      (∀ before after, (translate text).toList = before ++ sectionSign :: after →
        ∃ c rest, after = c :: rest ∧ isCode c = true ∧ c.toLower = c) ∧
      ∃ pieces, Split text.toList pieces ∧ pieces.flatMap Piece.source = text.toList ∧
        (∀ pieces', Split text.toList pieces' → pieces' = pieces) ∧
        strip (translate text) = String.ofList (pieces.filterMap Piece.kept?)) := by
  have hchars : (translate text).toList = translateChars text.toList := String.toList_ofList
  have hclear := clear_translateChars text.toList
  refine ⟨?_, ?_, fun hsign => ?_⟩
  · rw [translate, hchars, translateChars_of_clear hclear]
    rfl
  · intro before c after hcut
    rw [hchars] at hcut
    exact List.isChain_iff_forall_rel_of_append_cons_cons.1 hclear hcut rfl
  · obtain ⟨pieces, hsplit⟩ := exists_split text.toList
    have hpieces := translateChars_of_split hsplit
    refine ⟨fun before after hcut => ?_, pieces, hsplit, hsplit.source,
      fun pieces' h => hsplit.unique h, ?_⟩
    · rw [hchars, hpieces] at hcut
      exact hsplit.followed hsign hcut
    · rw [Colour.strip, hchars, hpieces, hsplit.strip hsign]

/-- Of two ampersands the second one makes the code, and its capital becomes a small letter. -/
theorem welcome_translated :
    let text := "&&LWelcome & enjoy&"
    sectionSign ∉ text.toList ∧ translate text = "&§lWelcome & enjoy&" ∧
      translate "&§lWelcome & enjoy&" = "&§lWelcome & enjoy&" ∧
      ∃ pieces, Split text.toList pieces ∧
        strip "&§lWelcome & enjoy&" = String.ofList (pieces.filterMap Piece.kept?) := by
  intro text
  have hsign : sectionSign ∉ text.toList := by decide +kernel
  have htext : translate text = "&§lWelcome & enjoy&" := by decide +kernel
  obtain ⟨htwice, -, hstrip⟩ := translate_idempotent text
  obtain ⟨-, pieces, hsplit, -, -, hkept⟩ := hstrip hsign
  rw [htext] at htwice hkept
  exact ⟨hsign, htext, htwice, pieces, hsplit, hkept⟩

end CustomCommands.Colour
