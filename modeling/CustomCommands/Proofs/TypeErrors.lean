import CustomCommands.Proofs.AllOrNothing
import CustomCommands.Proofs.ColourCodes
import CustomCommands.Proofs.Gaps
import CustomCommands.Proofs.Verdicts

/-!
# What is said of input of the wrong type

The template of a type error gets the input in the place of its token, and is translated
as a whole before it is sent. The gaps around the token are the same before and after a
translation (`Colour.gaps_translateChars`), so the line is the translated template with the
input as it was typed exactly if translating the gaps with the input between them is
translating each gap alone. That is so unless an ampersand meets a code letter outside of the
gaps: in the input, or where two parts of the line meet (`Colour.translateChars_intercalate_iff`).
-/

namespace CustomCommands

/-! ## Texts put together -/

namespace Colour

variable {c : Char} {cs w x y z : List Char} {word gap : List Char} {gaps : List (List Char)}
  {pieces pieces' : List Piece}

/-- No ampersand at the end of the one text meets a code letter at the beginning of the other. -/
def Apart (x y : List Char) : Prop :=
  ∀ c ∈ x.getLast?, ∀ d ∈ y.head?, MayPrecede c d

theorem apart_nil (x : List Char) : Apart x [] := nofun

theorem apart_ampersand (x y : List Char) : Apart x ('&' :: y) := by
  rintro c - d ⟨⟩ -
  decide

theorem exists_of_not_apart (h : ¬ Apart x y) :
    ∃ front d tail, x = front ++ ['&'] ∧ y = d :: tail ∧ isCode d = true := by
  simp only [Apart, MayPrecede, not_forall] at h
  obtain ⟨c, hc, d, hd, rfl, hcode⟩ := h
  obtain ⟨front, rfl⟩ := List.getLast?_eq_some_iff.1 hc
  obtain ⟨tail, rfl⟩ := List.head?_eq_some_iff.1 hd
  exact ⟨front, d, tail, rfl, rfl, by simpa using hcode⟩

theorem Apart.of_cons (h : Apart (c :: x) y) : Apart x y := by
  intro d hd
  have hne : x ≠ [] := by
    rintro rfl
    cases hd
  exact h d (by rwa [List.getLast?_cons_of_ne_nil hne])

theorem Split.append (hx : Split x pieces) (hy : Split y pieces') (h : Apart x y) :
    Split (x ++ y) (pieces ++ pieces') := by
  induction hx with
  | nil => exact hy
  | code code _ ih => exact .code code (ih h.of_cons.of_cons)
  | @kept c cs pieces free _ ih =>
    have hfree : ¬ StartsCode (c :: (cs ++ y)) := by
      rintro ⟨d, tail, heq, hd⟩
      obtain ⟨rfl, htail⟩ := List.cons.inj heq
      cases cs with
      | nil =>
        -- the code letter is the first character of the other text
        have hfirst : d ∈ y.head? := by rw [← List.nil_append y, htail]; rfl
        have hclear : isCode d = false := h '&' rfl d hfirst rfl
        rw [hd] at hclear
        cases hclear
      | cons e cs =>
        obtain ⟨rfl, -⟩ := List.cons.inj htail
        exact free ⟨e, cs, rfl, hd⟩
    exact .kept hfree (ih h.of_cons)

theorem translateChars_append (h : Apart x y) :
    translateChars (x ++ y) = translateChars x ++ translateChars y := by
  obtain ⟨pieces, hx⟩ := exists_split x
  obtain ⟨pieces', hy⟩ := exists_split y
  rw [translateChars_of_split (hx.append hy h), List.flatMap_append, translateChars_of_split hx,
    translateChars_of_split hy]

theorem length_translateChars (cs : List Char) : (translateChars cs).length = cs.length := by
  obtain ⟨pieces, h⟩ := exists_split cs
  rw [translateChars_of_split h]
  induction h with
  | nil => rfl
  | code _ _ ih => simpa [Piece.translated] using ih
  | kept _ _ ih => simpa [Piece.translated] using ih

theorem translateChars_eq_self_iff : translateChars cs = cs ↔ Clear cs :=
  ⟨fun h => h ▸ clear_translateChars cs, translateChars_of_clear⟩

theorem getLast?_translateChars (h : cs.getLast? = some '&') :
    (translateChars cs).getLast? = some '&' := by
  obtain ⟨front, rfl⟩ := List.getLast?_eq_some_iff.1 h
  rw [translateChars_append (apart_ampersand front [])]
  exact List.getLast?_concat

/-- Only texts that are apart are translated into two parts of which the first is as long as it
was, and still ends in an ampersand if it did. -/
theorem translateChars_append_eq_iff (hlength : w.length = x.length)
    (hlast : x.getLast? = some '&' → w.getLast? = some '&') :
    translateChars (x ++ y) = w ++ z ↔
      translateChars x = w ∧ Apart x y ∧ translateChars y = z := by
  by_cases hapart : Apart x y
  · rw [translateChars_append hapart]
    constructor
    · intro h
      have hsame : (translateChars x).length = w.length := by rw [length_translateChars, hlength]
      obtain ⟨hx, hy⟩ := List.append_inj h hsame
      exact ⟨hx, hapart, hy⟩
    · rintro ⟨rfl, -, rfl⟩
      rfl
  · obtain ⟨front, d, tail, rfl, rfl, hd⟩ := exists_of_not_apart hapart
    refine ⟨fun h => ?_, fun h => absurd h.2.1 hapart⟩
    -- the ampersand becomes a section sign, where one is wanted at the end of `w`
    obtain ⟨front', rfl⟩ := List.getLast?_eq_some_iff.1 (hlast List.getLast?_concat)
    rw [List.append_assoc, List.append_assoc, List.singleton_append, List.singleton_append,
      translateChars_append (apart_ampersand _ _), translateChars_code hd] at h
    have hsame : (translateChars front).length = front'.length := by
      rw [length_translateChars]
      simpa using hlength.symm
    obtain ⟨-, hrest⟩ := List.append_inj h hsame
    exact absurd (List.cons.inj hrest).1 (by decide)

/-! ## Input between gaps -/

/-- With the word between the gaps there is no code but within a gap. -/
structure Calm (word : List Char) (gaps : List (List Char)) : Prop where
  /-- If the word is put in, no ampersand in it is directly followed by a code letter. -/
  inside : 1 < gaps.length → Clear word
  /-- Neither the word nor a gap ends in an ampersand with a code letter behind it. -/
  between : ∀ part behind, part :: behind <:+ gaps.intersperse word → Apart part behind.flatten

theorem calm_singleton (word gap : List Char) : Calm word [gap] := by
  refine ⟨fun h => absurd h (by simp), fun part behind h => ?_⟩
  rw [List.intersperse_singleton, List.suffix_cons_iff] at h
  rcases h with h | h
  · obtain ⟨-, rfl⟩ := List.cons.inj h
    exact apart_nil part
  · cases List.suffix_nil.1 h

theorem calm_cons_iff (word gap : List Char) (hgaps : gaps ≠ []) :
    Calm word (gap :: gaps) ↔
      Apart gap (word ++ word.intercalate gaps) ∧ Clear word ∧
        Apart word (word.intercalate gaps) ∧ Calm word gaps := by
  obtain ⟨next, more, rfl⟩ := List.exists_cons_of_ne_nil hgaps
  have hparts : (gap :: next :: more).intersperse word =
      gap :: word :: (next :: more).intersperse word := List.intersperse_cons_cons
  constructor
  · intro h
    have hclear : Clear word := h.inside (by simp)
    have hbetween := h.between
    rw [hparts] at hbetween
    refine ⟨hbetween _ _ (List.suffix_refl _), hclear, hbetween _ _ (List.suffix_cons _ _),
      fun _ => hclear, fun part behind hpart => hbetween part behind ?_⟩
    exact (hpart.trans (List.suffix_cons _ _)).trans (List.suffix_cons _ _)
  · rintro ⟨hgap, hclear, hword, hmore⟩
    refine ⟨fun _ => hclear, fun part behind hpart => ?_⟩
    rw [hparts, List.suffix_cons_iff, List.suffix_cons_iff] at hpart
    rcases hpart with hpart | hpart | hpart
    · obtain ⟨rfl, rfl⟩ := List.cons.inj hpart
      exact hgap
    · obtain ⟨rfl, rfl⟩ := List.cons.inj hpart
      exact hword
    · exact hmore.between part behind hpart

/-- A translation leaves the word between the gaps alone, and keeps to each gap, exactly if there
is no code but within a gap. -/
theorem translateChars_intercalate_iff (word : List Char) (gaps : List (List Char)) :
    translateChars (word.intercalate gaps) = word.intercalate (gaps.map translateChars) ↔
      Calm word gaps := by
  induction gaps with
  | nil => exact iff_of_true rfl ⟨fun h => absurd h (by simp), fun part behind h => by simp at h⟩
  | cons gap gaps ih =>
    by_cases hgaps : gaps = []
    · subst hgaps
      exact iff_of_true (by simp) (calm_singleton word gap)
    · have hmapped : gaps.map translateChars ≠ [] := by simpa using hgaps
      rw [calm_cons_iff word gap hgaps, ← ih, List.map_cons,
        List.intercalate_cons_of_ne_nil hgaps, List.intercalate_cons_of_ne_nil hmapped,
        List.append_assoc, List.append_assoc,
        translateChars_append_eq_iff (length_translateChars gap) getLast?_translateChars,
        and_iff_right rfl, translateChars_append_eq_iff rfl id, translateChars_eq_self_iff]

/-! ## Gaps of a translation -/

/-- A text without section signs begins a translation only if it began the text before. -/
theorem prefix_of_prefix_translateChars (hsign : sectionSign ∉ w) (h : w <+: translateChars cs) :
    w <+: cs := by
  induction w generalizing cs with
  | nil => exact List.nil_prefix
  | cons c w ih =>
    obtain ⟨hc, hw⟩ := List.ne_and_not_mem_of_not_mem_cons hsign
    cases cs with
    | nil => exact absurd (List.prefix_nil.1 h) (List.cons_ne_nil c w)
    | cons d cs =>
      by_cases hcode : StartsCode (d :: cs)
      · obtain ⟨e, rest, heq, he⟩ := hcode
        rw [heq, translateChars_code he, List.cons_prefix_cons] at h
        exact absurd h.1.symm hc
      · rw [translateChars_kept hcode, List.cons_prefix_cons] at h
        exact List.cons_prefix_cons.2 ⟨h.1, ih hw h.2⟩

def token : List Char :=
  Argument.inputToken.toList

theorem translateChars_token (cs : List Char) :
    translateChars (token ++ cs) = token ++ translateChars cs := by
  have hapart : Apart token cs := by
    rintro c hc d - rfl
    exact absurd hc (by decide +kernel)
  have htoken : translateChars token = token := by decide +kernel
  rw [translateChars_append hapart, htoken]

theorem not_startsToken (h : c ≠ '%') (cs : List Char) : ¬ token <+: c :: cs := by
  have htoken : token = '%' :: "input%".toList := by decide +kernel
  rw [htoken, List.cons_prefix_cons]
  exact fun hprefix => h hprefix.1.symm

theorem ne_percent_of_isCode (h : isCode c = true) : c ≠ '%' :=
  ne_of_isCode h (by decide)

/-- A translation finds the token where it was, and translates the gaps. -/
theorem gaps_translateChars (h : Text.Gaps token cs gaps) :
    Text.Gaps token (translateChars cs) (gaps.map translateChars) := by
  induction h with
  | nil => exact .nil
  | found _ ih =>
    rw [translateChars_token]
    exact .found ih
  | @kept c cs gap gaps free rest ih =>
    rw [List.map_cons] at ih ⊢
    by_cases hcode : StartsCode (c :: cs)
    · -- no token begins with the code letter, so it is in the gap as well
      obtain ⟨d, tail, heq, hd⟩ := hcode
      obtain ⟨rfl, rfl⟩ := List.cons.inj heq
      have hpercent := ne_percent_of_isCode hd
      have hsmall : d.toLower ≠ '%' := ne_percent_of_isCode (isCode_toLower d ▸ hd)
      have hletter (xs : List Char) : ¬ StartsCode (d :: xs) := by
        rintro ⟨e, ys, heq, -⟩
        exact ne_of_isCode hd (by decide) (List.cons.inj heq).1
      obtain ⟨gap', more, hgap, -⟩ := rest.of_free (not_startsToken hpercent tail)
      obtain ⟨rfl, rfl⟩ := List.cons.inj hgap
      rw [translateChars_kept (hletter tail), translateChars_kept (hletter gap')] at ih
      obtain ⟨gap'', more', hgap', htail⟩ := ih.of_free (not_startsToken hpercent _)
      obtain ⟨hgap'', rfl⟩ := List.cons.inj hgap'
      obtain ⟨-, rfl⟩ := List.cons.inj hgap''
      rw [translateChars_code hd, translateChars_code hd]
      exact .kept (not_startsToken (by decide) _) (.kept (not_startsToken hsmall _) htail)
    · have hgap : ¬ StartsCode (c :: gap) := by
        rintro ⟨d, tail, heq, hd⟩
        obtain ⟨rfl, rfl⟩ := List.cons.inj heq
        obtain ⟨behind, rfl⟩ := rest.starts
        exact hcode ⟨d, tail ++ behind, rfl, hd⟩
      have hfree : ¬ token <+: translateChars (c :: cs) := fun hfound =>
        free (prefix_of_prefix_translateChars (by decide +kernel) hfound)
      rw [translateChars_kept hcode] at hfree ⊢
      rw [translateChars_kept hgap]
      exact .kept hfree ih

/-- The line of a template with the word in it, and the translated template with the word in it. -/
theorem translate_replaceAll_iff {template : String}
    (h : Text.Gaps Argument.inputToken.toList template.toList gaps) (word : String) :
    translate (Text.replaceAll Argument.inputToken word template) =
        Text.replaceAll Argument.inputToken word (translate template) ↔
      Calm word.toList gaps := by
  have htoken : Argument.inputToken ≠ "" := by decide
  have htranslated : Text.Gaps Argument.inputToken.toList (translate template).toList
      (gaps.map translateChars) := by
    rw [translate, String.toList_ofList]
    exact gaps_translateChars h
  rw [Text.replaceAll_of_gaps htoken h, Text.replaceAll_of_gaps htoken htranslated, translate,
    String.toList_ofList, String.ofList_inj, translateChars_intercalate_iff]

end Colour

/-! ## Type errors -/

namespace Argument

variable {tree : Argument} {s : Sender} {i : Identity} {words : List String} {message : String}

/-- A type error is that of the only placeholder where the first word that fails leads to no
child, with the word in it. -/
theorem exists_of_invalid (h : (tree.matchPath s i words).value = .invalid message) :
    ∃ k p word asked, (Place.root tree).FirstFailure s i words k p word ∧
      (p.select i word).value = none ∧ p.node.children.filter isDynamic = [asked] ∧
      message = Text.replaceAll inputToken word asked.typeErrorTemplate := by
  by_cases hopen : tree.IsOpen s
  · rw [matchPath, denial_of_isOpen hopen] at h
    rcases Place.exists_firstFailure s i (.root tree) words with ⟨k, p, word, hfirst⟩ | hnone
    · have hwalk := h.symm.trans (Place.walk_of_firstFailure hfirst (.ofSender s.name))
      cases hselect : (p.select i word).value with
      | some child =>
        rw [hselect] at hwalk
        cases hwalk
      | none =>
        have hunmatched : p.node.unmatched word = .invalid message := by
          rw [hselect] at hwalk
          exact hwalk.symm
        unfold unmatched at hunmatched
        split at hunmatched
        · rename_i asked hasked
          cases hunmatched
          exact ⟨k, p, word, asked, hfirst, hselect, hasked, rfl⟩
        · cases hunmatched
    · obtain ⟨p, b, -, hwalk⟩ := Place.walk_of_noFailure hnone (.ofSender s.name)
      have harrive := h.symm.trans hwalk
      rw [Place.arrive] at harrive
      split at harrive <;> cases harrive
  · rw [matchPath, denial_of_not_isOpen hopen] at h
    cases h

end Argument

namespace Dispatcher

variable {N : Type} [Currency N] {d : Dispatcher N} {c : Command} {s : Sender} {label : String}
  {args : List String} {message : String}

theorem dispatch_of_invalid (now : Nat) (hc : d.command? label = some c)
    (h : (c.tree.matchPath s d.identity args).value = .invalid message) :
    (d.dispatch now s label args).value = .error (.invalidArgument message) := by
  simp [dispatch, hc, h, Act.noting, reject]

/-- **What is said of input of the wrong type.** If a call ends in a type error, the first word that
fails leads to no child of its node, which asks for a single type, and the sender is told one line:
the template of that placeholder with the word in the place of every `%input%`, translated. That
is the translated template with the word as it was typed exactly if, with the word between the gaps
of the template, no ampersand is directly followed by a code letter but within a gap. -/
theorem typeError_shown (now : Nat) (hc : d.command? label = some c)
    (h : (c.tree.matchPath s d.identity args).value = .invalid message) :
    ∃ k p word asked gaps,
      (Place.root c.tree).FirstFailure s d.identity args k p word ∧
      (p.select d.identity word).value = none ∧
      p.node.children.filter Argument.isDynamic = [asked] ∧
      let template := asked.typeErrorTemplate
      let executed := d.execute now s label args
      let line := Colour.translate (Text.replaceAll "%input%" word template)
      Text.Gaps "%input%".toList template.toList gaps ∧
      executed.value = none ∧ executed.effects = [.message s.name line] ∧
      (line = Text.replaceAll "%input%" word (Colour.translate template) ↔
        Colour.Calm word.toList gaps) := by
  obtain ⟨k, p, word, asked, hfirst, hselect, hasked, rfl⟩ := Argument.exists_of_invalid h
  have htoken : Argument.inputToken.toList ≠ [] := by decide
  obtain ⟨gaps, hgaps⟩ := Text.exists_gaps htoken asked.typeErrorTemplate.toList
  obtain ⟨hvalue, -, heffects⟩ := execute_of_error (dispatch_of_invalid now hc h)
  exact ⟨k, p, word, asked, gaps, hfirst, hselect, hasked, hgaps, hvalue, heffects,
    Colour.translate_replaceAll_iff hgaps word⟩

def raffle : Command where
  name := "raffle"
  usageMessage := none
  aliases := []
  price := .free
  cooldown := none
  tree := .mk "raffle" {}
    [.mk "[tickets]"
      { declaredType := some "integer", typeError := some "&cNo number: %input%" } []]

def withRaffle : Dispatcher Rat :=
  { catalogue := { entries := [{ command := raffle, aliases := [] }] } }

theorem command?_withRaffle : withRaffle.command? "raffle" = some raffle := by rfl

theorem matchPath_raffle (word : String)
    (h : ((Place.root raffle.tree).select withRaffle.identity word).value.isNone = true) :
    (raffle.tree.matchPath payer withRaffle.identity [word]).value =
      .invalid (Text.replaceAll "%input%" word "&cNo number: %input%") := by
  have hnone := Option.isNone_iff_eq_none.1 h
  exact Place.walk_of_select_none hnone (.ofSender payer.name) []

/-- An ampersand before a letter that is no code is shown as it was typed. -/
theorem raffle_shows_word :
    (withRaffle.execute 0 payer "raffle" ["7&up"]).effects =
      [.message "Alice"
        (Text.replaceAll "%input%" "7&up" (Colour.translate "&cNo number: %input%"))] := by
  have hinvalid := matchPath_raffle "7&up" (by decide +kernel)
  have hline : Colour.translate (Text.replaceAll "%input%" "7&up" "&cNo number: %input%") =
      Text.replaceAll "%input%" "7&up" (Colour.translate "&cNo number: %input%") := by
    decide +kernel
  obtain ⟨k, p, word, asked, gaps, hfirst, -, hasked, -, -, heffects, -⟩ :=
    typeError_shown 0 command?_withRaffle hinvalid
  obtain ⟨hreached, hword, -⟩ := hfirst.fails
  cases k with
  | succ k => cases hword
  | zero =>
    cases hword
    cases hreached
    cases hasked
    rw [heffects, ← hline]
    rfl

/-- A word that is a code is not: it is translated with the template. -/
theorem raffle_colours_word :
    let invalid := Text.replaceAll "%input%" "&a7" "&cNo number: %input%"
    (raffle.tree.matchPath payer withRaffle.identity ["&a7"]).value = .invalid invalid ∧
      (withRaffle.execute 0 payer "raffle" ["&a7"]).effects =
        [.message "Alice" "§cNo number: §a7"] ∧
      Text.replaceAll "%input%" "&a7" (Colour.translate "&cNo number: %input%") =
        "§cNo number: &a7" := by
  intro invalid
  have hinvalid := matchPath_raffle "&a7" (by decide +kernel)
  have hline : Colour.translate invalid = "§cNo number: §a7" := by decide +kernel
  obtain ⟨-, -, heffects⟩ := execute_of_error (dispatch_of_invalid 0 command?_withRaffle hinvalid)
  refine ⟨hinvalid, ?_, by decide +kernel⟩
  rw [heffects, ← hline]
  rfl

end Dispatcher

end CustomCommands
