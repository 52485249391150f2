import CustomCommands.Proofs.Words
import CustomCommands.ShellLine

/-!
# Lines as they are typed

A line of the shell is a keyword, perhaps a name, and a command with its arguments, with
blanks of any kind and number before, between and behind the words. Each part is cut off
the line by what follows it: the keyword and the name by the first blank
(`splitWord_append`), the label and the arguments by all blanks together
(`readCommand_typed`). So the line is read as the words that it was typed from, whatever
the words and whatever the blanks, but that a blank at its end opens another argument in
a completion.
-/

namespace CustomCommands.ShellLine

open Text (AllBlank Solid Spaced AtGap allBlank_nil isBlank trimStart words)

/-! ## Typing -/

structure Word where
  text : String
  nonempty : text ≠ ""
  solid : Solid text.toList

structure Blanks where
  text : String
  nonempty : text ≠ ""
  blank : AllBlank text.toList

def typed : List (Blanks × Word) → String
  | [] => ""
  | (blanks, word) :: args => blanks.text ++ word.text ++ typed args

def typedCommand (label : String) (args : List (Blanks × Word)) (trail : String) : String :=
  "/" ++ label ++ typed args ++ trail

def texts (args : List (Blanks × Word)) : List String :=
  args.map fun a => a.2.text

variable {bs cs w rest : List Char} {keyword k : String} {args : List (Blanks × Word)}
  {trail : String}

theorem Word.chars_ne_nil (w : Word) : w.text.toList ≠ [] := by
  simpa using w.nonempty

theorem Blanks.chars_ne_nil (b : Blanks) : b.text.toList ≠ [] := by
  simpa using b.nonempty

theorem Blanks.tail_blank (b : Blanks) : AllBlank b.text.toList.tail := fun c hc =>
  b.blank c (List.mem_of_mem_tail hc)

/-! ## Cutting a word off -/

theorem trimStart_append (h : AllBlank bs) (cs : List Char) :
    trimStart (bs ++ cs) = trimStart cs :=
  List.dropWhile_append_of_pos h

theorem trimStart_of_solid (h : Solid w) (hw : w ≠ []) (rest : List Char) :
    trimStart (w ++ rest) = w ++ rest := by
  obtain ⟨c, cs, rfl⟩ := List.exists_cons_of_ne_nil hw
  have hc : ¬ isBlank c = true := by simp [h c List.mem_cons_self]
  exact List.dropWhile_cons_of_neg hc

theorem splitBlank_append (h : Solid w) (hbs : AllBlank bs) (hne : bs ≠ []) (rest : List Char) :
    Text.splitBlank (w ++ (bs ++ rest)) = (w, bs.tail ++ rest) := by
  induction w with
  | nil =>
    obtain ⟨b, bs, rfl⟩ := List.exists_cons_of_ne_nil hne
    have hb : isBlank b = true := hbs b List.mem_cons_self
    rw [List.nil_append, List.cons_append, Text.splitBlank, if_pos hb]
    rfl
  | cons c w ih =>
    obtain ⟨hc, hw⟩ := List.forall_mem_cons.1 h
    rw [List.cons_append, Text.splitBlank, ih hw]
    simp [hc]

theorem splitWord_append (hbs : AllBlank bs) (w : Word) (b : Blanks) (rest : List Char) :
    splitWord (bs ++ (w.text.toList ++ (b.text.toList ++ rest))) =
      (w.text.toList, b.text.toList.tail ++ rest) := by
  rw [splitWord, trimStart_append hbs, trimStart_of_solid w.solid w.chars_ne_nil,
    splitBlank_append w.solid b.blank b.chars_ne_nil]

/-! ## Commands -/

theorem atGap_append (b : Blanks) (cs : List Char) : AtGap (b.text.toList ++ cs) := by
  obtain ⟨c, tail, hb⟩ := List.exists_cons_of_ne_nil b.chars_ne_nil
  rw [hb]
  rintro d ⟨⟩
  exact b.blank c (hb ▸ List.mem_cons_self)

theorem atGap_typed (args : List (Blanks × Word)) (htrail : AllBlank trail.toList) :
    AtGap (typed args ++ trail).toList := by
  cases args with
  | nil =>
    have htext : typed [] ++ trail = trail := String.empty_append
    rw [htext]
    exact fun c hc => htrail c (List.mem_of_mem_head? hc)
  | cons a args =>
    rw [typed, String.append_assoc, String.append_assoc, String.toList_append]
    exact atGap_append a.1 _

theorem spaced_typed (args : List (Blanks × Word)) (htrail : AllBlank trail.toList) :
    Spaced (typed args ++ trail).toList (args.map fun a => a.2.text.toList) := by
  induction args with
  | nil =>
    have htext : typed [] ++ trail = trail := String.empty_append
    rw [htext]
    exact .blanks htrail
  | cons a args ih =>
    have htext : (typed (a :: args) ++ trail).toList =
        a.1.text.toList ++ a.2.text.toList ++ (typed args ++ trail).toList := by
      rw [typed, String.append_assoc, String.toList_append, String.toList_append]
    rw [htext, List.map_cons]
    exact .word a.1.blank a.2.solid a.2.chars_ne_nil (atGap_typed args htrail) ih

theorem words_typed (label : Word) (args : List (Blanks × Word)) (htrail : AllBlank trail.toList) :
    words (label.text.toList ++ (typed args ++ trail).toList) =
      label.text.toList :: args.map fun a => a.2.text.toList :=
  (Spaced.word allBlank_nil label.solid label.chars_ne_nil (atGap_typed args htrail)
    (spaced_typed args htrail)).words_eq

theorem exists_lastWord (label : Word) (args : List (Blanks × Word)) :
    ∃ front, ∃ w : Word, label.text.toList ++ (typed args).toList = front ++ w.text.toList := by
  induction args generalizing label with
  | nil => exact ⟨[], label, List.append_nil _⟩
  | cons a args ih =>
    obtain ⟨front, w, h⟩ := ih a.2
    refine ⟨label.text.toList ++ a.1.text.toList ++ front, w, ?_⟩
    rw [typed, String.toList_append, String.toList_append, List.append_assoc, h]
    simp only [List.append_assoc]

theorem Word.getLast?_blank (w : Word) (front : List Char) :
    (front ++ w.text.toList).getLast?.any isBlank = false := by
  rw [List.getLast?_append, List.getLast?_eq_some_getLast w.chars_ne_nil, Option.some_or]
  exact w.solid _ (List.getLast_mem w.chars_ne_nil)

theorem endsBlank_typed (label : Word) (args : List (Blanks × Word))
    (htrail : AllBlank trail.toList) :
    (label.text.toList ++ (typed args ++ trail).toList).getLast?.any isBlank =
      decide (trail ≠ "") := by
  rw [String.toList_append, ← List.append_assoc]
  by_cases h : trail = ""
  · obtain ⟨front, w, hlast⟩ := exists_lastWord label args
    have hnone : trail.toList = [] := by rw [h]; rfl
    rw [hlast, hnone, List.append_nil, w.getLast?_blank]
    simp [h]
  · have hne : trail.toList ≠ [] := by simpa using h
    rw [List.getLast?_append, List.getLast?_eq_some_getLast hne, Option.some_or]
    have hblank := htrail _ (List.getLast_mem hne)
    simp [h, hblank]

theorem readCommand_typed (hbs : AllBlank bs) (partly : Bool) (label : Word)
    (args : List (Blanks × Word)) (htrail : AllBlank trail.toList) :
    readCommand partly (bs ++ (typedCommand label.text args trail).toList) =
      .ok (label.text, if partly && trail ≠ "" then texts args ++ [""] else texts args) := by
  have htext : (typedCommand label.text args trail).toList =
      '/' :: (label.text.toList ++ (typed args ++ trail).toList) := by
    simp [typedCommand, String.toList_append]
  have hslash : ¬ isBlank '/' = true := by decide
  have hstart (rest : List Char) : trimStart ('/' :: rest) = '/' :: rest :=
    List.dropWhile_cons_of_neg hslash
  have hwords := words_typed label args htrail
  have htexts : (args.map fun a => a.2.text.toList).map String.ofList = texts args := by
    simp [texts]
  rw [htext, readCommand, trimStart_append hbs, hstart]
  simp only [hwords, List.map_cons, String.ofList_toList, htexts, endsBlank_typed label args htrail]

theorem readInvoke_typed (hbs : AllBlank bs) (who : String) (label : Word)
    (args : List (Blanks × Word)) (htrail : AllBlank trail.toList) :
    readInvoke who (bs ++ (typedCommand label.text args trail).toList) =
      .ok (.invoke who label.text (texts args)) := by
  rw [readInvoke, readCommand_typed hbs false label args htrail]
  rfl

/-! ## Names -/

theorem readAs_typed (hbs : AllBlank bs) (who : Word) (b : Blanks) (label : Word)
    (args : List (Blanks × Word)) (htrail : AllBlank trail.toList) :
    readAs (bs ++ (who.text.toList ++
        (b.text.toList ++ (typedCommand label.text args trail).toList))) =
      .ok (.invoke who.text label.text (texts args)) := by
  have hwho : who.text.toList.isEmpty = false := by simpa using who.nonempty
  simp only [readAs, splitWord_append hbs, hwho, Bool.false_eq_true, if_false,
    String.ofList_toList, readInvoke_typed b.tail_blank _ label args htrail]

theorem readTab_typed (hbs : AllBlank bs) (who : Word) (b : Blanks) (label : Word)
    (args : List (Blanks × Word)) (htrail : AllBlank trail.toList) :
    readTab (bs ++ (who.text.toList ++
        (b.text.toList ++ (typedCommand label.text args trail).toList))) =
      .ok (.complete who.text label.text
        (if trail = "" then texts args else texts args ++ [""])) := by
  have hwho : who.text.toList.isEmpty = false := by simpa using who.nonempty
  simp only [readTab, splitWord_append hbs, hwho, Bool.false_eq_true, if_false,
    String.ofList_toList, readCommand_typed b.tail_blank true label args htrail]
  by_cases h : trail = "" <;> simp [h, bind, Except.bind]

/-! ## Lines -/

/-- A keyword in any case of A to Z is cut off its line. -/
theorem cut_keyword {c : Char} {tail : List Char} (hbs : AllBlank bs)
    (h : Text.asciiLower keyword = k) (hk : k.toList = c :: tail) (hsolid : Solid k.toList)
    (hc : c ≠ '#') (b : Blanks) (rest : List Char) :
    let line := trimStart (bs ++ (keyword.toList ++ (b.text.toList ++ rest)))
    line.isEmpty = false ∧ (line.head? == some '#') = false ∧
      splitWord line = (keyword.toList, b.text.toList.tail ++ rest) := by
  intro line
  have hchars : keyword.toList.map Char.toLower = c :: tail := by
    rw [← hk, ← h, Text.asciiLower, String.toList_map]
  obtain ⟨first, more, hkeyword, rfl, -⟩ := List.map_eq_cons_iff.1 hchars
  have hword : Solid keyword.toList := by
    intro d hd
    rw [← Text.isBlank_toLower]
    exact hsolid _ (hk ▸ hchars ▸ List.mem_map_of_mem hd)
  have hne : keyword.toList ≠ [] := by rw [hkeyword]; exact List.cons_ne_nil first more
  let w : Word := ⟨keyword, by simpa using hne, hword⟩
  have hline : line = w.text.toList ++ (b.text.toList ++ rest) := by
    rw [← trimStart_of_solid w.solid w.chars_ne_nil]
    exact trimStart_append hbs _
  have hcut : splitWord line = (keyword.toList, b.text.toList.tail ++ rest) := by
    rw [hline]
    exact splitWord_append allBlank_nil w b rest
  have hhead : line.head? = some first := by rw [hline, hkeyword]; rfl
  refine ⟨?_, ?_, hcut⟩
  · rw [hline, hkeyword]; rfl
  · rw [hhead, beq_eq_false_iff_ne, ne_eq, Option.some.injEq]
    rintro rfl
    exact hc (by decide)

theorem readChars_keyword (hbs : AllBlank bs) (keyword : String) (b : Blanks)
    (rest : List Char) :
    let line := bs ++ (keyword.toList ++ (b.text.toList ++ rest))
    let behind := b.text.toList.tail ++ rest
    (Text.asciiLower keyword = "as" → readChars line = readAs behind) ∧
    (Text.asciiLower keyword = "console" → readChars line = readInvoke consoleName behind) ∧
    (Text.asciiLower keyword = "tab" → readChars line = readTab behind) := by
  intro line behind
  refine ⟨fun h => ?_, fun h => ?_, fun h => ?_⟩
  all_goals
    obtain ⟨hempty, hsharp, hcut⟩ := cut_keyword hbs h rfl (by decide) (by decide) b rest
    simp only [readChars, line, hempty, hsharp, hcut, String.ofList_toList, h]
    rfl

/-- **A line is read as it was typed.** Let a line be typed from words, with any blanks before it,
one or more of them between the words, and any at its end. With a name behind `as` it is read as
that player's call of the label with the arguments, and behind `console` as the console's, whatever
blanks end it. Behind `tab` it is read as a completion of the arguments, to which blanks at the end
add an empty one. The keyword may be typed in any case of A to Z. -/
theorem read_typed (who label : Word) (b b' : Blanks) (args : List (Blanks × Word))
    {lead trail : String} (hlead : AllBlank lead.toList) (htrail : AllBlank trail.toList) :
    let command := typedCommand label.text args trail
    ∀ keyword,
      (Text.asciiLower keyword = "as" →
        read (lead ++ keyword ++ b.text ++ who.text ++ b'.text ++ command) =
          .ok (.invoke who.text label.text (texts args))) ∧
      (Text.asciiLower keyword = "console" →
        read (lead ++ keyword ++ b.text ++ command) =
          .ok (.invoke "console" label.text (texts args))) ∧
      (Text.asciiLower keyword = "tab" →
        read (lead ++ keyword ++ b.text ++ who.text ++ b'.text ++ command) =
          .ok (.complete who.text label.text
            (if trail = "" then texts args else texts args ++ [""]))) := by
  intro command keyword
  have hlong : (lead ++ keyword ++ b.text ++ who.text ++ b'.text ++ command).toList =
      lead.toList ++ (keyword.toList ++ (b.text.toList ++
        (who.text.toList ++ (b'.text.toList ++ command.toList)))) := by
    simp only [String.toList_append, List.append_assoc]
  have hshort : (lead ++ keyword ++ b.text ++ command).toList =
      lead.toList ++ (keyword.toList ++ (b.text.toList ++ command.toList)) := by
    simp only [String.toList_append, List.append_assoc]
  obtain ⟨has, -, htab⟩ := readChars_keyword hlead keyword b
    (who.text.toList ++ (b'.text.toList ++ command.toList))
  obtain ⟨-, hconsole, -⟩ := readChars_keyword hlead keyword b command.toList
  refine ⟨fun h => ?_, fun h => ?_, fun h => ?_⟩
  · rw [read, hlong, has h]
    exact readAs_typed b.tail_blank who b' label args htrail
  · rw [read, hshort, hconsole h]
    exact readInvoke_typed b.tail_blank consoleName label args htrail
  · rw [read, hlong, htab h]
    exact readTab_typed b.tail_blank who b' label args htrail

/-- Words may hold slashes, number signs and keywords, and blanks may be of any kind. A blank at the
end counts in a completion only. -/
theorem visit_typed :
    read "\tAs tab \u2003//as  #1\t/x " = .ok (.invoke "tab" "/as" ["#1", "/x"]) ∧
      read "\tTab tab \u2003//as  #1\t/x " = .ok (.complete "tab" "/as" ["#1", "/x", ""]) := by
  let who : Word := ⟨"tab", by decide, by decide⟩
  let label : Word := ⟨"/as", by decide, by decide⟩
  let b : Blanks := ⟨" ", by decide, by decide⟩
  let b' : Blanks := ⟨" \u2003", by decide, by decide⟩
  let args : List (Blanks × Word) :=
    [(⟨"  ", by decide, by decide⟩, ⟨"#1", by decide, by decide⟩),
      (⟨"\t", by decide, by decide⟩, ⟨"/x", by decide, by decide⟩)]
  have hlead : AllBlank "\t".toList := by decide
  have htrail : AllBlank " ".toList := by decide
  have hline (keyword : String) := read_typed who label b b' args hlead htrail keyword
  exact ⟨(hline "As").1 (by decide +kernel), (hline "Tab").2.2 (by decide +kernel)⟩

end CustomCommands.ShellLine
