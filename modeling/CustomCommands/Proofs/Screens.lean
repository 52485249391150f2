import CustomCommands.Proofs.ColourCodes
import CustomCommands.Terminal
import Mathlib.Data.List.Basic

/-!
# What a terminal shows

A terminal reads its output character by character: an escape sequence changes the
style that the characters after it are shown in, and all other characters are visible
(`Terminal.screen`). A piece of text that is painted comes to stand on the screen in
its style, and leaves the terminal without one (`Terminal.screenFrom_paint`). So what
is seen of a text rendered with colours is its visible characters, each in the style
that the codes before it make up (`Terminal.visible`, `Terminal.cells_piecesFrom`), and
without colours the same characters are left that stripping leaves
(`Terminal.stripChars_eq`).
-/

namespace CustomCommands

namespace Style

def set (s : Style) : Nat → Style
  | 0 => {}
  | 1 => { s with bold := true }
  | 2 => { s with dimmed := true }
  | 3 => { s with italic := true }
  | 4 => { s with underlined := true }
  | 9 => { s with struck := true }
  | n => if (30 ≤ n ∧ n ≤ 37) ∨ (90 ≤ n ∧ n ≤ 97) then { s with colour := some n } else s

/-- The colour is one of the sixteen that terminals have. -/
def HasTerminalColour (s : Style) : Prop :=
  ∀ n ∈ s.colour, (30 ≤ n ∧ n ≤ 37) ∨ (90 ≤ n ∧ n ≤ 97)

theorem set_of_colour {n : Nat} (h : (30 ≤ n ∧ n ≤ 37) ∨ (90 ≤ n ∧ n ≤ 97)) (s : Style) :
    s.set n = { s with colour := some n } := by
  unfold set
  split
  case h_7 => exact if_pos h
  all_goals omega

theorem foldl_set_numbers {s : Style} (h : s.HasTerminalColour) :
    s.numbers.foldl set {} = s := by
  obtain ⟨bold, dimmed, italic, underlined, struck, colour⟩ := s
  have hstyles : (flag bold 1 ++ flag dimmed 2 ++ flag underlined 4 ++ flag italic 3 ++
      flag struck 9).foldl set {} = { bold, dimmed, italic, underlined, struck } := by
    cases bold <;> cases dimmed <;> cases italic <;> cases underlined <;> cases struck <;> rfl
  rw [numbers, List.foldl_append, hstyles]
  cases colour with
  | none => rfl
  | some n => exact set_of_colour (h n rfl) _

theorem eq_of_numbers_eq_nil {s : Style} (hs : s.HasTerminalColour) (h : s.numbers = []) :
    s = {} := by
  rw [← foldl_set_numbers hs, h]
  rfl

theorem hasTerminalColour_of_colourNumber? {c : Char} {n : Nat} (h : colourNumber? c = some n) :
    HasTerminalColour { colour := some n } := by
  rintro m ⟨⟩
  unfold colourNumber? at h
  split at h
  case h_17 => cases h
  all_goals cases h; decide

/-! ## Codes -/

/-- What codes do to a style: a colour code sets the colour and drops all else, a style code adds
its style, `r` drops everything, and other codes do nothing, all in any case of A to Z. -/
structure FollowsCodes (after : Style → Char → Style) : Prop where
  colour : ∀ s c, c.toLower ∈ "0123456789abcdef".toList →
    ∃ n, colourNumber? c.toLower = some n ∧ after s c = { colour := some n }
  bold : ∀ s c, c.toLower = 'l' → after s c = { s with bold := true }
  italic : ∀ s c, c.toLower = 'o' → after s c = { s with italic := true }
  underlined : ∀ s c, c.toLower = 'n' → after s c = { s with underlined := true }
  struck : ∀ s c, c.toLower = 'm' → after s c = { s with struck := true }
  reset : ∀ s c, c.toLower = 'r' → after s c = {}
  other : ∀ s c, c.toLower ∉ "0123456789abcdeflonmr".toList → after s c = s

theorem after_of_not_style {c : Char} (h : c.toLower ∉ "lonmr".toList) (s : Style) :
    s.after c = (colourNumber? c.toLower).elim s fun n => { colour := some n } := by
  unfold after
  split
  case h_6 => cases colourNumber? c.toLower <;> rfl
  all_goals
    rename_i hc
    exact absurd (hc ▸ by decide +kernel) h

theorem colourNumber?_eq_none {c : Char} (h : c ∉ "0123456789abcdef".toList) :
    colourNumber? c = none := by
  unfold colourNumber?
  split
  case h_17 => rfl
  all_goals exact absurd (by decide +kernel) h

theorem followsCodes_after : FollowsCodes after where
  colour s c h := by
    have hcolours : ("0123456789abcdef".toList.all fun d =>
        (colourNumber? d).isSome && !"lonmr".toList.contains d) = true := by decide +kernel
    have hcolour := List.all_eq_true.1 hcolours _ h
    rw [Bool.and_eq_true, Bool.not_eq_true', ← Bool.not_eq_true, List.contains_iff_mem] at hcolour
    obtain ⟨n, hn⟩ := Option.isSome_iff_exists.1 hcolour.1
    refine ⟨n, hn, ?_⟩
    rw [after_of_not_style hcolour.2, hn]
    rfl
  bold s c h := by simp only [after, h]
  italic s c h := by simp only [after, h]
  underlined s c h := by simp only [after, h]
  struck s c h := by simp only [after, h]
  reset s c h := by simp only [after, h]
  other s c h := by
    have hall : "0123456789abcdeflonmr".toList = "0123456789abcdef".toList ++ "lonmr".toList := by
      decide +kernel
    rw [hall, List.mem_append, not_or] at h
    rw [after_of_not_style h.2, colourNumber?_eq_none h.1]
    rfl

theorem HasTerminalColour.after {s : Style} (h : s.HasTerminalColour) (c : Char) :
    (s.after c).HasTerminalColour := by
  unfold Style.after
  split
  case h_5 => exact nofun
  case h_6 =>
    split
    · rename_i n hn
      exact hasTerminalColour_of_colourNumber? hn
    · exact h
  all_goals exact h

end Style

namespace Terminal

def escapeSign : Char := '\x1b'

/-- How far a terminal is in an escape sequence. -/
inductive Reading where
  | text
  | escape
  | number (n : Nat)

abbrev Cell := Style × Char

/-- What a terminal shows of its output, from a style on. -/
def screenFrom (s : Style) : Reading → List Char → List Cell
  | _, [] => []
  | .text, c :: cs =>
    if c = escapeSign then screenFrom s .escape cs else (s, c) :: screenFrom s .text cs
  | .escape, c :: cs =>
    if c = '[' then screenFrom s (.number 0) cs else screenFrom s .text cs
  | .number n, c :: cs =>
    if c.isDigit then screenFrom s (.number (10 * n + (c.toNat - '0'.toNat))) cs
    else if c = ';' then screenFrom (s.set n) (.number 0) cs
    else if c = 'm' then screenFrom (s.set n) .text cs
    else screenFrom s .text cs

def screen (out : String) : List Cell :=
  screenFrom {} .text out.toList

/-! ## Escape sequences -/

variable {s : Style} {cs ds rest : List Char} {ns : List Nat}

theorem screenFrom_digits (h : ∀ d ∈ ds, d.isDigit = true) (s : Style) (n : Nat)
    (rest : List Char) :
    screenFrom s (.number n) (ds ++ rest) =
      screenFrom s (.number (Nat.ofDigitChars 10 ds n)) rest := by
  induction ds generalizing n with
  | nil => rfl
  | cons d ds ih =>
    obtain ⟨hd, hds⟩ := List.forall_mem_cons.1 h
    rw [List.cons_append, screenFrom, if_pos hd, ih hds, Nat.ofDigitChars_cons]

theorem screenFrom_number (s : Style) (n : Nat) (rest : List Char) :
    screenFrom s (.number 0) ((toString n).toList ++ rest) = screenFrom s (.number n) rest := by
  have hdigits : ∀ d ∈ Nat.toDigits 10 n, d.isDigit = true := fun d =>
    Nat.isDigit_of_mem_toDigits (by decide) (by decide)
  rw [Nat.toString_eq_ofList_toDigits, String.toList_ofList, screenFrom_digits hdigits,
    Nat.ofDigitChars_ten_toDigits]

theorem screenFrom_numbers (h : ns ≠ []) (s : Style) (rest : List Char) :
    screenFrom s (.number 0) ((";".intercalate (ns.map toString)).toList ++ 'm' :: rest) =
      screenFrom (ns.foldl Style.set s) .text rest := by
  induction ns generalizing s with
  | nil => exact absurd rfl h
  | cons n ns ih =>
    cases ns with
    | nil =>
      rw [List.map_singleton, String.intercalate_singleton, screenFrom_number]
      rfl
    | cons m ns =>
      rw [List.map_cons, List.map_cons, String.intercalate_cons_cons, String.toList_append,
        String.toList_append, List.append_assoc, List.append_assoc, screenFrom_number,
        List.foldl_cons, ← List.map_cons, ← ih (List.cons_ne_nil m ns)]
      rfl

theorem screenFrom_escape (h : ns ≠ []) (s : Style) (rest : List Char) :
    screenFrom s .text
        ((Style.escape (";".intercalate (ns.map toString))).toList ++ rest) =
      screenFrom (ns.foldl Style.set s) .text rest := by
  rw [Style.escape, String.toList_append, String.toList_append, List.append_assoc,
    List.append_assoc, ← screenFrom_numbers h]
  rfl

theorem screenFrom_text (h : escapeSign ∉ cs) (s : Style) (rest : List Char) :
    screenFrom s .text (cs ++ rest) = cs.map (s, ·) ++ screenFrom s .text rest := by
  induction cs with
  | nil => rfl
  | cons c cs ih =>
    obtain ⟨hc, hcs⟩ := List.ne_and_not_mem_of_not_mem_cons h
    rw [List.cons_append, screenFrom, if_neg hc.symm, ih hcs]
    rfl

/-! ## Painting -/

theorem rewrite_eq_self {find? : List Char → Option (List Char × Nat)}
    (h : ∀ c ∈ cs, ∀ rest, find? (c :: rest) = none) : Text.rewrite find? cs = cs := by
  induction cs with
  | nil => rfl
  | cons c cs ih =>
    obtain ⟨hc, hcs⟩ := List.forall_mem_cons.1 h
    rw [Text.rewrite_of_none (hc cs), ih hcs]

theorem replaceAll_reset (h : escapeSign ∉ cs) (out : String) :
    Text.replaceAll Style.reset out (String.ofList cs) = String.ofList cs := by
  have hreset : Style.reset.toList = escapeSign :: "[0m".toList := by decide +kernel
  rw [Text.replaceAll, String.toList_ofList, hreset, rewrite_eq_self]
  intro c hc rest
  have hne : (c == escapeSign) = false := by
    rw [beq_eq_false_iff_ne]
    rintro rfl
    exact h hc
  simp [Text.startsWith, hne]

theorem screenFrom_reset (s : Style) (rest : List Char) :
    screenFrom s .text (Style.reset.toList ++ rest) = screenFrom {} .text rest := by
  have hzero : [0] ≠ ([] : List Nat) := List.cons_ne_nil 0 []
  exact screenFrom_escape hzero s rest

theorem screenFrom_paint (hs : s.HasTerminalColour) (h : escapeSign ∉ cs) (rest : List Char) :
    screenFrom {} .text ((s.paint true (String.ofList cs)).toList ++ rest) =
      cs.map (s, ·) ++ screenFrom {} .text rest := by
  unfold Style.paint
  by_cases hnil : s.numbers = []
  · have hplain : s = {} := Style.eq_of_numbers_eq_nil hs hnil
    rw [if_pos (by simp [hnil]), String.toList_ofList, screenFrom_text h, hplain]
  · rw [if_neg (by simpa using hnil), replaceAll_reset h, Style.start, String.toList_append,
      String.toList_append, String.toList_ofList, List.append_assoc, List.append_assoc,
      screenFrom_escape hnil, Style.foldl_set_numbers hs, screenFrom_text h, screenFrom_reset]

/-! ## Visible characters -/

/-- The characters of a text that are seen, each with all codes before it; a code is a section sign
and whatever character follows. -/
def visible (codes : List Char) : List Char → List (List Char × Char)
  | [] => []
  | [c] => if c = Colour.sectionSign then [] else [(codes, c)]
  | c :: d :: cs =>
    if c = Colour.sectionSign then visible (codes ++ [d]) cs
    else (codes, c) :: visible codes (d :: cs)

def cells : Piece → List Cell
  | (s, cs) => cs.map (s, ·)

theorem flatMap_cells_consPiece (s : Style) (cs : List Char) (ps : List Piece) :
    (consPiece s cs ps).flatMap cells = cs.map (s, ·) ++ ps.flatMap cells := by
  cases cs <;> rfl

/-- Every character of the pieces has the style that the codes before it make up. -/
theorem cells_piecesFrom (codes cs : List Char) :
    (piecesFrom (codes.foldl Style.after {}) cs).1.map (codes.foldl Style.after {}, ·) ++
        (piecesFrom (codes.foldl Style.after {}) cs).2.flatMap cells =
      (visible codes cs).map fun (codes, c) => (codes.foldl Style.after {}, c) := by
  induction codes, cs using visible.induct with
  | case1 codes => rfl
  | case2 codes => rfl
  | case3 codes c h => simp only [piecesFrom, visible, if_neg h]; rfl
  | case4 codes d cs ih =>
    rw [List.foldl_concat] at ih
    simp only [piecesFrom, visible, if_true, List.map_nil, List.nil_append,
      flatMap_cells_consPiece, ih]
  | case5 codes c d cs h ih =>
    simp only [piecesFrom, visible, if_neg h, List.map_cons, List.cons_append, ih]

theorem cells_pieces (cs : List Char) :
    (pieces cs).flatMap cells =
      (visible [] cs).map fun (codes, c) => (codes.foldl Style.after {}, c) := by
  rw [pieces, flatMap_cells_consPiece]
  exact cells_piecesFrom [] cs

theorem stripChars_eq (codes cs : List Char) :
    Colour.stripChars cs = (visible codes cs).map Prod.snd := by
  induction codes, cs using visible.induct with
  | case1 codes => rfl
  | case2 codes => rfl
  | case3 codes c h => rw [Colour.stripChars_cons h, visible, if_neg h]; rfl
  | case4 codes d cs ih => rw [Colour.stripChars_sign, visible, if_pos rfl, ih]
  | case5 codes c d cs h ih => rw [Colour.stripChars_cons h, visible, if_neg h, ih]; rfl

/-! ## Rendering -/

/-- The colour of the piece is one that terminals have, and its text no escape sequence. -/
def Printable (p : Piece) : Prop :=
  p.1.HasTerminalColour ∧ escapeSign ∉ p.2

variable {p : Piece} {ps : List Piece}

theorem eq_or_mem_of_mem_consPiece (h : p ∈ consPiece s cs ps) : p = (s, cs) ∨ p ∈ ps := by
  unfold consPiece at h
  split at h
  · exact .inr h
  · exact List.mem_cons.1 h

theorem printable_piecesFrom (hs : s.HasTerminalColour) (h : escapeSign ∉ cs) :
    Printable (s, (piecesFrom s cs).1) ∧ ∀ p ∈ (piecesFrom s cs).2, Printable p := by
  induction s, cs using piecesFrom.induct with
  | case1 s => exact ⟨⟨hs, h⟩, nofun⟩
  | case2 s => exact ⟨⟨hs, List.not_mem_nil⟩, nofun⟩
  | case3 s c hc =>
    simp only [piecesFrom, if_neg hc]
    exact ⟨⟨hs, h⟩, nofun⟩
  | case4 s d cs shown rest heq ih =>
    have hcs : escapeSign ∉ cs := fun hin =>
      h (List.mem_cons_of_mem _ (List.mem_cons_of_mem _ hin))
    obtain ⟨hshown, hpieces⟩ := ih (hs.after d) hcs
    simp only [piecesFrom, if_true]
    refine ⟨⟨hs, List.not_mem_nil⟩, fun p hp => ?_⟩
    obtain rfl | hp := eq_or_mem_of_mem_consPiece hp
    · exact hshown
    · exact hpieces p hp
  | case5 s c d cs hc shown rest heq ih =>
    obtain ⟨hne, hcs⟩ := List.ne_and_not_mem_of_not_mem_cons h
    obtain ⟨hshown, hpieces⟩ := ih hs hcs
    simp only [piecesFrom, if_neg hc]
    exact ⟨⟨hs, List.not_mem_cons_of_ne_of_not_mem hne hshown.2⟩, hpieces⟩

theorem printable_of_mem_pieces (h : escapeSign ∉ cs) (hp : p ∈ pieces cs) : Printable p := by
  have hplain : Style.HasTerminalColour {} := nofun
  obtain ⟨hshown, hpieces⟩ := printable_piecesFrom hplain h
  obtain rfl | hp := eq_or_mem_of_mem_consPiece hp
  · exact hshown
  · exact hpieces p hp

theorem toList_render (coloured : Bool) (text : String) :
    (render coloured text).toList =
      (pieces text.toList).flatMap fun (s, cs) => (s.paint coloured (String.ofList cs)).toList := by
  rw [render, String.toList_join, List.flatMap_map]

theorem screenFrom_flatMap_paint (h : ∀ p ∈ ps, Printable p) :
    screenFrom {} .text (ps.flatMap fun (s, cs) => (s.paint true (String.ofList cs)).toList) =
      ps.flatMap cells := by
  induction ps with
  | nil => rfl
  | cons p ps ih =>
    obtain ⟨⟨hcolour, hescape⟩, hps⟩ := List.forall_mem_cons.1 h
    rw [List.flatMap_cons, List.flatMap_cons, screenFrom_paint hcolour hescape, ih hps]
    rfl

theorem screen_render {text : String} (h : escapeSign ∉ text.toList) :
    screen (render true text) =
      (visible [] text.toList).map fun (codes, c) => (codes.foldl Style.after {}, c) := by
  rw [screen, toList_render, screenFrom_flatMap_paint fun p hp => printable_of_mem_pieces h hp,
    cells_pieces]

theorem toList_render_false (text : String) :
    (render false text).toList = (visible [] text.toList).map Prod.snd := by
  have hcells (p : Piece) : (p.1.paint false (String.ofList p.2)).toList =
      (cells p).map Prod.snd := by
    simp [Style.paint, cells, Function.comp_def]
  rw [toList_render, List.flatMap_congr fun p _ => hcells p, ← List.map_flatMap, cells_pieces,
    List.map_map]
  rfl

theorem toList_strip (text : String) :
    (Colour.strip text).toList = (visible [] text.toList).map Prod.snd := by
  rw [Colour.strip, String.toList_ofList, stripChars_eq []]

/-- **What is shown of a rendered text is the stripped text, formatted by its codes.** Without
colours, rendering is stripping. With colours, and if the text has no escape sequences of its own,
the screen shows the characters of the stripped text, which are the visible ones, each in the style
that the codes before it make up one after the other, from no style on. -/
theorem render_shows (text : String) :
    render false text = Colour.strip text ∧
    (escapeSign ∉ text.toList →
      (screen (render true text)).map Prod.snd = (Colour.strip text).toList ∧
      screen (render true text) =
        (visible [] text.toList).map fun (codes, c) => (codes.foldl Style.after {}, c)) ∧
    Style.FollowsCodes Style.after := by
  refine ⟨?_, fun h => ⟨?_, screen_render h⟩, Style.followsCodes_after⟩
  · rw [← String.toList_inj, toList_render_false, toList_strip]
  · rw [screen_render h, toList_strip, List.map_map]
    rfl

/-- A colour ends the bold that stands before it, an unknown code does nothing, and a section sign
at the end is not shown. -/
theorem greeting_shows :
    let text := "§lA§C§xb§"
    escapeSign ∉ text.toList ∧ render false text = "Ab" ∧
      render true text = "\x1b[1mA\x1b[0m\x1b[91mb\x1b[0m" ∧
      screen (render true text) = [({ bold := true }, 'A'), ({ colour := some 91 }, 'b')] := by
  intro text
  have hescape : escapeSign ∉ text.toList := by decide +kernel
  obtain ⟨hplain, hcoloured, -⟩ := render_shows text
  refine ⟨hescape, ?_, by decide +kernel, ?_⟩
  · rw [hplain]
    decide +kernel
  · rw [(hcoloured hescape).2]
    decide +kernel

end Terminal

end CustomCommands
