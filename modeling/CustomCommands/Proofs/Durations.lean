import CustomCommands.Cooldowns
import CustomCommands.Duration
import CustomCommands.Proofs.Words
import Mathlib.Algebra.Group.Int.Defs
import Mathlib.Algebra.Group.Nat.Defs

/-!
# Durations as they are written

A text is `Written` for so many units of so many seconds if its words are a whole
number, with a sign or without, and a word that begins with the name of the unit.
Reading a number gives its value (`Decimal.readInt_eq_some_iff`), so a duration is
read for just these texts, and is as long as they say up to the most seconds that
there can be (`seconds?_eq_some_iff`).
-/

namespace CustomCommands

/-! ## Whole numbers -/

namespace Decimal

def Digits (ds : List Char) : Prop :=
  ds ≠ [] ∧ ∀ d ∈ ds, d.isDigit = true

/-- A whole number as it is written, and its value. -/
inductive Numeral : List Char → Int → Prop where
  | unsigned {ds : List Char} (digits : Digits ds) : Numeral ds (Nat.ofDigitChars 10 ds 0)
  | plus {ds : List Char} (digits : Digits ds) : Numeral ('+' :: ds) (Nat.ofDigitChars 10 ds 0)
  | minus {ds : List Char} (digits : Digits ds) : Numeral ('-' :: ds) (-Nat.ofDigitChars 10 ds 0)

variable {c : Char} {cs ds : List Char} {acc n : Nat} {low high v : Int}

theorem toNat_of_isDigit (h : c.isDigit = true) : c.toNat - '0'.toNat < 10 := by
  have hle : c.val ≤ '9'.val := by
    simp only [Char.isDigit, Bool.and_eq_true, decide_eq_true_eq] at h
    exact h.2
  have hnat : c.toNat ≤ 57 := UInt32.le_iff_toNat_le.1 hle
  have hzero : '0'.toNat = 48 := rfl
  omega

/-- Letters count from ten on, so they are no decimal digits. -/
theorem digitValue_ten (c : Char) :
    digitValue 10 c = if c.isDigit then some (c.toNat - '0'.toNat) else none := by
  have hdigit : ('0' ≤ c && c ≤ '9') = c.isDigit := rfl
  unfold digitValue
  rw [hdigit]
  cases hc : c.isDigit with
  | true => exact if_pos (toNat_of_isDigit hc)
  | false =>
    simp only [Bool.false_eq_true, if_false]
    rw [if_neg]
    split
    · omega
    · split <;> omega

theorem readDigits_eq_some_iff :
    readDigits 10 acc cs = some n ↔
      (∀ c ∈ cs, c.isDigit = true) ∧ Nat.ofDigitChars 10 cs acc = n := by
  induction cs generalizing acc with
  | nil => simp [readDigits]
  | cons c cs ih =>
    rw [readDigits, digitValue_ten, Nat.ofDigitChars_cons, List.forall_mem_cons]
    by_cases hc : c.isDigit = true
    · simp [hc, ih, Nat.mul_comm]
    · simp [hc]

theorem readNat_eq_some_iff :
    readNat 10 cs = some n ↔ Digits cs ∧ Nat.ofDigitChars 10 cs 0 = n := by
  cases cs with
  | nil => simp [readNat, Digits]
  | cons c cs =>
    have hread : readNat 10 (c :: cs) = readDigits 10 0 (c :: cs) := rfl
    rw [hread, readDigits_eq_some_iff, Digits, and_iff_right (List.cons_ne_nil c cs)]

theorem takeSign_of_digits (h : Digits ds) : takeSign ds = (false, ds) := by
  unfold takeSign
  split
  · exact absurd (h.2 '-' List.mem_cons_self) (by decide)
  · exact absurd (h.2 '+' List.mem_cons_self) (by decide)
  · rfl

theorem numeral_iff :
    Numeral cs v ↔
      Digits (takeSign cs).2 ∧
        (if (takeSign cs).1 then -(Nat.ofDigitChars 10 (takeSign cs).2 0 : Int)
          else Nat.ofDigitChars 10 (takeSign cs).2 0) = v := by
  constructor
  · intro h
    cases h with
    | unsigned digits =>
      rw [takeSign_of_digits digits]
      exact ⟨digits, rfl⟩
    | plus digits => exact ⟨digits, rfl⟩
    | minus digits => exact ⟨digits, rfl⟩
  · unfold takeSign
    split
    · rintro ⟨digits, rfl⟩
      exact .minus digits
    · rintro ⟨digits, rfl⟩
      exact .plus digits
    · rintro ⟨digits, rfl⟩
      exact .unsigned digits

theorem readInt_eq_some_iff :
    readInt low high cs = some v ↔ Numeral cs v ∧ low ≤ v ∧ v ≤ high := by
  rw [numeral_iff, readInt]
  simp only [Option.bind_eq_some_iff, readNat_eq_some_iff, Option.ite_none_right_eq_some,
    Option.some.injEq, Bool.and_eq_true, decide_eq_true_eq]
  constructor
  · rintro ⟨n, ⟨digits, rfl⟩, hin, rfl⟩
    exact ⟨⟨digits, rfl⟩, hin⟩
  · rintro ⟨⟨digits, rfl⟩, hin⟩
    exact ⟨_, ⟨digits, rfl⟩, hin, rfl⟩

/-! Capitals A to Z are no digits and no signs, and neither are their small letters. -/

theorem readDigits_map_toLower (acc : Nat) (cs : List Char) :
    readDigits 10 acc (cs.map Char.toLower) = readDigits 10 acc cs := by
  induction cs generalizing acc with
  | nil => rfl
  | cons c cs ih =>
    have hdigit : digitValue 10 c.toLower = digitValue 10 c :=
      Text.apply_toLower (digitValue 10) (by decide) c
    simp only [List.map_cons, readDigits, hdigit, ih]

theorem readNat_map_toLower (cs : List Char) :
    readNat 10 (cs.map Char.toLower) = readNat 10 cs := by
  cases cs with
  | nil => rfl
  | cons c cs => exact readDigits_map_toLower 0 (c :: cs)

theorem takeSign_cons (c : Char) (cs : List Char) :
    takeSign (c :: cs) = (c == '-', if c == '-' || c == '+' then cs else c :: cs) := by
  by_cases hminus : c = '-'
  · subst hminus
    rfl
  by_cases hplus : c = '+'
  · subst hplus
    rfl
  rw [takeSign] <;> simp_all

theorem takeSign_map_toLower (cs : List Char) :
    takeSign (cs.map Char.toLower) = ((takeSign cs).1, (takeSign cs).2.map Char.toLower) := by
  cases cs with
  | nil => rfl
  | cons c cs =>
    have hminus : (c.toLower == '-') = (c == '-') :=
      Text.apply_toLower (· == '-') (by decide) c
    have hplus : (c.toLower == '+') = (c == '+') :=
      Text.apply_toLower (· == '+') (by decide) c
    rw [List.map_cons, takeSign_cons, takeSign_cons, hminus, hplus]
    split <;> rfl

theorem readInt_map_toLower (low high : Int) (cs : List Char) :
    readInt low high (cs.map Char.toLower) = readInt low high cs := by
  simp only [readInt, takeSign_map_toLower, readNat_map_toLower]

end Decimal

/-! ## Durations -/

namespace Duration

open Decimal (Numeral)

def units : List (String × Nat) :=
  [("sec", 1), ("min", 60), ("hour", 3600)]

/-- The word begins with a unit of so many seconds, in any case of A to Z. -/
def NamesUnit (word : List Char) (seconds : Nat) : Prop :=
  ∃ name, (name, seconds) ∈ units ∧ name.toList <+: word.map Char.toLower

/-- The text says `amount` times a unit of `unit` seconds. -/
structure Written (text : String) (amount unit : Nat) : Prop where
  words : ∃ number word, Text.Spaced text.toList [number, word] ∧ Numeral number amount ∧
    NamesUnit word unit
  positive : 1 ≤ amount
  bounded : amount ≤ 2 ^ 63 - 1

variable {word : List Char} {text text' : String} {amount amount' unit n : Nat}

theorem amount?_eq_some_iff {digits : List Char} :
    amount? digits = some n ↔ Numeral digits n ∧ 1 ≤ n ∧ n ≤ 2 ^ 63 - 1 := by
  rw [amount?, Option.bind_eq_some_iff]
  simp only [Decimal.readInt64, Decimal.readInt_eq_some_iff, Option.ite_none_right_eq_some,
    Option.some.injEq]
  constructor
  · rintro ⟨v, ⟨hnumeral, -, hle⟩, hpos, rfl⟩
    have hv : (v.toNat : Int) = v := Int.toNat_of_nonneg (by omega)
    exact ⟨hv.symm ▸ hnumeral, by omega, by omega⟩
  · rintro ⟨hnumeral, hpos, hle⟩
    exact ⟨n, ⟨hnumeral, by omega, by omega⟩, by omega, rfl⟩

theorem unitSeconds?_eq_some_iff : unitSeconds? word = some n ↔ NamesUnit word n := by
  constructor
  · intro h
    simp only [unitSeconds?, Text.startsWith_iff] at h
    split at h
    · rename_i hsec
      exact ⟨"sec", by simpa [units] using h.symm, hsec⟩
    split at h
    · rename_i hmin
      exact ⟨"min", by simpa [units] using h.symm, hmin⟩
    split at h
    · rename_i hhour
      exact ⟨"hour", by simpa [units] using h.symm, hhour⟩
    · cases h
  · -- the first letter already tells which unit it can be
    rintro ⟨name, hname, rest, hrest⟩
    unfold unitSeconds?
    rw [← hrest]
    simp only [units, List.mem_cons, Prod.mk.injEq, List.not_mem_nil, or_false] at hname
    rcases hname with ⟨rfl, rfl⟩ | ⟨rfl, rfl⟩ | ⟨rfl, rfl⟩ <;> simp [Text.startsWith]

theorem seconds?_eq_some_iff :
    seconds? text = some n ↔
      ∃ amount unit, Written text amount unit ∧ n = min (amount * unit) maxSeconds := by
  unfold seconds?
  constructor
  · intro h
    split at h
    · rename_i number word hwords
      obtain ⟨amount, hamount, h⟩ := Option.bind_eq_some_iff.1 h
      obtain ⟨unit, hunit, h⟩ := Option.bind_eq_some_iff.1 h
      obtain ⟨hnumeral, hpos, hle⟩ := amount?_eq_some_iff.1 hamount
      refine ⟨amount, unit, ⟨⟨number, word, Text.words_eq_iff.1 hwords, hnumeral, ?_⟩, hpos, hle⟩,
        (Option.some.inj h).symm⟩
      exact unitSeconds?_eq_some_iff.1 hunit
    · cases h
  · rintro ⟨amount, unit, ⟨⟨number, word, hspaced, hnumeral, hunit⟩, hpos, hle⟩, rfl⟩
    rw [hspaced.words_eq]
    simp only [amount?_eq_some_iff.2 ⟨hnumeral, hpos, hle⟩, unitSeconds?_eq_some_iff.2 hunit]
    rfl

theorem Written.seconds_eq (h : Written text amount unit) :
    seconds text = min (amount * unit) maxSeconds := by
  rw [seconds, seconds?_eq_some_iff.2 ⟨amount, unit, h, rfl⟩]
  rfl

theorem Written.seconds_pos (h : Written text amount unit) : 0 < seconds text := by
  obtain ⟨-, -, -, -, name, hname, -⟩ := h.words
  have hunit : 1 ≤ unit := by
    simp only [units, List.mem_cons, Prod.mk.injEq, List.not_mem_nil, or_false] at hname
    omega
  have hproduct : 0 < amount * unit := Nat.mul_pos h.positive hunit
  rw [h.seconds_eq, Nat.lt_min]
  exact ⟨hproduct, by decide⟩

theorem seconds_of_unwritten (h : ¬ ∃ amount unit, Written text amount unit) :
    seconds text = 0 := by
  rw [seconds]
  cases hread : seconds? text with
  | none => rfl
  | some n =>
    obtain ⟨amount, unit, hwritten, -⟩ := seconds?_eq_some_iff.1 hread
    exact absurd ⟨amount, unit, hwritten⟩ h

/-! ## What does not matter -/

theorem seconds_congr (h : Text.words text.toList = Text.words text'.toList) :
    seconds text = seconds text' := by
  rw [seconds, seconds, seconds?, seconds?, h]

/-- Only the words of a text count, not the blanks between them. -/
theorem seconds_of_spaced {ws : List (List Char)} (h : Text.Spaced text.toList ws)
    (h' : Text.Spaced text'.toList ws) : seconds text = seconds text' :=
  seconds_congr (h.words_eq.trans h'.words_eq.symm)

theorem unitSeconds?_map_toLower (word : List Char) :
    unitSeconds? (word.map Char.toLower) = unitSeconds? word := by
  have hsmall : Char.toLower ∘ Char.toLower = Char.toLower := funext Text.toLower_toLower
  rw [unitSeconds?, List.map_map, hsmall]
  rfl

theorem seconds_asciiLower (text : String) : seconds (Text.asciiLower text) = seconds text := by
  rw [seconds, seconds, seconds?, seconds?, Text.asciiLower, String.toList_map,
    Text.words_map_toLower]
  rcases Text.words text.toList with - | ⟨number, - | ⟨word, - | ⟨more, ws⟩⟩⟩
  · rfl
  · rfl
  · have hnumber : amount? (number.map Char.toLower) = amount? number := by
      rw [amount?, amount?, Decimal.readInt64, Decimal.readInt_map_toLower]
    simp only [List.map_cons, List.map_nil, hnumber, unitSeconds?_map_toLower]
  · rfl

theorem seconds_of_sameIgnoringCase (h : Text.sameIgnoringCase text text' = true) :
    seconds text = seconds text' := by
  rw [Text.sameIgnoringCase, beq_iff_eq] at h
  rw [← seconds_asciiLower text, ← seconds_asciiLower text', h]

theorem Written.seconds_le (h : Written text amount unit) (h' : Written text' amount' unit)
    (hle : amount ≤ amount') : seconds text ≤ seconds text' := by
  have hproduct : amount * unit ≤ amount' * unit := Nat.mul_le_mul_right unit hle
  rw [h.seconds_eq, h'.seconds_eq]
  omega

/-! ## Cooldowns -/

theorem exists_expiry_start {duration : Nat} (hpos : duration ≠ 0) (command : String) (actor : Uuid)
    (now : Nat) (c : Cooldowns) :
    ∃ expiry, (c.start command actor duration now).1.expiry? command actor = some expiry ∧
      (c.start command actor duration now).2 = some { command, actor, expiry } ∧
      now < expiry ∧ expiry ≤ now + Cooldowns.maxDuration := by
  have hmax : 0 < Cooldowns.maxDuration := by decide
  refine ⟨now + min duration Cooldowns.maxDuration, ?_, ?_, by omega, by omega⟩
  · rw [Cooldowns.expiry?_start, if_pos ⟨hpos, rfl, rfl⟩]
  · rw [Cooldowns.start, if_neg hpos]

/-- **Durations are read as they are written.**

* A text is read as so many seconds, more than none, exactly if its words are a whole number from
  1 to `2 ^ 63 - 1`, with a sign or without, and a word that begins with `sec`, `min` or `hour` in
  any case of A to Z, and the seconds are their product, but at most `2 ^ 64 - 1`. Every other text
  is read as none.
* Texts of the same words are read alike, whatever blanks stand around the words. So more blanks
  before the text, or in it where a blank or its end follows, make no difference, and neither does
  the case of A to Z; of one unit, a larger number is not read as less.
* A cooldown that is started now with what was read ends after now, and no later than the longest
  one does, unless nothing was read, and then there is none. -/
theorem seconds_written (text : String) :
    (∀ n, 0 < n → (seconds text = n ↔
      ∃ amount unit, Written text amount unit ∧ n = min (amount * unit) (2 ^ 64 - 1))) ∧
    (seconds text = 0 ↔ ¬ ∃ amount unit, Written text amount unit) ∧
    (∀ text' ws, Text.Spaced text.toList ws → Text.Spaced text'.toList ws →
      seconds text = seconds text') ∧
    (∀ blanks, Text.AllBlank blanks →
      seconds (String.ofList (blanks ++ text.toList)) = seconds text ∧
      ∀ start rest, text.toList = start ++ rest → Text.AtGap rest →
        seconds (String.ofList (start ++ blanks ++ rest)) = seconds text) ∧
    (∀ text', Text.sameIgnoringCase text text' = true → seconds text = seconds text') ∧
    (∀ text' amount amount' unit, Written text amount unit → Written text' amount' unit →
      amount ≤ amount' → seconds text ≤ seconds text') ∧
    ∀ command actor now (c : Cooldowns),
      let started := c.start command actor (1000 * seconds text) now
      (seconds text = 0 → started = (c, none)) ∧
      (seconds text ≠ 0 →
        ∃ expiry, started.1.expiry? command actor = some expiry ∧
          started.2 = some { command, actor, expiry } ∧
          now < expiry ∧ expiry ≤ now + Cooldowns.maxDuration) := by
  have hmax : maxSeconds = 2 ^ 64 - 1 := by decide
  refine ⟨fun n hn => ⟨?_, ?_⟩, ⟨?_, seconds_of_unwritten⟩, ?_, ?_, ?_, ?_, ?_⟩
  · rintro rfl
    by_cases h : ∃ amount unit, Written text amount unit
    · obtain ⟨amount, unit, h⟩ := h
      exact ⟨amount, unit, h, hmax ▸ h.seconds_eq⟩
    · rw [seconds_of_unwritten h] at hn
      cases hn
  · rintro ⟨amount, unit, h, rfl⟩
    exact hmax ▸ h.seconds_eq
  · rintro hzero ⟨amount, unit, h⟩
    exact Nat.ne_of_gt h.seconds_pos hzero
  · exact fun text' ws => seconds_of_spaced
  · intro blanks hblanks
    refine ⟨seconds_congr ?_, fun start rest htext hgap => seconds_congr ?_⟩
    · rw [String.toList_ofList, Text.words_append_of_allBlank hblanks]
    · rw [String.toList_ofList, Text.words_append_blanks hblanks hgap, htext]
  · exact fun text' => seconds_of_sameIgnoringCase
  · exact fun text' amount amount' unit => Written.seconds_le
  · intro command actor now c started
    refine ⟨fun hzero => ?_, fun hpos => ?_⟩
    · simp only [started, hzero]
      rfl
    · exact exists_expiry_start (by omega) command actor now c

/-- The largest number of hours is cut off twice, and the cooldown still ends after it starts. -/
theorem longest_hours :
    let text := "\u00a0+9223372036854775807\tHours"
    Written text 9223372036854775807 3600 ∧ seconds text = 2 ^ 64 - 1 ∧
      ∃ expiry,
        (({} : Cooldowns).start "home" ⟨1⟩ (1000 * seconds text) 5).1.expiry? "home" ⟨1⟩ =
          some expiry ∧ 5 < expiry ∧ expiry ≤ 5 + Cooldowns.maxDuration := by
  intro text
  have hwords : Text.words text.toList = ["+9223372036854775807".toList, "Hours".toList] := by
    decide +kernel
  have hamount : amount? "+9223372036854775807".toList = some 9223372036854775807 := by
    decide +kernel
  have hunit : unitSeconds? "Hours".toList = some 3600 := by decide +kernel
  obtain ⟨hnumeral, hpos, hle⟩ := amount?_eq_some_iff.1 hamount
  have hwritten : Written text 9223372036854775807 3600 :=
    ⟨⟨_, _, Text.words_eq_iff.1 hwords, hnumeral, unitSeconds?_eq_some_iff.1 hunit⟩, hpos, hle⟩
  obtain ⟨hread, -, -, -, -, -, hstart⟩ := seconds_written text
  have hseconds : seconds text = 2 ^ 64 - 1 :=
    (hread (2 ^ 64 - 1) (by decide)).2 ⟨_, _, hwritten, by decide⟩
  obtain ⟨expiry, hexpiry, -, hafter, hwithin⟩ :=
    (hstart "home" ⟨1⟩ 5 {}).2 (by rw [hseconds]; decide)
  exact ⟨hwritten, hseconds, expiry, hexpiry, hafter, hwithin⟩

end Duration

end CustomCommands
