import CustomCommands.Files.Path
import Mathlib.Data.String.Basic

/-!
# Joined paths

A name that a file can have is one piece of a path (`Path.IsName`). So a directory's path
joined with it has the pieces of the directory's path and the name behind them
(`Path.pieces_join`), starts where the directory's path starts, and is in the order of
the names (`Path.join_lt_join`).
-/

namespace CustomCommands.Path

/-- Can a file have the name? -/
def IsName (n : String) : Prop :=
  '/' ∉ n.toList ∧ '\x00' ∉ n.toList ∧ isHere n.toList = false ∧ isAround n.toList = false ∧
    isTooLongName n.toList = false

instance (n : String) : Decidable (IsName n) :=
  inferInstanceAs (Decidable (_ ∧ _))

theorem pieces_ne_nil (cs : List Char) : pieces cs ≠ [] := by
  cases cs with
  | nil => exact List.cons_ne_nil _ _
  | cons c cs =>
    rw [pieces]
    repeat' split
    all_goals exact List.cons_ne_nil _ _

theorem pieces_cons {c : Char} (h : c ≠ '/') (cs : List Char) :
    ∃ w ws, pieces cs = w :: ws ∧ pieces (c :: cs) = (c :: w) :: ws := by
  cases hcs : pieces cs with
  | nil => exact absurd hcs (pieces_ne_nil cs)
  | cons w ws => exact ⟨w, ws, rfl, by rw [pieces, beq_false_of_ne h, hcs]; rfl⟩

theorem pieces_append_slash (as bs : List Char) :
    pieces (as ++ '/' :: bs) = pieces as ++ pieces bs := by
  induction as with
  | nil => rfl
  | cons a as ih =>
    by_cases ha : a = '/'
    · subst ha
      change [] :: pieces (as ++ '/' :: bs) = [] :: pieces as ++ pieces bs
      rw [ih, List.cons_append]
    · obtain ⟨w, ws, hrest, hall⟩ := pieces_cons ha (as ++ '/' :: bs)
      obtain ⟨w', ws', hrest', hall'⟩ := pieces_cons ha as
      rw [ih, hrest', List.cons_append, List.cons.injEq] at hrest
      rw [List.cons_append, hall, hall', ← hrest.1, ← hrest.2, List.cons_append]

theorem pieces_of_not_mem {cs : List Char} (h : '/' ∉ cs) : pieces cs = [cs] := by
  induction cs with
  | nil => rfl
  | cons c cs ih =>
    rw [List.mem_cons, not_or] at h
    obtain ⟨w, ws, hrest, hall⟩ := pieces_cons (Ne.symm h.1) cs
    rw [ih h.2, List.cons.injEq] at hrest
    rw [hall, ← hrest.1, ← hrest.2]

/-- A piece has no slash, and no other character than the text. -/
theorem mem_of_mem_pieces {cs w : List Char} (hw : w ∈ pieces cs) :
    '/' ∉ w ∧ ∀ c ∈ w, c ∈ cs := by
  induction cs generalizing w with
  | nil =>
    cases List.mem_singleton.1 hw
    exact ⟨List.not_mem_nil, nofun⟩
  | cons c cs ih =>
    by_cases hc : c = '/'
    · subst hc
      rcases List.mem_cons.1 hw with rfl | hw
      · exact ⟨List.not_mem_nil, nofun⟩
      · exact ⟨(ih hw).1, fun d hd => List.mem_cons_of_mem _ ((ih hw).2 d hd)⟩
    · obtain ⟨v, vs, hrest, hall⟩ := pieces_cons hc cs
      rw [hall] at hw
      rcases List.mem_cons.1 hw with rfl | hw
      · obtain ⟨hslash, hmem⟩ := ih (w := v) (by rw [hrest]; exact List.mem_cons_self)
        refine ⟨?_, fun d hd => ?_⟩
        · rw [List.mem_cons, not_or]
          exact ⟨Ne.symm hc, hslash⟩
        · rcases List.mem_cons.1 hd with rfl | hd
          · exact List.mem_cons_self
          · exact List.mem_cons_of_mem _ (hmem d hd)
      · have hw : w ∈ pieces cs := hrest ▸ List.mem_cons_of_mem _ hw
        exact ⟨(ih hw).1, fun d hd => List.mem_cons_of_mem _ ((ih hw).2 d hd)⟩

/-- What stands between a directory's path and a name. -/
def joint (base : String) : List Char :=
  if base.toList.getLast? == some '/' then [] else ['/']

theorem toList_join {base n : String} (hbase : base ≠ "") (hn : IsName n) :
    (join base n).toList = base.toList ++ joint base ++ n.toList := by
  have hrelative : isAbsolute n = false := by
    rw [isAbsolute, Bool.eq_false_iff, ne_eq, beq_iff_eq]
    exact fun h => hn.1 (List.mem_of_head? h)
  have hnonempty : base.isEmpty = false := by
    simpa using hbase
  rw [join, hrelative, hnonempty, joint]
  by_cases h : base.toList.getLast? = some '/'
  · simp [h]
  · simp [h]

/-- The pieces of a joined path are those of the directory's and the name, but for an empty piece
behind a slash at the directory's end. -/
theorem pieces_join {base n : String} (hbase : base ≠ "") (hn : IsName n) :
    ∃ ws, pieces (join base n).toList = ws ++ [n.toList] ∧
      (pieces base.toList = ws ∨ pieces base.toList = ws ++ [[]]) := by
  rw [toList_join hbase hn, joint]
  -- a slash at the directory's end is the one that divides
  by_cases hslash : base.toList.getLast? = some '/'
  · obtain ⟨cs, hcs⟩ := List.getLast?_eq_some_iff.1 hslash
    refine ⟨pieces cs, ?_, .inr ?_⟩
    · simp [hcs, pieces_append_slash, pieces_of_not_mem hn.1]
    · rw [hcs, pieces_append_slash]
      rfl
  · refine ⟨pieces base.toList, ?_, .inl rfl⟩
    simp [hslash, pieces_append_slash, pieces_of_not_mem hn.1]

theorem isAbsolute_join {base n : String} (hbase : base ≠ "") (hn : IsName n) :
    isAbsolute (join base n) = isAbsolute base := by
  have hnonempty : base.toList ≠ [] := by simpa using hbase
  rw [isAbsolute, isAbsolute, toList_join hbase hn, List.append_assoc,
    List.head?_append_of_ne_nil _ hnonempty]

/-- Joined paths are in the order of the names. -/
theorem join_lt_join {base m n : String} (hbase : base ≠ "") (hm : IsName m) (hn : IsName n)
    (h : m < n) : join base m < join base n := by
  rw [String.lt_iff_toList_lt, toList_join hbase hm, toList_join hbase hn]
  exact List.append_left_lt (String.lt_iff_toList_lt.1 h)

end CustomCommands.Path
