import CustomCommands.Proofs.Catalogues
import CustomCommands.Proofs.Runs
import Mathlib.Data.List.Find

/-!
# Which command a label leads to

Of the commands of one name a load keeps the first (`firsts_eq_kept`). Each of
those gets its aliases in turn, so that of an alias too the first command has it
(`find?_assign`); and since an alias that is a name is given to none, wherever in
the list the name stands, a label leads to the command of that name before any
that has it as an alias (`find?_ofCommands`).
-/

namespace CustomCommands

/-! ## Labels of one command -/

namespace Command

def isNamed (label : String) (c : Command) : Bool :=
  c.key == Catalogue.key label

def hasAlias (label : String) (c : Command) : Bool :=
  c.aliases.any fun a => Catalogue.key a == Catalogue.key label

theorem hasAlias_iff {label : String} {c : Command} :
    c.hasAlias label = true ↔ Catalogue.key label ∈ c.aliases.map Catalogue.key := by
  simp only [hasAlias, List.any_eq_true, beq_iff_eq, List.mem_map]

end Command

namespace Catalogue

/-- Of the commands of one name the first. -/
def kept (commands : List Command) : List Command :=
  (commands.zipIdx.filter fun (c, i) => (commands.take i).all fun d => d.key != c.key).map Prod.fst

/-! ## What is kept -/

/-- What is kept of `cs` behind `before`, of whose names `seen` has the keys. -/
theorem firsts_eq (before cs : List Command) {seen : List String}
    (hseen : ∀ k, k ∈ seen ↔ k ∈ before.map Command.key) :
    firsts Command.key seen cs =
      ((cs.zipIdx before.length).filter fun (c, i) =>
        ((before ++ cs).take i).all fun d => d.key != c.key).map Prod.fst := by
  induction cs generalizing before seen with
  | nil => rfl
  | cons c cs ih =>
    have hnew : (before.all fun d => d.key != c.key) = true ↔ c.key ∉ seen := by
      rw [hseen]
      simp only [List.all_eq_true, bne_iff_ne, List.mem_map, not_exists, not_and, ne_eq]
    have hlength : (before ++ [c]).length = before.length + 1 := by simp
    have happend : before ++ c :: cs = (before ++ [c]) ++ cs := by simp
    have hall (k : String) : k ∈ c.key :: seen ↔ k ∈ (before ++ [c]).map Command.key := by
      simp [hseen, or_comm]
    rw [firsts, List.zipIdx_cons, List.filter_cons]
    simp only [List.take_left, hnew]
    rw [happend, ← hlength]
    by_cases hc : c.key ∈ seen
    · rw [if_pos hc, if_neg (not_not.2 hc)]
      refine ih (before ++ [c]) fun k => ?_
      rw [← hall, List.mem_cons, or_iff_right_of_imp]
      rintro rfl
      exact hc
    · rw [if_neg hc, if_pos hc, List.map_cons, ih (before ++ [c]) hall]

theorem firsts_eq_kept (commands : List Command) :
    firsts Command.key [] commands = kept commands :=
  firsts_eq [] commands fun k => by simp

theorem mem_map_firsts {α : Type} {f : α → String} {k : String} {seen : List String}
    {as : List α} : k ∈ (firsts f seen as).map f ↔ k ∈ as.map f ∧ k ∉ seen := by
  induction as generalizing seen with
  | nil => simp [firsts]
  | cons a as ih =>
    rw [firsts]
    split
    · next hseen =>
      rw [ih, List.map_cons, List.mem_cons]
      constructor
      · rintro ⟨hk, hnew⟩
        exact ⟨.inr hk, hnew⟩
      · rintro ⟨rfl | hk, hnew⟩
        · exact absurd hseen hnew
        · exact ⟨hk, hnew⟩
    · next hseen =>
      rw [List.map_cons, List.mem_cons, ih, List.map_cons, List.mem_cons, List.mem_cons]
      by_cases hk : k = f a
      · simp [hk, hseen]
      · simp [hk]

/-! ## Who gets an alias -/

def Entry.hasAlias (label : String) (e : Entry) : Bool :=
  e.aliases.any fun a => key a == key label

theorem Entry.hasAlias_iff {label : String} {e : Entry} :
    e.hasAlias label = true ↔ key label ∈ e.aliases.map key := by
  simp only [hasAlias, List.any_eq_true, beq_iff_eq, List.mem_map]

theorem Entry.answersTo_eq (label : String) (e : Entry) :
    e.answersTo label = (e.command.isNamed label || e.hasAlias label) := rfl

/-- An alias that is not taken goes to the first command that has it. -/
theorem find?_assign (label : String) (taken : List String) (cs : List Command) :
    ((assign taken cs).value.find? (Entry.hasAlias label)).map Entry.command =
      if key label ∈ taken then none else cs.find? (Command.hasAlias label) := by
  induction cs generalizing taken with
  | nil => simp [assign]
  | cons c cs ih =>
    simp only [assign, Noted.value_bind, Noted.value_pure, accept_value]
    have hgiven : Entry.hasAlias label ⟨c, firsts key taken c.aliases⟩ =
        (c.hasAlias label && decide (key label ∉ taken)) := by
      rw [Bool.eq_iff_iff, Entry.hasAlias_iff, mem_map_firsts, Bool.and_eq_true,
        Command.hasAlias_iff, decide_eq_true_eq]
    have hrest := ih ((firsts key taken c.aliases).map key ++ taken)
    simp only [List.mem_append, mem_map_firsts, ← Command.hasAlias_iff] at hrest
    rw [List.find?_cons, List.find?_cons, hgiven]
    by_cases htaken : key label ∈ taken
    · simpa [htaken] using hrest
    · cases hc : c.hasAlias label with
      | true => simp [htaken]
      | false => simpa [htaken, hc] using hrest

/-! ## Names before aliases -/

theorem find?_ofCommands (label : String) (commands : List Command) :
    (ofCommands commands).value.find? label =
      ((kept commands).find? (Command.isNamed label)).or
        ((kept commands).find? (Command.hasAlias label)) := by
  simp only [ofCommands, Noted.value_bind, Noted.value_pure, distinct_value, firsts_eq_kept]
  generalize kept commands = cs
  have hcommands := assign_commands (cs.map Command.key) cs
  have hnames : ((assign (cs.map Command.key) cs).value.find? fun e =>
      e.command.isNamed label).map Entry.command = cs.find? (Command.isNamed label) := by
    conv_rhs => rw [← hcommands, List.find?_map]
    rfl
  have haliases := find?_assign label (cs.map Command.key) cs
  have hfree := (nodup_assign (cs.map Command.key) cs).2
  generalize (assign (cs.map Command.key) cs).value = entries at hnames haliases hfree ⊢
  have hnamed : cs.find? (Command.isNamed label) = none ↔ key label ∉ cs.map Command.key := by
    simp only [List.find?_eq_none, Command.isNamed, beq_iff_eq, List.mem_map, not_exists, not_and]
  unfold find?
  by_cases hlabel : key label ∈ cs.map Command.key
  · -- no command was given the label as an alias
    have hanswers : ∀ e ∈ entries, e.answersTo label = e.command.isNamed label := by
      intro e he
      have hnone : e.hasAlias label = false := by
        rw [← Bool.not_eq_true, Entry.hasAlias_iff]
        exact fun hk => hfree _ (List.mem_flatMap.2 ⟨e, he, hk⟩) hlabel
      rw [Entry.answersTo_eq, hnone, Bool.or_false]
    rw [List.find?_congr hanswers, hnames]
    cases hc : cs.find? (Command.isNamed label) with
    | none => exact absurd hlabel (hnamed.1 hc)
    | some c => rfl
  · -- no command has the label as its name
    have hnone := hnamed.2 hlabel
    have hanswers : ∀ e ∈ entries, e.answersTo label = e.hasAlias label := by
      intro e he
      have hother : e.command.isNamed label = false := by
        rw [← hnames, Option.map_eq_none_iff, List.find?_eq_none] at hnone
        exact Bool.eq_false_iff.2 (hnone e he)
      rw [Entry.answersTo_eq, hother, Bool.false_or]
    rw [List.find?_congr hanswers, haliases, if_neg hlabel, hnone, Option.none_or]

theorem nodup_kept (commands : List Command) : ((kept commands).map Command.key).Nodup := by
  rw [← firsts_eq_kept]
  exact (nodup_firsts Command.key [] commands).1

theorem find?_isNamed {label : String} {c : Command} {cs : List Command}
    (h : (cs.map Command.key).Nodup) (hc : c ∈ cs) (hlabel : c.isNamed label = true) :
    cs.find? (Command.isNamed label) = some c :=
  Assoc.find?_of_nodup h hc (beq_iff_eq.1 hlabel)

/-! ## Names in order -/

theorem names_ofCommands (commands : List Command) :
    (ofCommands commands).value.names.Perm ((kept commands).map Command.name) ∧
      (ofCommands commands).value.names.Pairwise (· ≤ ·) := by
  simp only [ofCommands, Noted.value_bind, Noted.value_pure, distinct_value, firsts_eq_kept]
  generalize kept commands = cs
  have hcommands := assign_commands (cs.map Command.key) cs
  generalize (assign (cs.map Command.key) cs).value = entries at hcommands ⊢
  rw [← hcommands, List.map_map]
  refine ⟨List.mergeSort_perm _ _, ?_⟩
  have hsorted : (List.mergeSort (entries.map fun e => e.command.name) fun a b =>
      decide (a ≤ b)).Pairwise fun a b => decide (a ≤ b) = true :=
    List.pairwise_mergeSort (by simpa using fun a b c => String.le_trans)
      (by simpa using String.le_total) _
  unfold names
  simpa only [decide_eq_true_eq] using hsorted

end Catalogue

namespace Dispatcher

variable {N : Type}

/-- **Which command a label leads to.** Whatever was loaded before, a load keeps the first command
of each name. Any label then leads to the kept command of that name, and else to the first kept one
that has it as an alias. So a kept command is reached by its name whatever the aliases of others
are, and a label that only commands have that were not kept leads nowhere. The names listed are
those of the kept commands, in order. -/
theorem load_resolves (commands : List Command) (d : Dispatcher N) :
    let after := (d.load commands).after
    let kept := Catalogue.kept commands
    (∀ label, after.command? label =
      (kept.find? (Command.isNamed label)).or (kept.find? (Command.hasAlias label))) ∧
    (∀ c ∈ kept, ∀ label, c.isNamed label = true → after.command? label = some c) ∧
    (∀ label, after.command? label = none ↔
      ∀ c ∈ kept, c.isNamed label = false ∧ c.hasAlias label = false) ∧
    after.catalogue.names.Perm (kept.map Command.name) ∧
    after.catalogue.names.Pairwise (· ≤ ·) := by
  intro after kept
  have hcatalogue : after.catalogue = (Catalogue.ofCommands commands).value :=
    load_catalogue commands d
  have hresolve (label : String) : after.command? label =
      (kept.find? (Command.isNamed label)).or (kept.find? (Command.hasAlias label)) := by
    rw [command?, hcatalogue]
    exact Catalogue.find?_ofCommands label commands
  refine ⟨hresolve, fun c hc label hlabel => ?_, fun label => ?_, ?_⟩
  · rw [hresolve, Catalogue.find?_isNamed (Catalogue.nodup_kept commands) hc hlabel]
    rfl
  · simp only [hresolve, Option.or_eq_none_iff, List.find?_eq_none, Bool.not_eq_true]
    exact ⟨fun ⟨hname, halias⟩ c hc => ⟨hname c hc, halias c hc⟩,
      fun h => ⟨fun c hc => (h c hc).1, fun c hc => (h c hc).2⟩⟩
  · rw [hcatalogue]
    exact Catalogue.names_ofCommands commands

end Dispatcher

end CustomCommands
