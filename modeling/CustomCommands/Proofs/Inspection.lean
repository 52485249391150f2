import CustomCommands.Program
import CustomCommands.Proofs.LetterCase
import CustomCommands.Proofs.Precedence
import CustomCommands.Proofs.Reloads

/-!
# Inspecting what would be called

An inspection shows the first command of a directory that has the name, as its
name or as an alias, with A to Z taken as a to z; a dispatcher that has loaded the
directory calls the one of that name before any alias, in any letter case. What
an inspection finds is some label's, so the dispatcher calls something as well
(`isNamed_or_hasAlias`). They are the same command if the label agrees up to the
case of A to Z and no command before has the name as an alias, and only then
(`find?_isCalled_eq_iff`).
-/

namespace CustomCommands

theorem Catalogue.kept_of_nodup {commands : List Command}
    (h : (commands.map Command.key).Nodup) : kept commands = commands := by
  rw [← firsts_eq_kept, ← distinct_value, distinct_of_nodup h fun c _ => List.not_mem_nil,
    Noted.value_pure]

/-! ## Two look-ups -/

namespace Program

variable {name : String} {c : Command} {commands : List Command}

theorem isNamed_or_hasAlias (h : isCalled name c = true) :
    c.isNamed name = true ∨ c.hasAlias name = true := by
  rw [isCalled, Bool.or_eq_true, List.any_eq_true] at h
  rcases h with h | ⟨a, ha, h⟩
  · exact .inl (beq_iff_eq.2 (Text.lower_eq_of_sameIgnoringCase h))
  · exact .inr (List.any_eq_true.2 ⟨a, ha, beq_iff_eq.2 (Text.lower_eq_of_sameIgnoringCase h)⟩)

theorem isCalled_of_ascii (hname : Text.isAscii name = true)
    (hlabels : ∀ l ∈ c.name :: c.aliases, Text.isAscii l = true)
    (h : c.isNamed name = true ∨ c.hasAlias name = true) : isCalled name c = true := by
  have hsame (l : String) (hl : l ∈ c.name :: c.aliases)
      (hkey : Catalogue.key l = Catalogue.key name) : Text.sameIgnoringCase l name = true :=
    Text.sameIgnoringCase_of_lower_eq (hlabels l hl) hname hkey
  rw [isCalled, Bool.or_eq_true, List.any_eq_true]
  rcases h with h | h
  · exact .inl (hsame _ List.mem_cons_self (beq_iff_eq.1 h))
  · obtain ⟨a, ha, hkey⟩ := List.any_eq_true.1 h
    exact .inr ⟨a, ha, hsame a (List.mem_cons_of_mem _ ha) (beq_iff_eq.1 hkey)⟩

/-- No command before `c` has the name as an alias, up to the case of A to Z. -/
def Foremost (name : String) (c : Command) (commands : List Command) : Prop :=
  ∃ before after, commands = before ++ c :: after ∧
    ∀ d ∈ before, ∀ a ∈ d.aliases, Text.sameIgnoringCase a name = false

/-- The command that a label leads to where the commands were loaded. -/
def called? (name : String) (commands : List Command) : Option Command :=
  (commands.find? (Command.isNamed name)).or (commands.find? (Command.hasAlias name))

theorem called?_eq_some (h : called? name commands = some c) :
    c ∈ commands ∧ (c.isNamed name = true ∨ c.hasAlias name = true) := by
  rw [called?, Option.or_eq_some_iff] at h
  rcases h with h | ⟨-, h⟩
  · exact ⟨List.mem_of_find?_eq_some h, .inl (List.find?_some h)⟩
  · exact ⟨List.mem_of_find?_eq_some h, .inr (List.find?_some h)⟩

theorem find?_isCalled_of_none (h : called? name commands = none) :
    commands.find? (isCalled name) = none := by
  simp only [called?, Option.or_eq_none_iff, List.find?_eq_none] at h
  refine List.find?_eq_none.2 fun c hc hcalled => ?_
  rcases isNamed_or_hasAlias hcalled with hname | halias
  · exact h.1 c hc hname
  · exact h.2 c hc halias

/-- Both look-ups end at one command exactly if its label agrees up to the case of A to Z and no
command before it has the name as an alias. -/
theorem find?_isCalled_eq_iff (hdistinct : (commands.map Command.key).Nodup) :
    commands.find? (isCalled name) = called? name commands ↔
      ∀ c, called? name commands = some c → isCalled name c = true ∧ Foremost name c commands := by
  constructor
  · intro heq c hc
    rw [← heq, List.find?_eq_some_iff_append] at hc
    obtain ⟨hcalled, before, after, hsplit, hbefore⟩ := hc
    refine ⟨hcalled, before, after, hsplit, fun d hd a ha => ?_⟩
    have hnot := hbefore d hd
    simp only [isCalled, Bool.not_or, Bool.and_eq_true, Bool.not_eq_true', List.any_eq_false,
      Bool.not_eq_true] at hnot
    exact hnot.2 a ha
  · intro h
    cases hcalled : called? name commands with
    | none => exact find?_isCalled_of_none hcalled
    | some c =>
      obtain ⟨hc, before, after, rfl, hbefore⟩ := h c hcalled
      refine List.find?_eq_some_iff_append.2 ⟨hc, before, after, rfl, fun d hd => ?_⟩
      -- a command before of that name would be the one that is called
      have hname : Text.sameIgnoringCase d.name name = false := by
        rw [Bool.eq_false_iff]
        intro hsame
        have hnamed : d.isNamed name = true :=
          beq_iff_eq.2 (Text.lower_eq_of_sameIgnoringCase hsame)
        have hmem : d ∈ before ++ c :: after := List.mem_append_left _ hd
        rw [called?, Catalogue.find?_isNamed hdistinct hmem hnamed, Option.some_or,
          Option.some.injEq] at hcalled
        subst hcalled
        rw [List.map_append, List.nodup_append] at hdistinct
        exact hdistinct.2.2 _ (List.mem_map_of_mem hd) _
          (List.mem_map_of_mem List.mem_cons_self) rfl
      simp only [isCalled, hname, Bool.false_or, Bool.not_eq_true', List.any_eq_false,
        Bool.not_eq_true]
      exact hbefore d hd

/-- **What an inspection shows of what would be called.** A directory that cannot be listed fails
both. Otherwise the inspection shows the command that a dispatcher calls by the name after it has
loaded the directory exactly if that command has the name, or an alias, up to the case of A to Z,
and no command before it has the name as an alias. It finds nothing where the dispatcher finds
nothing; and if all labels are ASCII, it finds something wherever the dispatcher does. Whatever it
finds, it tells of the units that were left out, and leaves the directory as loading has left it. -/
theorem inspect_agrees {N : Type} (s : Setting) (dir name : String) (d : Dispatcher N) :
    let reloaded := ({ d with files := s.files } : Dispatcher N).reloadFrom .standard dir
    (∀ e, loadDirectory .standard s.files dir = .error e →
      inspect s dir name = s.fail (.ofDirectory dir e) ∧ reloaded.value = .error e) ∧
    ∀ report files, loadDirectory .standard s.files dir = .ok (report, files) →
      let shown := report.commands.find? (isCalled name)
      let called := reloaded.after.command? name
      reloaded.value = .ok report ∧
      (inspect s dir name =
        match shown with
        | none =>
          { s.fail { message := "Command '" ++ name ++ "' not found in " ++ dir } with
            notices := report.notices
            files }
        | some c => { output := describe s c, notices := report.notices, files }) ∧
      (shown = called ↔
        ∀ c, called = some c → isCalled name c = true ∧ Foremost name c report.commands) ∧
      (called = none → shown = none) ∧
      (Text.isAscii name = true →
        (∀ c ∈ report.commands, ∀ l ∈ c.name :: c.aliases, Text.isAscii l = true) →
        (shown = none ↔ called = none) ∧
        (shown = called ↔ ∀ c, called = some c → Foremost name c report.commands)) := by
  intro reloaded
  constructor
  · intro e he
    refine ⟨by rw [inspect, he], ?_⟩
    simp only [reloaded, Dispatcher.reloadFrom, he]
  intro report files hload shown called
  obtain ⟨hvalue, hafter⟩ :=
    Dispatcher.reloadFrom_of_ok (d := ({ d with files := s.files } : Dispatcher N)) hload
  have hdistinct := nodup_loadDirectory hload
  have hcalled : called = called? name report.commands := by
    simp only [called, reloaded, hafter]
    rw [Dispatcher.command?, Dispatcher.load_catalogue, Catalogue.find?_ofCommands,
      Catalogue.kept_of_nodup hdistinct]
    rfl
  have hagree : shown = called? name report.commands ↔ _ := find?_isCalled_eq_iff hdistinct
  rw [← hcalled] at hagree
  have hnone : called = none → shown = none := fun h =>
    find?_isCalled_of_none (hcalled.symm.trans h)
  refine ⟨hvalue, ?_, hagree, hnone, fun hname hlabels => ?_⟩
  · simp only [inspect, hload]
    rfl
  · have hall (c : Command) (hc : called = some c) : isCalled name c = true := by
      obtain ⟨hmem, hlabel⟩ := called?_eq_some (hcalled.symm.trans hc)
      exact isCalled_of_ascii hname (hlabels c hmem) hlabel
    refine ⟨⟨fun hshown => ?_, hnone⟩, hagree.trans ?_⟩
    · refine Option.eq_none_iff_forall_ne_some.2 fun c hc => ?_
      have hmem := (called?_eq_some (hcalled.symm.trans hc)).1
      exact List.find?_eq_none.1 hshown c hmem (hall c hc)
    · exact ⟨fun h c hc => (h c hc).2, fun h c hc => ⟨hall c hc, h c hc⟩⟩

/-- Units of a gate that is called home as well, of a home, and of an isle. -/
def village : List (String × FileEntry) :=
  [("gate.yml", .file (some "aliases: [home]\n")), ("home.yml", .file (some "{}\n")),
    ("Île.yml", .file (some "{}\n"))]

def villageFiles : FileTree where
  root := .dir [("commands", .dir village)]

def villageReport : LoadReport :=
  ["commands/gate.yml", "commands/home.yml", "commands/Île.yml"].foldl
    (fun report path => report.add path (loadUnit .standard villageFiles path)) {}

theorem loadDirectory_village :
    loadDirectory .standard villageFiles "commands" = .ok (villageReport, villageFiles) := by
  have hpaths : unitPaths "commands" village =
      ["commands/gate.yml", "commands/home.yml", "commands/Île.yml"] := by
    simp only [unitPaths]
    rw [List.mergeSort_of_pairwise (by decide +kernel)]
    decide +kernel
  have hlocate : villageFiles.locate "commands" = .ok ["commands"] := by decide +kernel
  have hlist : villageFiles.list "commands" = .ok village := by
    rw [FileTree.list, hlocate]
    rfl
  rw [loadDirectory_of_list hlist, loadEntries, hpaths, villageReport]

/-- Home is called by its name, but an inspection shows the gate, whose alias that is; and the isle
is called in any letter case, but an inspection takes only A to Z as a to z. -/
theorem village_shows_gate :
    let s : Setting := { files := villageFiles, fresh := fun n => ⟨n⟩ }
    let reloaded := ({ files := villageFiles } : Dispatcher Rat).reloadFrom .standard "commands"
    (inspect s "commands" "home").output.head? = some "/gate" ∧
      (reloaded.after.command? "home").map Command.name = some "home" ∧
      (inspect s "commands" "île").errors = ["Error: Command 'île' not found in commands"] ∧
      (reloaded.after.command? "île").map Command.name = some "Île" := by
  intro s reloaded
  have hcommand (label : String) : reloaded.after.command? label =
      (Catalogue.ofCommands villageReport.commands).value.find? label := by
    obtain ⟨-, hafter⟩ :=
      Dispatcher.reloadFrom_of_ok (d := ({ files := villageFiles } : Dispatcher Rat))
        loadDirectory_village
    simp only [reloaded, hafter]
    rw [Dispatcher.command?, Dispatcher.load_catalogue]
  rw [hcommand, hcommand]
  simp only [inspect, s, loadDirectory_village]
  exact ⟨by decide +kernel, by decide +kernel, by decide +kernel, by decide +kernel⟩

end Program

end CustomCommands
