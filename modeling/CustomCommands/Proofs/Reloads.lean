import CustomCommands.Proofs.Catalogues
import CustomCommands.Proofs.Runs
import CustomCommands.Proofs.UnitFiles

/-!
# Reloads

A reload reads the whole directory before anything is given up. If the directory cannot
be made or listed, nothing of the dispatcher has changed; otherwise the commands of the
report are the new commands. The report has no two commands of one key, and a load drops
a command only for its key, so the load drops none of them (`load_of_nodup`).
-/

namespace CustomCommands

/-! ## What is told of a load -/

theorem LoadReport.mem_notices {report : LoadReport} {n : Notice} (h : n ∈ report.notices) :
    n = .unitSkipped := by
  obtain ⟨-, -, rfl⟩ := List.mem_map.1 h
  rfl

namespace Catalogue

theorem distinct_of_nodup {cs : List Command} (h : (cs.map Command.key).Nodup)
    {seen : List String} (hnew : ∀ c ∈ cs, c.key ∉ seen) : distinct seen cs = pure cs := by
  induction cs generalizing seen with
  | nil => rfl
  | cons c cs ih =>
    obtain ⟨hc, hrest⟩ := List.nodup_cons.1 h
    have hkept : distinct (c.key :: seen) cs = pure cs := by
      refine ih hrest fun d hd hmem => ?_
      rcases List.mem_cons.1 hmem with heq | hmem
      · exact hc (List.mem_map.2 ⟨d, hd, heq⟩)
      · exact hnew d (List.mem_cons_of_mem _ hd) hmem
    rw [distinct, if_neg (by simpa using hnew c List.mem_cons_self), hkept]
    rfl

theorem accept_notices {taken as : List String} {n : Notice} (h : n ∈ (accept taken as).notices) :
    n = .aliasTaken := by
  induction as generalizing taken with
  | nil => cases h
  | cons a as ih =>
    rw [accept] at h
    split at h
    · rcases List.mem_cons.1 h with rfl | h
      · rfl
      · exact ih h
    · rw [Noted.notices_bind, List.mem_append] at h
      rcases h with h | h
      · exact ih h
      · cases h

theorem assign_notices {taken : List String} {cs : List Command} {n : Notice}
    (h : n ∈ (assign taken cs).notices) : n = .aliasTaken := by
  induction cs generalizing taken with
  | nil => cases h
  | cons c cs ih =>
    simp only [assign, Noted.notices_bind, List.mem_append] at h
    rcases h with h | h | h
    · exact accept_notices h
    · exact ih h
    · cases h

end Catalogue

namespace Dispatcher

variable {N : Type}

theorem registerAll_notices {r : Registrar} {labels : List (String × Handle)} {n : Notice}
    (h : n ∈ (registerAll r labels).notices) : n = .labelTaken := by
  induction labels generalizing r with
  | nil => cases h
  | cons x labels ih =>
    rw [registerAll] at h
    split at h
    · rw [Noted.notices_bind, List.mem_append] at h
      rcases h with h | h
      · exact ih h
      · cases h
    · rcases List.mem_cons.1 h with rfl | h
      · rfl
      · exact ih h

theorem claimLabels_notices {d : Dispatcher N} {n : Notice} (h : n ∈ (claimLabels d).notices) :
    n = .labelTaken ∨ n = .registrarMissing := by
  unfold claimLabels at h
  split at h
  · split at h
    · cases h
    · exact .inr (List.mem_singleton.1 h)
  · rw [Noted.notices_bind, List.mem_append] at h
    rcases h with h | h
    · exact .inl (registerAll_notices h)
    · cases h

/-- A load of commands with distinct keys keeps all of them, and tells of no duplicate. -/
theorem load_of_nodup {commands : List Command} (h : (commands.map Command.key).Nodup)
    (d : Dispatcher N) :
    (d.load commands).after.catalogue.entries.map Catalogue.Entry.command = commands ∧
      .duplicateCommand ∉ (d.load commands).notices := by
  have hkept : Catalogue.distinct [] commands = pure commands :=
    Catalogue.distinct_of_nodup h fun c _ => List.not_mem_nil
  constructor
  · rw [load_catalogue, Catalogue.ofCommands, hkept]
    exact Catalogue.assign_commands _ commands
  · intro hmem
    simp only [load, Catalogue.ofCommands, hkept, Noted.notices_bind, List.mem_append] at hmem
    rcases hmem with (hmem | hmem | hmem) | hmem
    · cases hmem
    · cases Catalogue.assign_notices hmem
    · cases hmem
    · rcases claimLabels_notices hmem with hmem | hmem <;> cases hmem

/-! ## Reloading -/

variable {r : UnitReaders} {dir : String} {d : Dispatcher N} {report : LoadReport}
  {files : FileTree}

theorem reloadFrom_of_ok (h : loadDirectory r d.files dir = .ok (report, files)) :
    (d.reloadFrom r dir).value = .ok report ∧
      (d.reloadFrom r dir).after =
        (({ d with files } : Dispatcher N).load report.commands).after := by
  unfold reloadFrom
  rw [h]
  exact ⟨rfl, rfl⟩

theorem reloadFrom_tells (h : loadDirectory r d.files dir = .ok (report, files)) :
    (d.reloadFrom r dir).effects = [] ∧
      (d.reloadFrom r dir).notices =
        report.notices ++ (({ d with files } : Dispatcher N).load report.commands).notices := by
  unfold reloadFrom
  rw [h]
  exact ⟨rfl, rfl⟩

theorem reloadFrom_of_error {e : FileError} (h : loadDirectory r d.files dir = .error e) :
    d.reloadFrom r dir = { value := .error e, after := d } := by
  rw [reloadFrom, h]

theorem reloadFrom_eq_ok (h : (d.reloadFrom r dir).value = .ok report) :
    ∃ files, loadDirectory r d.files dir = .ok (report, files) := by
  cases hload : loadDirectory r d.files dir with
  | error e =>
    rw [reloadFrom_of_error hload] at h
    cases h
  | ok loaded =>
    rw [(reloadFrom_of_ok hload).1] at h
    cases h
    exact ⟨loaded.2, rfl⟩

theorem reloadFrom_eq_error_iff {e : FileError} :
    (d.reloadFrom r dir).value = .error e ↔ loadDirectory r d.files dir = .error e := by
  cases hload : loadDirectory r d.files dir with
  | error e' => simp [reloadFrom_of_error hload]
  | ok loaded => simp [(reloadFrom_of_ok hload).1]

/-- The commands of the report are in place in their order, and none was dropped. -/
theorem reloadFrom_commands (h : loadDirectory r d.files dir = .ok (report, files)) :
    (d.reloadFrom r dir).after.catalogue.entries.map Catalogue.Entry.command = report.commands ∧
      (d.reloadFrom r dir).after.files = files ∧
      .duplicateCommand ∉ (d.reloadFrom r dir).notices := by
  obtain ⟨-, hafter⟩ := reloadFrom_of_ok h
  obtain ⟨-, hnotices⟩ := reloadFrom_tells h
  obtain ⟨hcommands, htold⟩ :=
    load_of_nodup (nodup_loadDirectory h) ({ d with files } : Dispatcher N)
  obtain ⟨registered, registrarMissed, registrar, hframe⟩ :=
    load_frame report.commands ({ d with files } : Dispatcher N)
  refine ⟨hafter ▸ hcommands, by rw [hafter, hframe], ?_⟩
  rw [hnotices, List.mem_append]
  rintro (hmem | hmem)
  · cases LoadReport.mem_notices hmem
  · exact htold hmem

/-- **Reloads.** A reload fails exactly if the directory cannot be made or listed, and then nothing
of the dispatcher is changed, nothing was asked of the host and nothing is told. A reload that
succeeds puts the commands of its report in place, all of them and in their order, so what it
reports as loaded are the names that can be called, and it never tells of a duplicate. Cooldowns
and queued tasks stay, and nothing is asked of the host. The commands and the failures of the report
are accounted for by the units of the directory: each unit is one of them, once. -/
theorem reloadFrom_all_or_nothing (r : UnitReaders) (dir : String) (d : Dispatcher N) :
    let reloaded := d.reloadFrom r dir
    (∀ e, reloaded.value = .error e ↔
      (d.files.prepared dir).bind (fun files => files.list dir) = .error e) ∧
    (∀ e, reloaded.value = .error e →
      (∃ files, reloaded.after = { d with files }) ∧ reloaded.effects = [] ∧
        reloaded.notices = []) ∧
    ∀ report, reloaded.value = .ok report →
      (report.commands.map Command.name).Perm reloaded.after.catalogue.names ∧
      reloaded.after.catalogue.entries.map Catalogue.Entry.command = report.commands ∧
      .duplicateCommand ∉ reloaded.notices ∧
      reloaded.after.cooldowns = d.cooldowns ∧ reloaded.after.queue = d.queue ∧
      reloaded.effects = [] ∧
      (d.files.Proper →
        (report.sources ++ report.failed).Nodup ∧
        (∀ path, path ∈ report.sources ++ report.failed ↔
          reloaded.after.files.IsUnitOf dir path) ∧
        ∀ c ∈ report.commands, ∃ path,
          c.source = some path ∧ loadUnit r reloaded.after.files path = .ok c) := by
  intro reloaded
  refine ⟨fun e => reloadFrom_eq_error_iff.trans (loadDirectory_error_iff r), fun e he => ?_,
    fun report hreport => ?_⟩
  · have hfailed : reloaded = { value := .error e, after := d } :=
      reloadFrom_of_error (reloadFrom_eq_error_iff.1 he)
    rw [hfailed]
    exact ⟨⟨d.files, rfl⟩, rfl, rfl⟩
  · obtain ⟨files, hload⟩ := reloadFrom_eq_ok hreport
    obtain ⟨hcommands, hfiles, htold⟩ := reloadFrom_commands hload
    obtain ⟨hcooldowns, hqueue⟩ := reloadFrom_keeps r dir d
    obtain ⟨heffects, -⟩ := reloadFrom_tells hload
    refine ⟨?_, hcommands, htold, hcooldowns, hqueue, heffects, fun hproper => ?_⟩
    · rw [← hcommands, Catalogue.names, List.map_map]
      exact (List.mergeSort_perm _ _).symm
    · obtain ⟨honce, hall⟩ := units_loadDirectory hproper hload
      obtain ⟨_, hcovers, -⟩ := covers_loadDirectory hproper hload
      rw [hfiles]
      exact ⟨honce, hall, hcovers.taken⟩

/-- The depot's commands are those of its report, and the unit that is left out is none of them. -/
theorem depot_reloaded :
    let d : Dispatcher Rat := { files := depotFiles depot }
    let reloaded := d.reloadFrom .lenient "commands"
    d.files.Proper ∧ reloaded.value = .ok depotReport ∧
      ["Warp"].Perm reloaded.after.catalogue.names ∧
      (depotReport.sources ++ depotReport.failed).Nodup ∧
      ∀ path, path ∈ ["commands/Warp.toml", "commands/broken.yml", "commands/warp.yml"] ↔
        reloaded.after.files.IsUnitOf "commands" path := by
  intro d reloaded
  have hproper : d.files.Proper := proper_depotFiles (.refl depot)
  have hvalue : reloaded.value = .ok depotReport := (reloadFrom_of_ok loadDirectory_depot).1
  obtain ⟨-, -, hloaded⟩ := reloadFrom_all_or_nothing .lenient "commands" d
  obtain ⟨hnames, -, -, -, -, -, haccounts⟩ := hloaded depotReport hvalue
  obtain ⟨honce, hall, -⟩ := haccounts hproper
  have hreported : depotReport.commands.map Command.name = ["Warp"] := by decide +kernel
  have hpaths : depotReport.sources ++ depotReport.failed =
      ["commands/Warp.toml", "commands/broken.yml", "commands/warp.yml"] := by decide +kernel
  exact ⟨hproper, hvalue, hreported ▸ hnames, honce, hpaths ▸ hall⟩

end Dispatcher

end CustomCommands
