import CustomCommands.Proofs.Labels
import CustomCommands.Proofs.Reloads
import CustomCommands.Proofs.TypedLines

/-!
# Labels that can be typed

What is read as the label of a command is a word (`ShellLine.solid_of_readCommand`), and
any word is read back (`ShellLine.isTypeable_of_solid`). Of a command that was built from
a definition the name is a word (`Command.IsBuilt.name_solid`), but an alias may hold any
blank other than a space (`Command.IsBuilt.labels_no_space`), and what is registered are
such names and aliases (`Dispatcher.exists_of_registered`). Every command that is read from
a unit was built (`Command.isBuilt_of_loadUnit`), and so a reload loads none but such
(`Dispatcher.isBuilt_of_reloadFrom`).
-/

namespace CustomCommands

/-! ## Words that are read -/

namespace ShellLine

open Text (AllBlank Solid allBlank_nil)

variable {label : String} {args : List String} {cs : List Char} {partly : Bool}

theorem solid_of_readCommand (h : readCommand partly cs = .ok (label, args)) :
    Solid label.toList := by
  unfold readCommand at h
  split at h
  · rename_i rest hrest
    split at h
    · cases h
    · rename_i l as hwords
      obtain ⟨rfl, -⟩ := Prod.mk.inj (Except.ok.inj h)
      obtain ⟨w, ws, hcut, rfl, -⟩ := List.map_eq_cons_iff.1 hwords
      have hmem : w ∈ Text.words rest := hcut ▸ List.mem_cons_self
      rw [String.toList_ofList]
      exact ((Text.spaced_words rest).solid w hmem).2
  · cases h

/-- Behind a slash the label is read as itself, with all arguments that follow it. -/
def IsTypeable (label : String) : Prop :=
  ∀ (partly : Bool) (args : List (Blanks × Word)),
    readCommand partly (typedCommand label args "").toList = .ok (label, texts args)

theorem isTypeable_of_solid (hlabel : label ≠ "") (h : Solid label.toList) :
    IsTypeable label := by
  intro partly args
  have htrail : AllBlank "".toList := allBlank_nil
  have hread := readCommand_typed allBlank_nil partly ⟨label, hlabel, h⟩ args htrail
  simpa using hread

end ShellLine

/-! ## Commands that were built -/

namespace Command

open Text (Solid)

variable {name : String} {definition : CommandDefinition} {c : Command}

def labels (c : Command) : List String :=
  c.name :: c.aliases

/-- The command was built from a definition, wherever that was read. -/
def IsBuilt (c : Command) : Prop :=
  ∃ name definition b, ofDefinition name definition = .ok b ∧ c = { b with source := c.source }

theorem isName_iff {s : String} : isName s = true ↔ s ≠ "" ∧ Solid s.toList := by
  simp [isName, Solid]

theorem isAlias_iff {s : String} : isAlias s = true ↔ s ≠ "" ∧ ' ' ∉ s.toList := by
  simp [isAlias]

theorem ofDefinition_ok (h : ofDefinition name definition = .ok c) :
    isName c.name = true ∧ ∀ a ∈ c.aliases, isAlias a = true := by
  unfold ofDefinition at h
  split at h
  · cases h
  · rename_i hname
    split at h
    · cases h
    · split at h
      · cases h
      · rename_i haliases
        cases h
        refine ⟨by simpa using hname, fun a ha => ?_⟩
        simpa using List.find?_eq_none.1 haliases a ha

theorem isBuilt_of_ofDefinition (h : ofDefinition name definition = .ok c) : c.IsBuilt :=
  ⟨name, definition, c, h, rfl⟩

theorem isBuilt_of_loadUnit {r : UnitReaders} {files : FileTree} {path : String}
    (h : loadUnit r files path = .ok c) : c.IsBuilt := by
  unfold loadUnit at h
  split at h
  · cases h
  split at h
  · cases h
  split at h
  · cases h
  rename_i name _ _ text _ _ format _
  unfold ofText at h
  split at h
  · cases h
  rename_i definition _
  cases hbuilt : ofDefinition name definition with
  | error e => rw [hbuilt] at h; cases h
  | ok b =>
    rw [hbuilt] at h
    cases h
    exact ⟨name, definition, b, hbuilt, rfl⟩

theorem IsBuilt.labels_ok (h : c.IsBuilt) :
    isName c.name = true ∧ ∀ a ∈ c.aliases, isAlias a = true := by
  obtain ⟨name, definition, b, hb, hc⟩ := h
  have hlabels := ofDefinition_ok hb
  rw [hc]
  exact hlabels

theorem IsBuilt.name_solid (h : c.IsBuilt) : c.name ≠ "" ∧ Solid c.name.toList :=
  isName_iff.1 h.labels_ok.1

theorem IsBuilt.labels_no_space (h : c.IsBuilt) :
    ∀ label ∈ c.labels, label ≠ "" ∧ ' ' ∉ label.toList := by
  obtain ⟨hne, hsolid⟩ := h.name_solid
  have hspace : ' ' ∉ c.name.toList := fun hmem => by
    have hblank : Text.isBlank ' ' = false := hsolid ' ' hmem
    revert hblank
    decide
  refine List.forall_mem_cons.2 ⟨⟨hne, hspace⟩, fun a ha => ?_⟩
  exact isAlias_iff.1 (h.labels_ok.2 a ha)

end Command

/-! ## Labels that are registered -/

namespace Catalogue

variable {e : Entry} {commands : List Command}

theorem firsts_sublist {α : Type} (f : α → String) (seen : List String) (as : List α) :
    (firsts f seen as).Sublist as := by
  induction as generalizing seen with
  | nil => exact .slnil
  | cons a as ih =>
    rw [firsts]
    split
    · exact (ih seen).cons a
    · exact (ih (f a :: seen)).cons_cons a

theorem aliases_of_mem_assign {taken : List String} {cs : List Command}
    (h : e ∈ (assign taken cs).value) : ∀ a ∈ e.aliases, a ∈ e.command.aliases := by
  induction cs generalizing taken with
  | nil => cases h
  | cons c cs ih =>
    simp only [assign, Noted.value_bind, Noted.value_pure, accept_value, List.mem_cons] at h
    rcases h with rfl | h
    · exact fun a ha => (firsts_sublist key taken c.aliases).mem ha
    · exact ih h

theorem mem_ofCommands (h : e ∈ (ofCommands commands).value.entries) :
    e.command ∈ commands ∧ ∀ label ∈ e.labels, label ∈ e.command.labels := by
  simp only [ofCommands, Noted.value_bind, Noted.value_pure, distinct_value] at h
  constructor
  · have hcommand := List.mem_map_of_mem (f := Entry.command) h
    rw [assign_commands] at hcommand
    exact (firsts_sublist Command.key [] commands).mem hcommand
  · refine List.forall_mem_cons.2 ⟨List.mem_cons_self, fun a ha => ?_⟩
    exact List.mem_cons_of_mem _ (aliases_of_mem_assign h a ha)

end Catalogue

namespace Dispatcher

open Text (Solid)
open ShellLine (IsTypeable readCommand)

variable {N : Type} {commands : List Command}

theorem mem_labels_of_registered {label : String} {d : Dispatcher N}
    (h : label ∈ (d.load commands).after.registered) :
    ∃ x ∈ (Catalogue.ofCommands commands).value.labels, x.1 = label := by
  have hdistinct := Catalogue.nodup_keys_ofCommands commands
  simp only [load, Noted.value_bind, claimLabels] at h
  split at h
  · -- without a registrar there is nothing to register at
    split at h <;> cases h
  · rename_i r hr
    have hlabels := registerAll_labels r (Catalogue.keys_eq _ ▸ hdistinct)
    simp only [Noted.value_bind, Noted.value_pure, hlabels] at h
    exact List.mem_map.1 (List.mem_filter.1 h).1

theorem exists_of_registered {label : String} {d : Dispatcher N}
    (h : label ∈ (d.load commands).after.registered) :
    ∃ c ∈ commands, (d.load commands).after.command? label = some c ∧ label ∈ c.labels := by
  obtain ⟨x, hx, rfl⟩ := mem_labels_of_registered h
  obtain ⟨e, he, hl, -⟩ := Catalogue.mem_labels.1 hx
  obtain ⟨hcommand, hlabels⟩ := Catalogue.mem_ofCommands he
  refine ⟨e.command, hcommand, ?_, hlabels _ hl⟩
  rw [command?, load_catalogue]
  have hkey : Catalogue.key x.1 ∈ e.keys := List.mem_map_of_mem hl
  have hdistinct := Catalogue.nodup_keys_ofCommands commands
  exact (Catalogue.find?_eq_some_iff hdistinct).2 ⟨e, he, hkey, rfl⟩

theorem isBuilt_of_reloadFrom {r : UnitReaders} {dir : String} {d : Dispatcher N}
    {report : LoadReport} (h : (d.reloadFrom r dir).value = .ok report) :
    (∀ c ∈ report.commands, c.IsBuilt) ∧ ∃ files, (d.reloadFrom r dir).after =
      (({ d with files } : Dispatcher N).load report.commands).after := by
  obtain ⟨files, hload⟩ := reloadFrom_eq_ok h
  refine ⟨fun c hc => ?_, files, (reloadFrom_of_ok hload).2⟩
  obtain ⟨path, hread⟩ := read_of_mem_loadDirectory hload c hc
  exact Command.isBuilt_of_loadUnit hread

/-- **What is registered can be typed, but for blanks in aliases.** Let commands be loaded that were
built from definitions. No label of theirs is empty or holds a space, and a name holds no blank of
any kind. A label without blanks is read back behind a slash, with whatever arguments; a label that
holds one is read from no text at all. Each label that is registered is one that a command asked
for, and leads to this command. A reload is a load of commands that were built. -/
theorem labels_typeable (hbuilt : ∀ c ∈ commands, c.IsBuilt) (d : Dispatcher N) :
    let after := (d.load commands).after
    (∀ c ∈ commands, Solid c.name.toList ∧ ∀ label ∈ c.labels,
      label ≠ "" ∧ ' ' ∉ label.toList ∧
      (Solid label.toList → IsTypeable label) ∧
      (¬ Solid label.toList → ∀ partly cs args, readCommand partly cs ≠ .ok (label, args))) ∧
    (∀ label ∈ after.registered,
      ∃ c ∈ commands, after.command? label = some c ∧ label ∈ c.labels) ∧
    ∀ r dir report, (d.reloadFrom r dir).value = .ok report →
      (∀ c ∈ report.commands, c.IsBuilt) ∧ ∃ files, (d.reloadFrom r dir).after =
        (({ d with files } : Dispatcher N).load report.commands).after := by
  intro after
  refine ⟨fun c hc => ?_, fun label => exists_of_registered, fun r dir report =>
    isBuilt_of_reloadFrom⟩
  refine ⟨(hbuilt c hc).name_solid.2, fun label hlabel => ?_⟩
  obtain ⟨hne, hspace⟩ := (hbuilt c hc).labels_no_space label hlabel
  refine ⟨hne, hspace, ShellLine.isTypeable_of_solid hne, fun hblank partly cs args hread => ?_⟩
  exact hblank (ShellLine.solid_of_readCommand hread)

/-- Hubs with a tab in an alias. -/
def hubs : CommandDefinition where
  root := .mk {} []
  aliases := ["hub", "spawn\tpoint"]

theorem hubs_isBuilt : (named "warp" hubs.aliases).IsBuilt := by
  have hbuilt : Command.ofDefinition "warp" hubs = .ok (named "warp" hubs.aliases) := rfl
  exact Command.isBuilt_of_ofDefinition hbuilt

theorem hub_typeable :
    (∀ c ∈ [named "warp" hubs.aliases], c.IsBuilt) ∧
      (∀ label ∈ ["warp", "hub"], IsTypeable label) ∧
      (withSpawn.load [named "warp" hubs.aliases]).after.command? "hub" =
        some (named "warp" hubs.aliases) := by
  have hbuilt : ∀ c ∈ [named "warp" hubs.aliases], c.IsBuilt := by
    simpa using hubs_isBuilt
  obtain ⟨hlabels, hregistered, -⟩ := labels_typeable hbuilt withSpawn
  obtain ⟨-, hlabels⟩ := hlabels _ List.mem_cons_self
  have hsolid : ∀ label ∈ ["warp", "hub"], Solid label.toList := by decide
  have hlabel (label : String) (h : label ∈ ["warp", "hub"]) : IsTypeable label := by
    obtain ⟨-, -, htypeable, -⟩ := hlabels label (List.mem_append_left _ h)
    exact htypeable (hsolid label h)
  obtain ⟨c, hc, hhub, -⟩ := hregistered "hub" (by decide +kernel)
  obtain rfl := List.mem_singleton.1 hc
  exact ⟨hbuilt, hlabel, hhub⟩

/-- A tab in an alias is let through, and the alias registered. Typed, it is another label with an
argument. -/
theorem spawn_point_not_typeable :
    (named "warp" hubs.aliases).IsBuilt ∧
      "spawn\tpoint" ∈ (withSpawn.load [named "warp" hubs.aliases]).after.registered ∧
      readCommand false "/spawn\tpoint".toList = .ok ("spawn", ["point"]) ∧
      ∀ partly cs args, readCommand partly cs ≠ .ok ("spawn\tpoint", args) := by
  refine ⟨hubs_isBuilt, by decide +kernel, by decide +kernel, fun partly cs args hread => ?_⟩
  have hsolid := ShellLine.solid_of_readCommand hread
  revert hsolid
  decide

end Dispatcher

end CustomCommands
