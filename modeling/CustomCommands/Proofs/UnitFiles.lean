import CustomCommands.Files.Loader
import CustomCommands.Proofs.FileTrees
import Mathlib.Data.List.Sort

/-!
# Every unit of a directory, once

The units of a directory are read in the order of their paths, whatever the order in
which the directory lists them (`unitPaths_eq`). Each unit that is read goes to one of
two places: it is taken in, or it fails, by its own error or because the name is taken
(`LoadReport.Covers`). One more unit keeps to that (`Covers.add`), and so do all of them
(`Covers.foldl_add`).
-/

namespace CustomCommands

/-- A unit of a directory: a name that the directory lists, under whose path there is a file with
the extension of a unit. Nothing is under a path that is too long to be asked for. -/
def FileTree.IsUnitOf (t : FileTree) (dir path : String) : Prop :=
  ∃ es name, t.list dir = .ok es ∧ name ∈ Assoc.keys es ∧ path = Path.join dir name ∧
    t.hasFile path = true ∧ (UnitFormat.ofPath? path).isSome = true

/-! ## Order of the units -/

section Order

variable {t u : FileTree} {dir path : String} {es fs : List (String × FileEntry)}

theorem FileTree.hasFile_join (h : t.Proper) (hes : t.list dir = .ok es) {n : String}
    {e : FileEntry} (he : (n, e) ∈ es) :
    t.hasFile (Path.join dir n) = (!e.isDir && !Path.isTooLong (Path.join dir n)) := by
  rw [FileTree.hasFile, FileTree.find?_join h hes he]
  cases Path.isTooLong (Path.join dir n) <;> simp

theorem mem_unitPaths (h : t.Proper) (hes : t.list dir = .ok es) :
    path ∈ unitPaths dir es ↔ t.IsUnitOf dir path := by
  simp only [unitPaths, List.mem_filter, List.mem_map, List.mem_mergeSort, Bool.and_eq_true,
    FileTree.IsUnitOf]
  constructor
  · rintro ⟨⟨_, ⟨⟨n, e⟩, ⟨he, hfile⟩, rfl⟩, rfl⟩, hunit, hshort⟩
    refine ⟨es, n, hes, List.mem_map_of_mem he, rfl, ?_, hunit⟩
    rw [FileTree.hasFile_join h hes he, hfile, hshort]
    rfl
  · rintro ⟨es', n, hes', hn, rfl, hfile, hunit⟩
    cases hes.symm.trans hes'
    obtain ⟨⟨_, e⟩, he, rfl⟩ := List.mem_map.1 hn
    rw [FileTree.hasFile_join h hes he, Bool.and_eq_true] at hfile
    exact ⟨⟨_, ⟨(_, e), ⟨he, hfile.1⟩, rfl⟩, rfl⟩, hunit, hfile.2⟩

theorem pairwise_lt_mergeSort {names : List String} (h : names.Nodup) :
    (names.mergeSort fun a b => decide (a ≤ b)).Pairwise (· < ·) := by
  have hle := @List.pairwise_mergeSort String (fun a b => decide (a ≤ b))
    (by simpa using fun a b c => String.le_trans) (by simpa using String.le_total) names
  have hdistinct := (List.mergeSort_perm names fun a b => decide (a ≤ b)).nodup_iff.2 h
  exact (hle.and hdistinct).imp fun hab => lt_of_le_of_ne (of_decide_eq_true hab.1) hab.2

theorem pairwise_unitPaths (h : t.Proper) (hes : t.list dir = .ok es) :
    (unitPaths dir es).Pairwise (· < ·) := by
  obtain ⟨names, hlocate, hdir⟩ := FileTree.list_ok hes
  obtain ⟨hrefusal, -⟩ := FileTree.locate_ok hlocate
  obtain ⟨-, hnonempty, -⟩ := FileTree.refusal?_eq_none.1 hrefusal
  obtain ⟨hnodup, hpossible, -⟩ := (FileEntry.Proper.get? h hdir).1.entries
  have hfiles (p : String × FileEntry → Bool) : ((es.filter p).map Prod.fst).Nodup :=
    hnodup.sublist (List.filter_sublist.map Prod.fst)
  -- all paths begin with that of the directory, so they are in the order of the names
  refine List.Pairwise.filter _ (List.pairwise_map.2 ?_)
  refine (pairwise_lt_mergeSort (hfiles _)).imp_of_mem fun {m n} hm hn hlt => ?_
  obtain ⟨x, hx, rfl⟩ := List.mem_map.1 (List.mem_mergeSort.1 hm)
  obtain ⟨y, hy, rfl⟩ := List.mem_map.1 (List.mem_mergeSort.1 hn)
  exact Path.join_lt_join hnonempty
    (hpossible _ (List.mem_map_of_mem (List.mem_of_mem_filter hx)))
    (hpossible _ (List.mem_map_of_mem (List.mem_of_mem_filter hy))) hlt

theorem FileTree.SameFiles.isUnitOf (h : t.SameFiles u) :
    t.IsUnitOf dir path ↔ u.IsUnitOf dir path := by
  rcases h.list dir with ⟨e, ht, hu⟩ | ⟨es, fs, ht, hu, halike⟩
  · simp [FileTree.IsUnitOf, ht, hu]
  · simp [FileTree.IsUnitOf, ht, hu, halike.mem_keys, h.hasFile]

theorem unitPaths_eq (h : t.SameFiles u) (ht : t.Proper) (hu : u.Proper)
    (hes : t.list dir = .ok es) (hfs : u.list dir = .ok fs) :
    unitPaths dir es = unitPaths dir fs := by
  refine (pairwise_unitPaths ht hes).eq_of_mem_iff (pairwise_unitPaths hu hfs) fun path => ?_
  rw [mem_unitPaths ht hes, mem_unitPaths hu hfs, h.isUnitOf]

end Order

/-! ## What becomes of a unit -/

theorem source_loadUnit {r : UnitReaders} {files : FileTree} {path : String} {c : Command}
    (h : loadUnit r files path = .ok c) : c.source = some path := by
  unfold loadUnit at h
  repeat' split at h
  all_goals try cases h
  rename_i name _ _ text _ _ format _
  cases htext : Command.ofText r format name text with
  | error e => rw [htext] at h; cases h
  | ok d => rw [htext] at h; cases h; rfl

namespace LoadReport

def sources (report : LoadReport) : List String :=
  report.commands.filterMap Command.source

def failed (report : LoadReport) : List String :=
  report.failures.map LoadFailure.path

/-- A unit before `path` was taken in whose name is that of `c` in any letter case. -/
def TakenBefore (report : LoadReport) (path : String) (c : Command) (first : String) : Prop :=
  first < path ∧ ∃ d ∈ report.commands, d.source = some first ∧ d.key = c.key

/-- What a report says of the units that were read, given how each of them is read. -/
structure Covers (report : LoadReport) (read : String → Except UnitError Command)
    (units : List String) : Prop where
  each : (report.sources ++ report.failed).Perm units
  sources : report.sources.Sublist units
  failed : report.failed.Sublist units
  /-- A command is what its unit is read as. -/
  taken : ∀ c ∈ report.commands, ∃ path, c.source = some path ∧ read path = .ok c
  /-- A unit fails by itself, or by the name of one before it. -/
  refused : ∀ f ∈ report.failures, read f.path = .error f.error ∨
    ∃ c first, read f.path = .ok c ∧ report.TakenBefore f.path c first ∧
      f.error = .duplicate c.name first

variable {report : LoadReport} {read : String → Except UnitError Command} {units : List String}
  {path : String}

/-! ### One unit more -/

theorem nodup_add (h : (report.commands.map Command.key).Nodup) (path : String)
    (unit? : Except UnitError Command) :
    ((report.add path unit?).commands.map Command.key).Nodup := by
  dsimp only [add]
  split
  · exact h
  · rename_i c
    split
    · exact h
    · rename_i hnone
      simp only [List.find?_eq_none, beq_iff_eq] at hnone
      rw [List.map_append, List.map_singleton]
      refine List.nodup_append.2 ⟨h, by simp, ?_⟩
      rintro k hk k' hk' rfl
      obtain ⟨d, hd, hdk⟩ := List.mem_map.1 hk
      exact hnone d hd (hdk.trans (List.mem_singleton.1 hk'))

theorem read_of_mem_add (h : ∀ c ∈ report.commands, ∃ path, read path = .ok c) (path : String) :
    ∀ c ∈ (report.add path (read path)).commands, ∃ path, read path = .ok c := by
  dsimp only [add]
  split
  · exact h
  · rename_i c hc
    split
    · exact h
    · exact List.forall_mem_append.2 ⟨h, by simpa using ⟨path, hc⟩⟩

theorem Covers.fail (h : report.Covers read units) {e : UnitError}
    (hrefused : read path = .error e ∨
      ∃ c first, read path = .ok c ∧ report.TakenBefore path c first ∧
        e = .duplicate c.name first) :
    ({ report with failures := report.failures ++ [{ path, error := e }] } : LoadReport).Covers read
      (units ++ [path]) where
  each := by
    rw [LoadReport.failed, List.map_append, List.map_singleton, ← List.append_assoc]
    exact h.each.append_right [path]
  sources := h.sources.trans (List.sublist_append_left units [path])
  failed := by
    rw [LoadReport.failed, List.map_append, List.map_singleton]
    exact h.failed.append (List.Sublist.refl [path])
  taken := h.taken
  refused := by
    intro f hf
    rcases List.mem_append.1 hf with hf | hf
    · exact h.refused f hf
    · cases List.mem_singleton.1 hf
      exact hrefused

theorem Covers.take (h : report.Covers read units) {c : Command} (hc : read path = .ok c)
    (hsource : c.source = some path) :
    ({ report with commands := report.commands ++ [c] } : LoadReport).Covers read
      (units ++ [path]) := by
  have hsources : ({ report with commands := report.commands ++ [c] } : LoadReport).sources =
      report.sources ++ [path] := by
    rw [LoadReport.sources, List.filterMap_append, List.filterMap_cons_some hsource]
    rfl
  refine ⟨?_, ?_, h.failed.trans (List.sublist_append_left units [path]), ?_, ?_⟩
  · rw [hsources, List.append_assoc]
    refine (List.perm_append_comm.append_left report.sources).trans ?_
    rw [← List.append_assoc]
    exact h.each.append_right [path]
  · rw [hsources]
    exact h.sources.append (List.Sublist.refl [path])
  · intro d hd
    rcases List.mem_append.1 hd with hd | hd
    · exact h.taken d hd
    · cases List.mem_singleton.1 hd
      exact ⟨path, hsource, hc⟩
  · intro f hf
    refine (h.refused f hf).imp_right ?_
    rintro ⟨d, first, hd, ⟨hfirst, d', hd', hkey⟩, he⟩
    exact ⟨d, first, hd, ⟨hfirst, d', List.mem_append_left _ hd', hkey⟩, he⟩

/-- One more unit, behind all that were read, is taken in or fails. -/
theorem Covers.add (h : report.Covers read units) (hpath : ∀ p ∈ units, p < path)
    (hread : ∀ c, read path = .ok c → c.source = some path) :
    (report.add path (read path)).Covers read (units ++ [path]) := by
  dsimp only [LoadReport.add]
  split
  · rename_i e he
    exact h.fail (.inl he)
  · rename_i c hc
    split
    · rename_i d hfound
      -- the unit that has the name is among those that were read, so it stands before this one
      have hd := List.mem_of_find?_eq_some hfound
      obtain ⟨first, hfirst, -⟩ := h.taken d hd
      have hunit : first ∈ units := h.sources.subset (List.mem_filterMap.2 ⟨d, hd, hfirst⟩)
      have htaken : report.TakenBefore path c first :=
        ⟨hpath first hunit, d, hd, hfirst, by simpa using List.find?_some hfound⟩
      exact h.fail (.inr ⟨c, first, hc, htaken, by rw [hfirst]; rfl⟩)
    · exact h.take hc (hread c hc)

/-! ### All units -/

theorem nodup_foldl_add (h : (report.commands.map Command.key).Nodup)
    (unit? : String → Except UnitError Command) (paths : List String) :
    ((paths.foldl (fun report path => report.add path (unit? path)) report).commands.map
      Command.key).Nodup := by
  refine List.foldlRecOn
    (motive := fun x : LoadReport => (x.commands.map Command.key).Nodup) paths _ h ?_
  intro x hx path _
  exact nodup_add hx path (unit? path)

theorem read_of_mem_foldl_add (h : ∀ c ∈ report.commands, ∃ path, read path = .ok c)
    (paths : List String) :
    ∀ c ∈ (paths.foldl (fun report path => report.add path (read path)) report).commands,
      ∃ path, read path = .ok c := by
  refine List.foldlRecOn
    (motive := fun x : LoadReport => ∀ c ∈ x.commands, ∃ path, read path = .ok c) paths _ h ?_
  intro x hx path _
  exact read_of_mem_add hx path

theorem Covers.foldl_add (h : report.Covers read units) {paths : List String}
    (hordered : (units ++ paths).Pairwise (· < ·))
    (hread : ∀ path c, read path = .ok c → c.source = some path) :
    (paths.foldl (fun report path => report.add path (read path)) report).Covers read
      (units ++ paths) := by
  induction paths generalizing report units with
  | nil => simpa using h
  | cons path paths ih =>
    have hpath : ∀ p ∈ units, p < path := fun p hp =>
      (List.pairwise_append.1 hordered).2.2 p hp path List.mem_cons_self
    rw [← List.singleton_append, ← List.append_assoc] at hordered ⊢
    exact ih (h.add hpath (hread path)) hordered

/-! ### Which units fail -/

theorem Covers.taken_or_failed (h : report.Covers read units) (hpath : path ∈ units) :
    (∃ c ∈ report.commands, c.source = some path ∧ read path = .ok c) ∨
      ∃ e, ⟨path, e⟩ ∈ report.failures := by
  rcases List.mem_append.1 (h.each.mem_iff.2 hpath) with hpath | hpath
  · obtain ⟨c, hc, hsource⟩ := List.mem_filterMap.1 hpath
    obtain ⟨path', hsource', hread⟩ := h.taken c hc
    cases hsource.symm.trans hsource'
    exact .inl ⟨c, hc, hsource, hread⟩
  · obtain ⟨f, hf, rfl⟩ := List.mem_map.1 hpath
    exact .inr ⟨f.error, hf⟩

theorem Covers.mem_failures_of_error (h : report.Covers read units) (hpath : path ∈ units)
    {e : UnitError} (he : read path = .error e) : ⟨path, e⟩ ∈ report.failures := by
  rcases h.taken_or_failed hpath with ⟨c, -, -, hc⟩ | ⟨e', hf⟩
  · cases he.symm.trans hc
  · rcases h.refused _ hf with he' | ⟨c, first, hc, -⟩
    · cases he.symm.trans he'
      exact hf
    · cases he.symm.trans hc

theorem TakenBefore.eq_of_key {c d : Command} {first : String}
    (hdistinct : (report.commands.map Command.key).Nodup) (h : report.TakenBefore path c first)
    (hd : d ∈ report.commands) (hkey : d.key = c.key) : d.source = some first := by
  obtain ⟨-, d', hd', hsource, hkey'⟩ := h
  rwa [List.inj_on_of_nodup_map hdistinct hd hd' (hkey.trans hkey'.symm)]

/-- A unit that can be read fails exactly if its name is taken, and tells by which unit. -/
theorem Covers.mem_failures_iff (h : report.Covers read units)
    (hdistinct : (report.commands.map Command.key).Nodup) (hpath : path ∈ units) {c : Command}
    (hc : read path = .ok c) {e : UnitError} :
    ⟨path, e⟩ ∈ report.failures ↔
      ∃ first, report.TakenBefore path c first ∧ e = .duplicate c.name first := by
  constructor
  · intro hf
    rcases h.refused _ hf with he | ⟨d, first, hd, htaken, he⟩
    · cases hc.symm.trans he
    · cases hc.symm.trans hd
      exact ⟨first, htaken, he⟩
  · rintro ⟨first, htaken, rfl⟩
    rcases h.taken_or_failed hpath with ⟨d, hd, hsource, hread⟩ | ⟨e, hf⟩
    · -- had it been taken in, the unit would stand before itself
      cases hc.symm.trans hread
      cases hsource.symm.trans (htaken.eq_of_key hdistinct hd rfl)
      exact absurd htaken.1 (lt_irrefl _)
    · rcases h.refused _ hf with he | ⟨d, first', hd, ⟨-, d', hd', hsource, hkey⟩, he⟩
      · cases hc.symm.trans he
      · cases hc.symm.trans hd
        cases hsource.symm.trans (htaken.eq_of_key hdistinct hd' hkey)
        cases he
        exact hf

end LoadReport

/-! ## Directories -/

section Directory

variable {r : UnitReaders} {files other loaded : FileTree} {dir : String} {report : LoadReport}

theorem loadDirectory_eq (r : UnitReaders) (files : FileTree) (dir : String) :
    loadDirectory r files dir = (files.prepared dir).bind fun made =>
      (made.list dir).map fun es => (loadEntries r made dir es, made) := by
  unfold loadDirectory FileTree.prepared
  split <;> rfl

theorem loadDirectory_ok (h : loadDirectory r files dir = .ok (report, loaded)) :
    ∃ es, files.prepared dir = .ok loaded ∧ loaded.list dir = .ok es ∧
      report = loadEntries r loaded dir es := by
  rw [loadDirectory_eq] at h
  cases hmade : files.prepared dir with
  | error e => rw [hmade] at h; cases h
  | ok made =>
    rw [hmade, Except.bind] at h
    cases hes : made.list dir with
    | error e => rw [hes] at h; cases h
    | ok es =>
      rw [hes] at h
      cases h
      exact ⟨es, rfl, hes, rfl⟩

theorem loadDirectory_error_iff (r : UnitReaders) {e : FileError} :
    loadDirectory r files dir = .error e ↔
      (files.prepared dir).bind (fun made => made.list dir) = .error e := by
  rw [loadDirectory_eq]
  cases files.prepared dir with
  | error e' => simp [Except.bind]
  | ok made =>
    simp only [Except.bind]
    cases made.list dir <;> simp [Except.map]

theorem nodup_loadDirectory (h : loadDirectory r files dir = .ok (report, loaded)) :
    (report.commands.map Command.key).Nodup := by
  obtain ⟨es, -, -, rfl⟩ := loadDirectory_ok h
  have hnone : (({} : LoadReport).commands.map Command.key).Nodup := List.nodup_nil
  exact LoadReport.nodup_foldl_add hnone (loadUnit r loaded) (unitPaths dir es)

theorem read_of_mem_loadDirectory (h : loadDirectory r files dir = .ok (report, loaded)) :
    ∀ c ∈ report.commands, ∃ path, loadUnit r loaded path = .ok c := by
  obtain ⟨es, -, -, rfl⟩ := loadDirectory_ok h
  have hnone : ∀ c ∈ ({} : LoadReport).commands, ∃ path, loadUnit r loaded path = .ok c :=
    fun c hc => absurd hc List.not_mem_nil
  exact LoadReport.read_of_mem_foldl_add hnone (unitPaths dir es)

theorem covers_loadDirectory (hproper : files.Proper)
    (h : loadDirectory r files dir = .ok (report, loaded)) :
    ∃ units, report.Covers (loadUnit r loaded) units ∧ units.Pairwise (· < ·) ∧
      ∀ path, path ∈ units ↔ loaded.IsUnitOf dir path := by
  obtain ⟨es, hmade, hes, rfl⟩ := loadDirectory_ok h
  have hloaded : loaded.Proper := hproper.prepared hmade
  have hordered := pairwise_unitPaths hloaded hes
  have hnone : ({} : LoadReport).Covers (loadUnit r loaded) [] :=
    ⟨.nil, .slnil, .slnil, nofun, nofun⟩
  exact ⟨unitPaths dir es, hnone.foldl_add hordered fun path c => source_loadUnit, hordered,
    fun path => mem_unitPaths hloaded hes⟩

theorem units_loadDirectory (hproper : files.Proper)
    (h : loadDirectory r files dir = .ok (report, loaded)) :
    (report.sources ++ report.failed).Nodup ∧
      ∀ path, path ∈ report.sources ++ report.failed ↔ loaded.IsUnitOf dir path := by
  obtain ⟨units, hcovers, hordered, hunits⟩ := covers_loadDirectory hproper h
  exact ⟨hcovers.each.nodup_iff.2 (hordered.imp ne_of_lt), fun path =>
    hcovers.each.mem_iff.trans (hunits path)⟩

theorem loadDirectory_sameFiles (hfiles : files.Proper) (hother : other.Proper)
    (h : files.SameFiles other) (r : UnitReaders) (dir : String) :
    (loadDirectory r files dir).map Prod.fst = (loadDirectory r other dir).map Prod.fst := by
  rw [loadDirectory_eq, loadDirectory_eq]
  rcases h.prepared dir with ⟨e, ht, hu⟩ | ⟨made, made', ht, hu, hmade⟩ <;> rw [ht, hu]
  rcases hmade.list dir with ⟨e, hes, hfs⟩ | ⟨es, fs, hes, hfs, -⟩ <;>
    simp only [Except.bind, hes, hfs]
  · rfl
  have hunits := unitPaths_eq hmade (hfiles.prepared ht) (hother.prepared hu) hes hfs
  have hread : loadUnit r made = loadUnit r made' := by
    funext path
    rw [loadUnit, loadUnit, hmade.readText]
  simp only [Except.map, loadEntries, hunits, hread]

theorem loadDirectory_of_list {es : List (String × FileEntry)} (h : files.list dir = .ok es) :
    loadDirectory r files dir = .ok (loadEntries r files dir es, files) := by
  obtain ⟨names, hlocate, hdir⟩ := FileTree.list_ok h
  have hpath : files.hasPath dir = true := by
    rw [FileTree.hasPath, FileTree.find?, hlocate, Except.toOption, Option.bind_some, hdir]
    rfl
  rw [loadDirectory_eq, FileTree.prepared, if_pos hpath, Except.bind, h, Except.map]

theorem loaded_of_hasPath (h : loadDirectory r files dir = .ok (report, loaded))
    (hpath : files.hasPath dir = true) : loaded = files := by
  obtain ⟨es, hmade, -⟩ := loadDirectory_ok h
  rw [FileTree.prepared, if_pos hpath] at hmade
  cases hmade
  rfl

/-- **Loading a directory.** The report does not depend on the order in which any directory lists
its files. Every unit of the directory is in it exactly once, taken in or left out, and nothing
else is; both lists are in the order of the paths, and what was there before is left as it was. No
two commands have one name in any letter case, and each is what its unit is read as. A unit that
cannot be read fails by its own error, and takes no name; one that can be read fails exactly if a
unit before it was taken in by that name, and the error tells which. -/
theorem loadDirectory_accounts (r : UnitReaders) (hfiles : files.Proper) (dir : String) :
    (∀ other : FileTree, other.Proper → files.SameFiles other →
      (loadDirectory r other dir).map Prod.fst = (loadDirectory r files dir).map Prod.fst) ∧
    ∀ report loaded, loadDirectory r files dir = .ok (report, loaded) →
      (files.hasPath dir = true → loaded = files) ∧
      (report.sources ++ report.failed).Nodup ∧
      (∀ path, path ∈ report.sources ++ report.failed ↔ loaded.IsUnitOf dir path) ∧
      report.sources.Pairwise (· < ·) ∧ report.failed.Pairwise (· < ·) ∧
      (report.commands.map Command.key).Nodup ∧
      (∀ c ∈ report.commands, ∃ path, c.source = some path ∧ loadUnit r loaded path = .ok c) ∧
      ∀ path, loaded.IsUnitOf dir path →
        (∀ e, loadUnit r loaded path = .error e → ⟨path, e⟩ ∈ report.failures) ∧
        ∀ c, loadUnit r loaded path = .ok c → ∀ e, ⟨path, e⟩ ∈ report.failures ↔
          ∃ first, report.TakenBefore path c first ∧ e = .duplicate c.name first := by
  refine ⟨fun other hother h => (loadDirectory_sameFiles hfiles hother h r dir).symm, ?_⟩
  intro report loaded hload
  have hdistinct := nodup_loadDirectory hload
  obtain ⟨units, hcovers, hordered, hunits⟩ := covers_loadDirectory hfiles hload
  obtain ⟨honce, hall⟩ := units_loadDirectory hfiles hload
  refine ⟨loaded_of_hasPath hload, honce, hall, hordered.sublist hcovers.sources,
    hordered.sublist hcovers.failed, hdistinct, hcovers.taken, fun path hpath => ?_⟩
  have hunit := (hunits path).2 hpath
  exact ⟨fun e => hcovers.mem_failures_of_error hunit,
    fun c hc e => hcovers.mem_failures_iff hdistinct hunit hc⟩

end Directory

/-- Two units of one name, one that is no text, and what is no unit. -/
def depot : List (String × FileEntry) :=
  [("Warp.toml", .file (some "")), ("broken.yml", .file none), ("notes.txt", .file (some "")),
    ("old.yml", .dir []), ("warp.yml", .file (some ""))]

def depotFiles (entries : List (String × FileEntry)) : FileTree where
  root := (FileEntry.dir []).put ["commands"] (.dir entries)

theorem proper_depot : (FileEntry.dir depot).Proper := by
  refine .dir (by decide) (by decide +kernel) ?_
  simp only [depot, List.forall_mem_cons, List.not_mem_nil, false_implies, implies_true, and_true]
  exact ⟨.file _, .file _, .file _, .empty, .file _⟩

theorem proper_depotFiles {entries : List (String × FileEntry)} (h : depot.Perm entries) :
    (depotFiles entries).Proper :=
  FileEntry.Proper.empty.put (proper_depot.perm h) (by decide +kernel)

/-- Takes any text for a command without arguments. -/
def UnitReaders.lenient : UnitReaders where
  yaml _ := some { root := .mk {} [] }
  toml _ := some { root := .mk {} [] }

def depotReport : LoadReport :=
  ["commands/Warp.toml", "commands/broken.yml", "commands/warp.yml"].foldl
    (fun report path => report.add path (loadUnit .lenient (depotFiles depot) path)) {}

theorem loadDirectory_depot :
    loadDirectory .lenient (depotFiles depot) "commands" = .ok (depotReport, depotFiles depot) := by
  have hpaths : unitPaths "commands" depot =
      ["commands/Warp.toml", "commands/broken.yml", "commands/warp.yml"] := by
    simp only [unitPaths]
    rw [List.mergeSort_of_pairwise (by decide +kernel)]
    decide +kernel
  have hlocate : (depotFiles depot).locate "commands" = .ok ["commands"] := by decide +kernel
  have hlist : (depotFiles depot).list "commands" = .ok depot := by
    rw [FileTree.list, hlocate]
    rfl
  rw [loadDirectory_of_list hlist, loadEntries, hpaths, depotReport]

/-- Listed backwards, the depot gives the same report: one unit is no text, and one has the name of
a unit before it. -/
theorem depot_loaded :
    (depotFiles depot).Proper ∧ (depotFiles depot.reverse).Proper ∧
      (depotFiles depot).SameFiles (depotFiles depot.reverse) ∧
      (loadDirectory .lenient (depotFiles depot.reverse) "commands").map Prod.fst =
        .ok depotReport ∧
      ⟨"commands/broken.yml", .io .notText⟩ ∈ depotReport.failures ∧
      ⟨"commands/warp.yml", .duplicate "warp" "commands/Warp.toml"⟩ ∈ depotReport.failures := by
  have hbackwards := (List.reverse_perm depot).symm
  have hfiles := proper_depotFiles (.refl depot)
  have hother := proper_depotFiles hbackwards
  have hsame : (depotFiles depot).SameFiles (depotFiles depot.reverse) :=
    ⟨FileEntry.Alike.put (fun _ => rfl) (FileEntry.alike_of_perm (by decide) hbackwards) _, rfl⟩
  obtain ⟨horder, hreport⟩ := loadDirectory_accounts .lenient hfiles "commands"
  obtain ⟨-, -, hunits, -, -, -, -, hfailures⟩ := hreport depotReport _ loadDirectory_depot
  have hunit (path : String) (h : path ∈ depotReport.sources ++ depotReport.failed) :
      (depotFiles depot).IsUnitOf "commands" path := (hunits path).1 h
  refine ⟨hfiles, hother, hsame, ?_, ?_, ?_⟩
  · rw [horder _ hother hsame, loadDirectory_depot, Except.map]
  · exact (hfailures _ (hunit _ (by decide +kernel))).1 _ rfl
  · have htaken : (some "commands/Warp.toml", "warp") ∈
        depotReport.commands.map fun d => (d.source, d.key) := by decide +kernel
    obtain ⟨d, hd, heq⟩ := List.mem_map.1 htaken
    obtain ⟨hsource, hkey⟩ := Prod.mk.inj heq
    refine ((hfailures _ (hunit _ (by decide +kernel))).2 _ rfl _).2 ⟨"commands/Warp.toml", ?_, rfl⟩
    exact ⟨by decide +kernel, d, hd, hsource, hkey.trans (by decide +kernel)⟩

end CustomCommands
