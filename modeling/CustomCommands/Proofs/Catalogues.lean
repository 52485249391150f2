import CustomCommands.Catalogue
import Mathlib.Data.List.Perm.Basic

/-!
# What a catalogue holds

No two labels of a catalogue have one key (`nodup_keys_ofCommands`): names are
kept once, an alias is given out once, and none is a name. So whatever has a
label of an entry is told the command of that entry and no other
(`find?_eq_some_iff`).
-/

namespace CustomCommands.Catalogue

/-! ## Keys -/

def Entry.keys (e : Entry) : List String :=
  e.labels.map key

def keys (c : Catalogue) : List String :=
  c.entries.flatMap Entry.keys

theorem Entry.answersTo_iff {label : String} {e : Entry} :
    e.answersTo label = true ↔ key label ∈ e.keys := by
  unfold answersTo keys
  rw [List.any_eq_true, List.mem_map]
  simp only [beq_iff_eq]

theorem mem_labels {c : Catalogue} {x : String × Handle} :
    x ∈ c.labels ↔ ∃ e ∈ c.entries, x.1 ∈ e.labels ∧ x.2 = e.handle := by
  obtain ⟨label, handle⟩ := x
  simp only [labels, List.mem_flatMap, List.mem_map, Prod.mk.injEq]
  constructor
  · rintro ⟨e, he, l, hl, rfl, rfl⟩
    exact ⟨e, he, hl, rfl⟩
  · rintro ⟨e, he, hl, rfl⟩
    exact ⟨e, he, label, hl, rfl, rfl⟩

theorem keys_eq (c : Catalogue) : c.keys = (c.labels.map Prod.fst).map key := by
  unfold keys labels
  rw [List.map_flatMap, List.map_flatMap]
  congr 1
  funext e
  rw [List.map_map, List.map_map]
  rfl

theorem mem_keys {c : Catalogue} {k : String} :
    k ∈ c.keys ↔ ∃ e ∈ c.entries, ∃ l ∈ e.labels, key l = k := by
  simp only [keys, Entry.keys, List.mem_flatMap, List.mem_map]

/-! ## Building -/

/-- The elements whose key was not seen before. -/
def firsts {α : Type} (f : α → String) (seen : List String) : List α → List α
  | [] => []
  | a :: as => if f a ∈ seen then firsts f seen as else a :: firsts f (f a :: seen) as

theorem distinct_value (seen : List String) (cs : List Command) :
    (distinct seen cs).value = firsts Command.key seen cs := by
  induction cs generalizing seen with
  | nil => rfl
  | cons c cs ih =>
    rw [distinct, firsts, List.contains_eq_mem]
    by_cases h : c.key ∈ seen <;> simp [h, ih]

theorem accept_value (taken : List String) (as : List String) :
    (accept taken as).value = firsts key taken as := by
  induction as generalizing taken with
  | nil => rfl
  | cons a as ih =>
    rw [accept, firsts, List.contains_eq_mem]
    by_cases h : key a ∈ taken <;> simp [h, ih]

theorem nodup_firsts {α : Type} (f : α → String) (seen : List String) (as : List α) :
    ((firsts f seen as).map f).Nodup ∧ ∀ a ∈ firsts f seen as, f a ∉ seen := by
  induction as generalizing seen with
  | nil => exact ⟨List.nodup_nil, nofun⟩
  | cons a as ih =>
    rw [firsts]
    split
    · exact ih seen
    · next hseen =>
      obtain ⟨hnodup, hnew⟩ := ih (f a :: seen)
      refine ⟨List.nodup_cons.2 ⟨?_, hnodup⟩, ?_⟩
      · intro hmem
        obtain ⟨a', ha', heq⟩ := List.mem_map.1 hmem
        exact hnew a' ha' (heq ▸ List.mem_cons_self)
      · intro a' ha'
        rcases List.mem_cons.1 ha' with rfl | ha'
        · exact hseen
        · exact fun hmem => hnew a' ha' (List.mem_cons_of_mem _ hmem)

theorem assign_commands (taken : List String) (cs : List Command) :
    (assign taken cs).value.map Entry.command = cs := by
  induction cs generalizing taken with
  | nil => rfl
  | cons c cs ih =>
    simp only [assign, Noted.value_bind, Noted.value_pure, List.map_cons, ih]

theorem nodup_assign (taken : List String) (cs : List Command) :
    ((assign taken cs).value.flatMap fun e => e.aliases.map key).Nodup ∧
      ∀ k ∈ (assign taken cs).value.flatMap fun e => e.aliases.map key, k ∉ taken := by
  induction cs generalizing taken with
  | nil => exact ⟨List.nodup_nil, nofun⟩
  | cons c cs ih =>
    simp only [assign, Noted.value_bind, Noted.value_pure, List.flatMap_cons, accept_value]
    obtain ⟨hgiven, hfree⟩ := nodup_firsts key taken c.aliases
    obtain ⟨hrest, hnew⟩ := ih ((firsts key taken c.aliases).map key ++ taken)
    refine ⟨List.nodup_append.2 ⟨hgiven, hrest, ?_⟩, ?_⟩
    · rintro k hk k' hk' rfl
      exact hnew k hk' (List.mem_append_left _ hk)
    · intro k hk
      rcases List.mem_append.1 hk with hk | hk
      · obtain ⟨a, ha, rfl⟩ := List.mem_map.1 hk
        exact hfree a ha
      · exact fun hmem => hnew k hk (List.mem_append_right _ hmem)

theorem nodup_keys_ofCommands (commands : List Command) :
    (ofCommands commands).value.keys.Nodup := by
  simp only [ofCommands, Noted.value_bind, Noted.value_pure, distinct_value]
  obtain ⟨hnames, -⟩ := nodup_firsts Command.key [] commands
  generalize firsts Command.key [] commands = kept at hnames ⊢
  have hcommands := assign_commands (kept.map Command.key) kept
  obtain ⟨haliases, hnew⟩ := nodup_assign (kept.map Command.key) kept
  generalize (assign (kept.map Command.key) kept).value = entries at hcommands haliases hnew ⊢
  have hkept : kept.map Command.key = entries.map fun e => e.command.key := by
    rw [← hcommands, List.map_map]; rfl
  rw [hkept] at hnames hnew
  -- the names of all entries may stand before all their aliases
  have hperm := List.map_append_flatMap_perm entries (fun e => e.command.key)
    (fun e => e.aliases.map key)
  refine hperm.nodup_iff.1 (List.nodup_append.2 ⟨hnames, haliases, ?_⟩)
  rintro k hk k' hk' rfl
  exact hnew k hk' hk

/-! ## Looking up -/

/-- A label leads to the command whose entry has its key. -/
theorem find?_eq_some_iff {c : Catalogue} (h : c.keys.Nodup) {label : String} {command : Command} :
    c.find? label = some command ↔
      ∃ e ∈ c.entries, key label ∈ e.keys ∧ e.command = command := by
  unfold find?
  unfold keys at h
  generalize c.entries = entries at h ⊢
  induction entries with
  | nil => simp
  | cons e entries ih =>
    rw [List.flatMap_cons, List.nodup_append] at h
    obtain ⟨-, hrest, hapart⟩ := h
    rw [List.find?_cons]
    cases ha : e.answersTo label with
    | true =>
      have hkey := Entry.answersTo_iff.1 ha
      simp only [Option.map_some, Option.some.injEq]
      constructor
      · exact fun hc => ⟨e, List.mem_cons_self, hkey, hc⟩
      · rintro ⟨e', he', hk, hc⟩
        rcases List.mem_cons.1 he' with rfl | he'
        · exact hc
        · exact absurd rfl (hapart _ hkey _ (List.mem_flatMap.2 ⟨e', he', hk⟩))
    | false =>
      have hkey : key label ∉ e.keys := fun hk => by
        rw [Entry.answersTo_iff.2 hk] at ha
        cases ha
      rw [ih hrest]
      constructor
      · rintro ⟨e', he', hk, hc⟩
        exact ⟨e', List.mem_cons_of_mem _ he', hk, hc⟩
      · rintro ⟨e', he', hk, hc⟩
        rcases List.mem_cons.1 he' with rfl | he'
        · exact absurd hk hkey
        · exact ⟨e', he', hk, hc⟩

end CustomCommands.Catalogue
