import CustomCommands.Proofs.Outlines

/-!
# What a set of actions does

A run is made of what its entries do alone, each on the platform that those before
it left (`Executor.run_effects`, `Executor.before_succ`). An entry is `Usable` if its
kind is known and its payload has the shape that the kind wants; one that is not is
skipped and leaves everything as it is (`Executor.runEntry_of_unusable`). What is
said or shown to somebody goes to the sender, and needs a player for that unless it
is a message (`Executor.run_isFor`).
-/

namespace CustomCommands

/-! ## Shapes -/

inductive Value.Shape where
  | text
  | list
  | mapping
  deriving DecidableEq

def Value.shape : Value → Shape
  | .text _ => .text
  | .list _ => .list
  | .map _ => .mapping

namespace ActionKind

def shape : ActionKind → Value.Shape
  | console | chat | broadcast | message | sound => .list
  | teleport | bigText => .mapping
  | smallText => .text

def words : ActionKind → List String
  | console => ["console"]
  | chat => ["player", "player-chat"]
  | broadcast => ["broadcast"]
  | message => ["message"]
  | sound => ["sound"]
  | teleport => ["teleport"]
  | bigText => ["big_text"]
  | smallText => ["small_text"]

theorem ofName?_eq_some_iff {name : String} {kind : ActionKind} :
    ofName? name = some kind ↔ Text.asciiLower name ∈ kind.words := by
  unfold ofName?
  split
  all_goals cases kind <;> simp_all [words]

theorem accepts_iff {kind : ActionKind} {v : Value} :
    kind.accepts v = true ↔ v.shape = kind.shape := by
  cases v <;> cases kind <;> simp [accepts, takesLines, shape, Value.shape]

end ActionKind

namespace Effect

/-- Whatever is said or shown to somebody goes to the sender, and only messages go to a sender who
is no player. -/
def IsFor (s : Sender) : Effect → Prop
  | .message who _ => who = s.name
  | .chat who _ | .sound who _ | .title who _ _ | .actionBar who _ =>
    who = s.name ∧ s.isPlayer = true
  | .console _ | .broadcast _ | .teleport _ _ => True

end Effect

namespace Executor

variable {playerOnly : String} {p : Platform} {s : Sender} {b : Bindings}
  {entry : String × Value} {entries actions : ActionSet} {kind : ActionKind}

/-! ## Entries -/

/-- Is the kind known, and has the payload the shape for it? -/
def Usable (b : Bindings) (entry : String × Value) : Prop :=
  ∃ kind : ActionKind, Text.asciiLower entry.1 ∈ kind.words ∧
    (b.substitute entry.2).shape = kind.shape

theorem runEntry_fst_iff : (runEntry playerOnly p s b entry).1 = true ↔ Usable b entry := by
  unfold runEntry Usable
  simp only [← ActionKind.ofName?_eq_some_iff, ← ActionKind.accepts_iff]
  cases ActionKind.ofName? entry.1 with
  | none => simp
  | some kind =>
    cases h : kind.accepts (b.substitute entry.2) <;> simp [h]

instance (b : Bindings) : DecidablePred (Usable b) := fun entry =>
  decidable_of_iff ((runEntry "" {} .console b entry).1 = true) runEntry_fst_iff

theorem runEntry_done : (runEntry playerOnly p s b entry).1 = decide (Usable b entry) := by
  rw [Bool.eq_iff_iff, runEntry_fst_iff, decide_eq_true_eq]

theorem runEntry_of_unusable (h : ¬ Usable b entry) :
    (runEntry playerOnly p s b entry).2.effects = [] ∧
      (runEntry playerOnly p s b entry).2.platform = p := by
  unfold runEntry
  split
  · exact ⟨rfl, rfl⟩
  · rename_i kind hkind
    have hmisfit : ¬ kind.accepts (b.substitute entry.2) = true := fun haccepts =>
      h ⟨kind, ActionKind.ofName?_eq_some_iff.1 hkind, ActionKind.accepts_iff.1 haccepts⟩
    simp only [if_neg hmisfit]
    exact ⟨rfl, rfl⟩

/-- Who is no player gets one message for an entry that needs a player. -/
theorem runEntry_of_playerOnly (hs : s.isPlayer = false)
    (hkind : ActionKind.ofName? entry.1 = some kind) (honly : kind.playerOnly = true)
    (hshape : (b.substitute entry.2).shape = kind.shape) :
    (runEntry playerOnly p s b entry).2.effects =
        [.message s.name (Colour.translate playerOnly)] ∧
      (runEntry playerOnly p s b entry).2.platform = p := by
  have haccepts := ActionKind.accepts_iff.2 hshape
  have hlines (payload : Value) :
      perform playerOnly p s kind payload = runLines playerOnly p s kind (payload.lines?.getD []) := by
    cases kind with
    | chat | sound => rfl
    | _ => cases honly
  simp only [runEntry, hkind, haccepts, ↓reduceIte, hlines, runLines, honly, hs, Bool.not_false,
    Bool.and_self]
  exact ⟨rfl, rfl⟩

/-! ## Who is addressed -/

theorem runLine_isFor (hs : kind.playerOnly = true → s.isPlayer = true) (line : String) :
    ∀ e ∈ (runLine p s kind line).effects, e.IsFor s := by
  unfold runLine
  cases kind with
  | chat => simpa [Performance.ask, Effect.IsFor] using hs rfl
  | sound =>
    simp only
    split
    · simpa [Performance.ask, Effect.IsFor] using hs rfl
    · exact List.forall_mem_nil _
  | _ => simp [Performance.ask, Performance.nothing, Effect.IsFor]

theorem runLines_isFor (lines : List String) :
    ∀ e ∈ (runLines playerOnly p s kind lines).effects, e.IsFor s := by
  unfold runLines
  split
  · simp [Performance.ask, Effect.IsFor]
  · rename_i hs
    intro e he
    obtain ⟨line, -, he⟩ := List.mem_flatMap.1 he
    refine runLine_isFor (fun honly => ?_) line e he
    simpa [honly] using hs

theorem teleport_isFor (data : Value) : ∀ e ∈ (teleport p data).effects, e.IsFor s := by
  unfold teleport teleportTo
  repeat' split
  all_goals
    simp [moveTo, Performance.tell, Performance.nothing, Effect.IsFor]

theorem showPlayer_isFor {e : Effect} (he : s.isPlayer = true → e.IsFor s) :
    ∀ e' ∈ (showPlayer p s e).effects, e'.IsFor s := by
  unfold showPlayer
  split
  · rename_i hs
    simpa [Performance.ask] using he hs
  · exact List.forall_mem_nil _

theorem perform_isFor (payload : Value) :
    ∀ e ∈ (perform playerOnly p s kind payload).effects, e.IsFor s := by
  cases kind with
  | teleport => exact teleport_isFor payload
  | bigText | smallText => exact showPlayer_isFor fun hs => ⟨rfl, hs⟩
  | _ => exact runLines_isFor _

theorem runEntry_isFor : ∀ e ∈ (runEntry playerOnly p s b entry).2.effects, e.IsFor s := by
  unfold runEntry
  split
  · exact List.forall_mem_nil _
  · simp only
    split
    · exact perform_isFor _
    · exact List.forall_mem_nil _

theorem run_isFor : ∀ e ∈ (run playerOnly p s b actions).2.effects, e.IsFor s := by
  induction actions generalizing p with
  | nil => exact List.forall_mem_nil _
  | cons entry entries ih =>
    intro e he
    rcases List.mem_append.1 he with he | he
    · exact runEntry_isFor e he
    · exact ih e he

/-! ## Entries in a row -/

/-- The entry run alone. -/
def alone (playerOnly : String) (s : Sender) (b : Bindings) (p : Platform)
    (entry : String × Value) : RunSummary × Performance :=
  run playerOnly p s b [entry]

/-- The platform that the first `k` entries leave. -/
def before (playerOnly : String) (s : Sender) (b : Bindings) (p : Platform) (actions : ActionSet)
    (k : Nat) : Platform :=
  (run playerOnly p s b (actions.take k)).2.platform

theorem run_cons :
    run playerOnly p s b (entry :: entries) =
      let first := (runEntry playerOnly p s b entry).2
      let (summary, rest) := run playerOnly first.platform s b entries
      ({ executed := summary.executed + if Usable b entry then 1 else 0
         skipped := summary.skipped + if Usable b entry then 0 else 1 },
       { platform := rest.platform
         effects := first.effects ++ rest.effects
         notices := first.notices ++ rest.notices }) := by
  simp only [run, runEntry_done, decide_eq_true_eq]

theorem alone_effects :
    (alone playerOnly s b p entry).2.effects = (runEntry playerOnly p s b entry).2.effects :=
  List.append_nil _

theorem alone_platform :
    (alone playerOnly s b p entry).2.platform = (runEntry playerOnly p s b entry).2.platform := rfl

theorem alone_skipped : (alone playerOnly s b p entry).1.skipped = 1 ↔ ¬ Usable b entry := by
  rw [alone, run_cons]
  by_cases h : Usable b entry <;> simp [run, h]

theorem run_counts :
    (run playerOnly p s b actions).1 =
      { executed := actions.countP fun entry => Usable b entry
        skipped := actions.countP fun entry => ¬ Usable b entry } := by
  induction actions generalizing p with
  | nil => rfl
  | cons entry entries ih =>
    simp only [run_cons, ih, List.countP_cons]
    by_cases h : Usable b entry <;> simp [h]

theorem run_effects :
    (run playerOnly p s b actions).2.effects =
      actions.zipIdx.flatMap fun (entry, k) =>
        (alone playerOnly s b (before playerOnly s b p actions k) entry).2.effects := by
  induction actions generalizing p with
  | nil => rfl
  | cons entry entries ih =>
    have hfirst : (run playerOnly p s b (entry :: entries)).2.effects =
        (alone playerOnly s b p entry).2.effects ++
          (run playerOnly (alone playerOnly s b p entry).2.platform s b entries).2.effects := by
      rw [alone_effects, alone_platform, run_cons]
    rw [hfirst, ih, List.zipIdx_cons, List.flatMap_cons, List.zipIdx_succ, List.flatMap_map]
    rfl

/-- Each entry goes on from where those before it left off. -/
theorem before_succ {k : Nat} (h : k < actions.length) :
    before playerOnly s b p actions (k + 1) =
      (alone playerOnly s b (before playerOnly s b p actions k) actions[k]).2.platform := by
  induction actions generalizing p k with
  | nil => cases h
  | cons entry entries ih =>
    cases k with
    | zero => rfl
    | succ k => exact ih (Nat.lt_of_succ_lt_succ h)

/-- **Actions run one by one.** Each entry of a set is executed or skipped, and it is skipped
exactly if no kind has its name in any letter case, or its payload, with the bound texts put in,
has not the shape for the kind; then it has no effect and leaves the platform as it is. The effects
are those of the entries in their order, each run alone on the platform that those before it left.
Whatever is said or shown to somebody goes to the sender. To a sender who is no player only
messages go; and an entry that needs a player is a single message then. -/
theorem run_one_by_one (playerOnly : String) (p : Platform) (s : Sender) (b : Bindings)
    (actions : ActionSet) :
    let whole := run playerOnly p s b actions
    let before := before playerOnly s b p actions
    let alone := alone playerOnly s b
    whole.1.executed + whole.1.skipped = actions.length ∧
    whole.1.skipped = (actions.countP fun entry => ¬ Usable b entry) ∧
    (∀ q entry, ((alone q entry).1.skipped = 1 ↔ ¬ Usable b entry) ∧
      (¬ Usable b entry → (alone q entry).2.effects = [] ∧ (alone q entry).2.platform = q)) ∧
    (whole.2.effects =
      actions.zipIdx.flatMap fun (entry, k) => (alone (before k) entry).2.effects) ∧
    (before 0 = p ∧ before actions.length = whole.2.platform ∧
      ∀ k (h : k < actions.length), before (k + 1) = (alone (before k) actions[k]).2.platform) ∧
    (∀ e ∈ whole.2.effects, e.IsFor s) ∧
    (s.isPlayer = false → ∀ q entry kind, Text.asciiLower entry.1 ∈ ActionKind.words kind →
      kind.playerOnly = true → (b.substitute entry.2).shape = kind.shape →
      (alone q entry).2.effects = [.message s.name (Colour.translate playerOnly)] ∧
        (alone q entry).2.platform = q) := by
  intro whole before' alone'
  have hcounts : whole.1 = _ := run_counts
  refine ⟨?_, ?_, fun q entry => ⟨alone_skipped, fun h => ?_⟩, run_effects, ⟨rfl, ?_, ?_⟩,
    run_isFor, ?_⟩
  · rw [hcounts, List.length_eq_countP_add_countP (fun entry => Usable b entry)]
    simp
  · rw [hcounts]
  · exact ⟨alone_effects.trans (runEntry_of_unusable h).1,
      alone_platform.trans (runEntry_of_unusable h).2⟩
  · simp only [before', before, List.take_length, whole]
  · exact fun k h => before_succ h
  · intro hs q entry kind hword honly hshape
    have hkind := ActionKind.ofName?_eq_some_iff.2 hword
    exact ⟨alone_effects.trans (runEntry_of_playerOnly hs hkind honly hshape).1,
      alone_platform.trans (runEntry_of_playerOnly hs hkind honly hshape).2⟩

end Executor

end CustomCommands
