import CustomCommands.Proofs.Census

/-!
# What bound text cannot change

Players have a say in the texts of actions, by the words that placeholders are
bound to. An effect's `outline` leaves its texts out: what is left is its kind
and the player it goes to. Putting text into a payload keeps its shape, the
number of its lines and the keys of its mappings, so every action says as much,
to the same players, whatever is bound (`Executor.perform_outlines`). Sounds and
teleports are left out of account: there the text is the name of a sound or a
place, which the host may or may not have.
-/

namespace CustomCommands

/-! ## Outlines -/

inductive Effect.Kind where
  | message
  | console
  | broadcast
  | chat
  | sound
  | title
  | actionBar
  | teleport
  deriving DecidableEq, Repr

namespace Effect

def kind : Effect → Kind
  | .message _ _ => .message
  | .console _ => .console
  | .broadcast _ => .broadcast
  | .chat _ _ => .chat
  | .sound _ _ => .sound
  | .title _ _ _ => .title
  | .actionBar _ _ => .actionBar
  | .teleport _ _ => .teleport

/-- The player it goes to; console lines and broadcasts go to nobody in particular. -/
def addressee? : Effect → Option String
  | .console _ | .broadcast _ => none
  | .message who _ | .chat who _ | .sound who _ | .title who _ _ | .actionBar who _
  | .teleport who _ => some who

def isText (e : Effect) : Bool :=
  e.kind != .sound && e.kind != .teleport

def outline (e : Effect) : Kind × Option String :=
  (e.kind, e.addressee?)

end Effect

def Performance.outlines (x : Performance) : List (Effect.Kind × Option String) :=
  (x.effects.filter Effect.isText).map Effect.outline

namespace Executor

/-! ## Lines -/

theorem runLine_outlines (p p' : Platform) (s : Sender) (kind : ActionKind) (line line' : String) :
    (runLine p s kind line).outlines = (runLine p' s kind line').outlines := by
  have hsound (q : Platform) (l : String) : (runLine q s .sound l).outlines = [] := by
    unfold runLine
    simp only
    split <;> rfl
  cases kind with
  | sound => rw [hsound, hsound]
  | _ => rfl

theorem runLines_outlines (playerOnly : String) (p p' : Platform) (s : Sender) (kind : ActionKind)
    (f : String → String) (lines : List String) :
    (runLines playerOnly p s kind (lines.map f)).outlines =
      (runLines playerOnly p' s kind lines).outlines := by
  unfold runLines
  split
  · rfl
  · simp only [Performance.outlines, List.flatMap_map, List.filter_flatMap, List.map_flatMap]
    exact congrArg (lines.flatMap ·) (funext fun l => runLine_outlines p p' s kind (f l) l)

/-! ## Entries -/

theorem teleport_outlines (p : Platform) (data : Value) : (teleport p data).outlines = [] := by
  unfold teleport teleportTo
  repeat' split
  all_goals rfl

theorem perform_outlines (playerOnly : String) (p p' : Platform) (s : Sender) (kind : ActionKind)
    (f : String → String) (payload : Value) :
    (perform playerOnly p s kind (payload.mapText f)).outlines =
      (perform playerOnly p' s kind payload).outlines := by
  cases kind with
  | teleport =>
    rw [perform, perform, teleport_outlines, teleport_outlines]
  | bigText | smallText =>
    simp only [perform, showPlayer]
    split <;> rfl
  | _ =>
    simp only [perform, Value.lines?_mapText]
    cases payload.lines? with
    | none => exact runLines_outlines playerOnly p p' s _ f []
    | some lines => exact runLines_outlines playerOnly p p' s _ f lines

theorem runEntry_outlines (playerOnly : String) (p p' : Platform) (s : Sender) (b b' : Bindings)
    (entry : String × Value) :
    (runEntry playerOnly p s b entry).2.outlines =
      (runEntry playerOnly p' s b' entry).2.outlines := by
  unfold runEntry
  cases ActionKind.ofName? entry.1 with
  | none => rfl
  | some kind =>
    simp only [Bindings.substitute, ActionKind.accepts_mapText]
    split
    · exact (perform_outlines playerOnly p p s kind b.apply entry.2).trans
        (perform_outlines playerOnly p' p s kind b'.apply entry.2).symm
    · rfl

/-- **Bound text is only said.** Under any two bindings a set of actions runs and skips as many
entries. Leaving out sounds and teleports, it has as many effects, and each is of the same kind
and goes to the same player as the one in its place under the other bindings; only the texts
differ. So no word of a player adds, drops, reorders or redirects what is said or shown. This
holds on any two platforms. -/
theorem run_outlines (playerOnly : String) (p p' : Platform) (s : Sender) (b b' : Bindings)
    (actions : ActionSet) :
    (run playerOnly p s b actions).1 = (run playerOnly p' s b' actions).1 ∧
      (run playerOnly p s b actions).2.outlines = (run playerOnly p' s b' actions).2.outlines := by
  refine ⟨run_fst playerOnly p p' s b b' actions, ?_⟩
  induction actions generalizing p p' with
  | nil => rfl
  | cons entry entries ih =>
    have hfirst := runEntry_outlines playerOnly p p' s b b' entry
    -- Teleports may have left the platforms different for the entries that follow.
    have hrest := ih (runEntry playerOnly p s b entry).2.platform
      (runEntry playerOnly p' s b' entry).2.platform
    unfold Performance.outlines at hfirst hrest
    simp only [run, Performance.outlines, List.filter_append, List.map_append]
    rw [hfirst, hrest]

end Executor

end CustomCommands
