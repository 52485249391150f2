import CustomCommands.Executor
import CustomCommands.Matching

/-!
# Who is there

Of its platform a match asks only who there is, who of them is online, and which
worlds there are (`Argument.matchPath_congr`). Actions move players and change
none of that (`Executor.run_census`, `Phased.tick_census`), and how many of them
were run or skipped depends on neither the platform nor what is bound
(`Executor.run_fst`).
-/

namespace CustomCommands

/-- What is asked of a player when a path is matched. -/
structure Registration where
  name : String
  id : Uuid
  online : Bool

structure Census where
  players : List Registration
  worlds : List String

def Player.registration (q : Player) : Registration :=
  { name := q.name, id := q.id, online := q.online }

namespace Platform

def census (p : Platform) : Census :=
  { players := p.players.map Player.registration, worlds := p.worldNames }

/-! ## Names -/

theorem onlinePlayer_eq (name : String) (p : Platform) :
    p.onlinePlayer name =
      (p.census.players.find? fun q => q.online && q.name == name).map Registration.id := by
  unfold onlinePlayer onlineNamed census
  rw [List.find?_map, Option.map_map]
  rfl

theorem knownPlayer_eq (name : String) (p : Platform) :
    p.knownPlayer name =
      (p.census.players.find? fun q => Text.sameIgnoringCase q.name name).map Registration.id := by
  unfold knownPlayer census
  rw [List.find?_map, Option.map_map]
  rfl

theorem hasWorld_eq (world : String) (p : Platform) :
    p.hasWorld world = (p.census.worlds.find? (· == world)).isSome := by
  unfold hasWorld ground census worldNames
  rw [List.find?_map, Option.isSome_map, Option.isSome_map]
  rfl

/-! ## Moving -/

theorem registration_updateFirst {change : Player → Player}
    (h : ∀ q, (change q).registration = q.registration) (name : String) (players : List Player) :
    (updateFirst name change players).map Player.registration =
      players.map Player.registration := by
  induction players with
  | nil => rfl
  | cons q players ih =>
    rw [updateFirst]
    split
    · rw [List.map_cons, List.map_cons, h]
    · rw [List.map_cons, List.map_cons, ih]

theorem census_teleport (who : String) (l : Location) (p : Platform) :
    (p.teleport who l).census = p.census := by
  have hsame : (p.teleport who l).players.map Player.registration =
      p.players.map Player.registration := by
    refine registration_updateFirst ?_ who p.players
    exact fun q => rfl
  unfold census
  rw [hsame]
  rfl

theorem updateFirst_congr {change : Player → Player}
    (h : ∀ q q' : Player, q.registration = q'.registration →
      (change q).registration = (change q').registration)
    (name : String) {players players' : List Player}
    (hsame : players.map Player.registration = players'.map Player.registration) :
    (updateFirst name change players).map Player.registration =
      (updateFirst name change players').map Player.registration := by
  induction players generalizing players' with
  | nil => rw [List.map_eq_nil_iff.1 hsame.symm]
  | cons q players ih =>
    cases players' with
    | nil => cases hsame
    | cons q' players' =>
      obtain ⟨hq, hrest⟩ := List.cons_eq_cons.1 hsame
      have hname : q.name = q'.name := congrArg Registration.name hq
      rw [updateFirst, updateFirst, hname]
      split
      · rw [List.map_cons, List.map_cons, h q q' hq, hrest]
      · rw [List.map_cons, List.map_cons, hq, ih hrest]

/-- A player comes or goes alike wherever the same players are. -/
theorem census_setOnline {p p' : Platform} (h : p.census = p'.census) (name : String)
    (online : Bool) : (p.setOnline name online).census = (p'.setOnline name online).census := by
  have hplayers : (p.setOnline name online).players.map Player.registration =
      (p'.setOnline name online).players.map Player.registration := by
    refine updateFirst_congr (fun q q' hq => ?_) name (congrArg Census.players h)
    obtain ⟨(hname : q.name = q'.name), (hid : q.id = q'.id), -⟩ := Registration.mk.inj hq
    show Registration.mk q.name q.id online = Registration.mk q'.name q'.id online
    rw [hname, hid]
  have hworlds : p.worldNames = p'.worldNames := congrArg Census.worlds h
  show Census.mk _ p.worldNames = Census.mk _ p'.worldNames
  rw [hplayers, hworlds]

end Platform

/-! ## Matching -/

section Matching

variable {i i' : Identity}

theorem ArgumentType.takes_congr (hp : i.platform.census = i'.platform.census)
    (hr : i.roster = i'.roster) (input : String) (t : ArgumentType) :
    t.takes i input = t.takes i' input := by
  cases t with
  | onlinePlayer =>
    simp only [takes, Platform.onlinePlayer_eq, hp]
  | player =>
    simp only [takes, Identity.resolve, Platform.onlinePlayer_eq, Platform.knownPlayer_eq, hp, hr]
  | world =>
    simp only [takes, Platform.hasWorld_eq, hp]
  | integer | double | text => rfl

theorem Place.firstTaking_congr (h : ∀ input (t : ArgumentType), t.takes i input = t.takes i' input)
    (word : String) (ps : List Place) : firstTaking i word ps = firstTaking i' word ps := by
  induction ps with
  | nil => rfl
  | cons p ps ih => simp only [firstTaking, h, ih]

theorem Place.walk_congr (h : ∀ input (t : ArgumentType), t.takes i input = t.takes i' input)
    (root : Argument) (s : Sender) (b : Bindings) (p : Place) (words : List String) :
    p.walk root s i b words = p.walk root s i' b words := by
  induction words generalizing b p with
  | nil => rfl
  | cons word words ih =>
    have hselect : p.select i word = p.select i' word := by
      simp only [select, firstTaking_congr h]
    simp only [walk, hselect, ih]

/-- A match goes by the names of the players and worlds, and by the roster. -/
theorem Argument.matchPath_congr (hp : i.platform.census = i'.platform.census)
    (hr : i.roster = i'.roster) (tree : Argument) (s : Sender) (words : List String) :
    tree.matchPath s i words = tree.matchPath s i' words := by
  simp only [matchPath, Place.walk_congr (ArgumentType.takes_congr hp hr)]

end Matching

/-! ## Running -/

namespace Executor

theorem moveTo_census (p : Platform) (who : String) (l : Location) :
    (moveTo p who l).platform.census = p.census :=
  Platform.census_teleport who l p

theorem teleport_census (p : Platform) (data : Value) :
    (teleport p data).platform.census = p.census := by
  unfold teleport teleportTo
  repeat' split
  all_goals first | rfl | exact moveTo_census _ _ _

theorem perform_census (playerOnly : String) (p : Platform) (s : Sender) (kind : ActionKind)
    (payload : Value) : (perform playerOnly p s kind payload).platform.census = p.census := by
  cases kind with
  | teleport => exact teleport_census p payload
  | bigText | smallText =>
    simp only [perform, showPlayer]
    split <;> rfl
  | _ =>
    simp only [perform, runLines]
    split <;> rfl

theorem runEntry_census (playerOnly : String) (p : Platform) (s : Sender) (b : Bindings)
    (entry : String × Value) :
    (runEntry playerOnly p s b entry).2.platform.census = p.census := by
  unfold runEntry
  split
  · rfl
  · next kind _ =>
    simp only
    split
    · exact perform_census playerOnly p s kind _
    · rfl

theorem run_census (playerOnly : String) (p : Platform) (s : Sender) (b : Bindings)
    (actions : ActionSet) : (run playerOnly p s b actions).2.platform.census = p.census := by
  induction actions generalizing p with
  | nil => rfl
  | cons entry entries ih =>
    simp only [run]
    rw [ih, runEntry_census]

/-- Whether an entry is run depends on neither the platform nor what is bound. -/
theorem runEntry_fst (playerOnly : String) (p p' : Platform) (s : Sender) (b b' : Bindings)
    (entry : String × Value) :
    (runEntry playerOnly p s b entry).1 = (runEntry playerOnly p' s b' entry).1 := by
  unfold runEntry
  split
  · rfl
  · simp only [Bindings.substitute, ActionKind.accepts_mapText]
    split <;> rfl

theorem run_fst (playerOnly : String) (p p' : Platform) (s : Sender) (b b' : Bindings)
    (actions : ActionSet) :
    (run playerOnly p s b actions).1 = (run playerOnly p' s b' actions).1 := by
  induction actions generalizing p p' with
  | nil => rfl
  | cons entry entries ih =>
    simp only [run]
    rw [runEntry_fst playerOnly p p' s b b' entry,
      ih (runEntry playerOnly p s b entry).2.platform (runEntry playerOnly p' s b' entry).2.platform]

end Executor

theorem Phased.tick_census (playerOnly : String) (p : Platform) (x : Phased) :
    (x.tick playerOnly p).2.2.platform.census = p.census := by
  unfold tick
  simp only
  split
  · exact Executor.run_census _ _ _ _ _
  · exact Executor.run_census _ _ _ _ _
  · rfl

end CustomCommands
