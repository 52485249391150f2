import CustomCommands.Simulation
import Mathlib.Data.List.Forall2

/-!
# Where the players of a world file are

Each player of a simulation is where its entry says, and else at the origin of the first
world (`WorldFile.player_ok`). The entry's world is looked for among those that the file
names (`WorldFile.place_ok`). A file that names none has one world all the same, but the
entries are not held to it, so that a player may be in a world that does not exist
(`WorldFile.hasWorld_iff_isSettled`).
-/

namespace CustomCommands

theorem forall₂_of_mapM {α β ε : Type} {f : α → Except ε β} {as : List α} {bs : List β}
    (h : as.mapM f = .ok bs) : List.Forall₂ (fun a b => f a = .ok b) as bs := by
  induction as generalizing bs with
  | nil => cases h; exact .nil
  | cons a as ih =>
    rw [List.mapM_cons] at h
    cases ha : f a with
    | error e => rw [ha] at h; cases h
    | ok b =>
      rw [ha] at h
      cases has : as.mapM f with
      | error e => rw [has] at h; cases h
      | ok rest => rw [has] at h; cases h; exact .cons ha (ih has)

theorem forall_mem_iff_of_forall₂ {α β : Type} {p : α → Prop} {q : β → Prop} {as : List α}
    {bs : List β} (h : List.Forall₂ (fun a b => p a ↔ q b) as bs) :
    (∀ a ∈ as, p a) ↔ ∀ b ∈ bs, q b := by
  induction h with
  | nil => simp
  | cons hab _ ih => rw [List.forall_mem_cons, List.forall_mem_cons, hab, ih]

namespace WorldFile

variable {f : WorldFile} {e : PlayerEntry} {q : Player} {l : Location} {fresh : Nat → Uuid}
  {id : Uuid} {sim : Simulation}

/-! ## One player -/

/-- Who has a place of its own is there, and the world is one of those that the file names, if it
names any. All others are at the origin. -/
theorem place_ok (h : f.place e = .ok l) :
    l = e.location.getD f.origin ∧
      ∀ own, e.location = some own → f.worlds ≠ [] → own.world ∈ f.worlds.map World.name := by
  unfold place at h
  cases hown : e.location with
  | none =>
    rw [hown] at h
    cases h
    exact ⟨rfl, nofun⟩
  | some own =>
    simp only [hown] at h
    split at h
    · rename_i hworld
      cases h
      refine ⟨rfl, ?_⟩
      rintro own ⟨⟩ hworlds
      simpa [hworlds] using hworld
    · cases h

theorem player_ok (h : f.player id e = .ok q) :
    q.name = e.name ∧ q.id = e.id.getD id ∧ q.online = e.online ∧
      f.place e = .ok q.location := by
  unfold player at h
  cases hplace : f.place e with
  | error x => rw [hplace] at h; cases h
  | ok l =>
    rw [hplace] at h
    cases hmode : mode e with
    | error x => rw [hmode] at h; cases h
    | ok m => rw [hmode] at h; cases h; exact ⟨rfl, rfl, rfl, rfl⟩

/-! ## All players -/

theorem foldl_addSound (sounds : List String) (p : Platform) :
    (sounds.foldl (fun p s => p.addSound s) p).worlds = p.worlds ∧
      (sounds.foldl (fun p s => p.addSound s) p).players = p.players := by
  induction sounds generalizing p with
  | nil => exact ⟨rfl, rfl⟩
  | cons s sounds ih => exact ih (p.addSound s)

/-- What a simulation is made of: the players, each with its entry, and what is kept of them in
other places. -/
theorem exists_players (h : f.build fresh = .ok sim) :
    ∃ players : List (PlayerEntry × Player),
      List.Forall₂ (fun x p => p.1 = x.1 ∧ f.player (fresh x.2) x.1 = .ok p.2)
        f.players.zipIdx players ∧
      sim.platform.worlds = f.allWorlds ∧ sim.platform.players = players.map Prod.snd ∧
      sim.accounts = (if f.economy then
        some (players.foldl (fun a p => a.setBalance p.2.id p.1.balance) {}) else none) ∧
      sim.senders = Assoc.ofList (players.map fun p => (Text.lower p.1.name, senderOf p.1 p.2)) := by
  unfold build at h
  cases hplayers : f.players? fresh with
  | error x => rw [hplayers] at h; cases h
  | ok players =>
    rw [hplayers] at h
    cases h
    obtain ⟨hworlds, hsame⟩ := foldl_addSound f.sounds
      { worlds := f.allWorlds, players := players.map Prod.snd }
    refine ⟨players, (forall₂_of_mapM hplayers).imp ?_, hworlds, hsame, rfl, rfl⟩
    rintro ⟨e, i⟩ p hp
    simp only at hp
    cases hplayer : f.player (fresh i) e with
    | error x => rw [hplayer] at hp; cases hp
    | ok q => rw [hplayer] at hp; cases hp; exact ⟨rfl, rfl⟩

theorem build_ok (h : f.build fresh = .ok sim) :
    sim.platform.worlds = f.allWorlds ∧
      List.Forall₂ (fun e q => ∃ id, f.player id e = .ok q) f.players sim.platform.players := by
  obtain ⟨players, hplayers, hworlds, hsame, -⟩ := exists_players h
  have hentries : f.players = f.players.zipIdx.map Prod.fst := (List.zipIdx_map_fst ..).symm
  rw [hsame, hentries, List.forall₂_map_left_iff, List.forall₂_map_right_iff]
  exact ⟨hworlds, hplayers.imp fun x p hp => ⟨fresh x.2, hp.2⟩⟩

/-! ## Worlds that exist -/

theorem worldNames_eq (h : f.build fresh = .ok sim) :
    sim.platform.worldNames =
      if f.worlds = [] then ["world"] else f.worlds.map World.name := by
  rw [Platform.worldNames, (build_ok h).1, allWorlds]
  by_cases hworlds : f.worlds = [] <;> simp [hworlds, defaultWorld]

/-- The file names worlds, or it puts the player of the entry into none other than `world`. -/
def IsSettled (f : WorldFile) (e : PlayerEntry) : Prop :=
  f.worlds ≠ [] ∨ ∀ own, e.location = some own → own.world = "world"

theorem origin_world (f : WorldFile) :
    f.origin.world ∈ if f.worlds = [] then ["world"] else f.worlds.map World.name := by
  unfold origin
  cases f.worlds with
  | nil => exact List.mem_singleton_self _
  | cons w ws => exact List.mem_cons_self

theorem hasWorld_iff_isSettled (h : f.build fresh = .ok sim) (hplace : f.place e = .ok l) :
    sim.platform.hasWorld l.world = true ↔ f.IsSettled e := by
  obtain ⟨rfl, hown⟩ := place_ok hplace
  rw [Platform.hasWorld_iff, worldNames_eq h]
  cases hlocation : e.location with
  | none => simp [IsSettled, hlocation, origin_world]
  | some own =>
    -- only a file that names worlds has looked for this one
    by_cases hworlds : f.worlds = []
    · simp [IsSettled, hlocation, hworlds]
    · simpa [IsSettled, hlocation, hworlds] using hown own hlocation hworlds

/-- **Where the players of a simulation are.** Let a simulation be built from a world file. It has a
player for each entry, in order and under the entry's name, online if the entry is, who is at the
place that the entry gives, or else at the origin of the first world. The player's world exists
exactly if the entry is settled, and so the worlds of all players exist exactly if all entries
are. -/
theorem build_settles (h : f.build fresh = .ok sim) :
    List.Forall₂ (fun e q =>
      q.name = e.name ∧ q.online = e.online ∧ q.location = e.location.getD f.origin ∧
        (sim.platform.hasWorld q.location.world = true ↔ f.IsSettled e))
      f.players sim.platform.players ∧
    ((∀ q ∈ sim.platform.players, sim.platform.hasWorld q.location.world = true) ↔
      ∀ e ∈ f.players, f.IsSettled e) := by
  have hplayers := (build_ok h).2
  constructor
  · refine hplayers.imp ?_
    rintro e q ⟨id, hq⟩
    obtain ⟨hname, -, honline, hplace⟩ := player_ok hq
    exact ⟨hname, honline, (place_ok hplace).1, hasWorld_iff_isSettled h hplace⟩
  · refine (forall_mem_iff_of_forall₂ (hplayers.imp ?_)).symm
    rintro e q ⟨id, hq⟩
    obtain ⟨-, -, -, hplace⟩ := player_ok hq
    exact (hasWorld_iff_isSettled h hplace).symm

def wilds (world : String) : WorldFile where
  players :=
    [{ name := "Ada" },
      { name := "Ben", online := false, location := some { world, x := 0, y := 64, z := 0 } }]

theorem wilds_settled :
    ∃ sim, (wilds "world").build (fun _ => default) = .ok sim ∧
      sim.platform.players.map Player.name = ["Ada", "Ben"] ∧
      ∀ q ∈ sim.platform.players, sim.platform.hasWorld q.location.world = true := by
  obtain ⟨sim, hbuild⟩ : ∃ sim, (wilds "world").build (fun _ => default) = .ok sim := ⟨_, rfl⟩
  obtain ⟨-, hall⟩ := build_settles hbuild
  refine ⟨sim, hbuild, ?_, hall.2 ?_⟩
  · cases hbuild
    rfl
  · simp [IsSettled, wilds]

/-- In a file that names no worlds, whoever is put into one other than `world` gets there, though it
does not exist. A file that names `world` is refused. -/
theorem wilds_unsettled :
    (∃ sim, (wilds "nether").build (fun _ => default) = .ok sim ∧
      ∃ q ∈ sim.platform.players, q.name = "Ben" ∧ q.location.world = "nether" ∧
        sim.platform.hasWorld q.location.world = false) ∧
      ∃ e, ({ wilds "nether" with worlds := [defaultWorld] }).build (fun _ => default) = .error e ∧
        e.chain = ["player 'Ben' is in unknown world 'nether'"] := by
  refine ⟨⟨_, rfl, _, List.mem_cons_of_mem _ List.mem_cons_self, ?_⟩, _, rfl, ?_⟩
  · decide +kernel
  · decide +kernel

end WorldFile

end CustomCommands
