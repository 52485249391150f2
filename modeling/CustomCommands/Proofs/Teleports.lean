import CustomCommands.Executor

/-!
# Where teleports lead

A payload is `Destined` to take a player to a place if it names a player online and
either another one, at whose place the first is put, or a position in a world of the
platform. There the player goes, and without a destination nothing happens
(`Executor.teleport_of_destined`, `Executor.teleport_of_undestined`). A player on foot
who would not be safe at a position is put on the ground below or above it, which is
safe because its height is a finite number (`Platform.isSafe_onGround`).
-/

namespace CustomCommands

/-! ## Heights -/

section Heights

open Float.Model UnpackedFloat

/-- A finite number less itself is zero, and that without a minus. -/
theorem Decimal.sub_self_of_isFinite {y : Float} (h : y.isFinite = true) : y - y = 0 := by
  obtain ⟨m⟩ := y
  change m.unpack.isFinite = true at h
  have hzero : UnpackedFloat.sub Format.binary64 m.unpack m.unpack = .zero .positive := by
    cases hm : m.unpack with
    | notANumber => rw [hm] at h; cases h
    | infinity sign => rw [hm] at h; cases h
    | zero sign => cases sign <;> rfl
    | finite sign mantissa exponent =>
      change Float.Model.UnpackedFloat.normalize _ (sign.apply _ - sign.apply _) _ _ = _
      rw [Int.sub_self]
      rfl
  change Float.ofModel (Float.Model.pack (UnpackedFloat.sub _ m.unpack m.unpack)) = 0
  rw [hzero]
  rfl

end Heights

namespace Platform

variable {p : Platform} {l : Location} {who : String}

/-- The ground of every world is at a height that is a finite number. -/
def HasFiniteGrounds (p : Platform) : Prop :=
  ∀ w ∈ p.worlds, w.ground.isFinite = true

theorem HasFiniteGrounds.ground {world : String} {y : Float} (h : p.HasFiniteGrounds)
    (hy : p.ground world = some y) : y.isFinite = true := by
  obtain ⟨w, hw, rfl⟩ := Option.map_eq_some_iff.1 hy
  exact h w (List.mem_of_find?_eq_some hw)

theorem exists_ground (h : l.world ∈ p.worldNames) : ∃ y, p.ground l.world = some y :=
  Option.isSome_iff_exists.1 (hasWorld_iff.2 h)

theorem isSafe_onGround (hfinite : p.HasFiniteGrounds) (h : l.world ∈ p.worldNames) :
    p.isSafe (p.onGround l) = true := by
  obtain ⟨y, hy⟩ := exists_ground h
  have hflat : (y - y).abs < 1 := by
    rw [Decimal.sub_self_of_isFinite (hfinite.ground hy)]
    decide
  simpa [isSafe, onGround, hy] using hflat

theorem isNone_onlinePlayer_iff : (p.onlinePlayer who).isNone = true ↔ who ∉ p.onlineNames := by
  rw [← isSome_onlinePlayer_iff, Option.not_isSome_iff_eq_none, Option.isNone_iff_eq_none]

theorem exists_location_iff : (∃ l, p.location who = some l) ↔ who ∈ p.onlineNames := by
  rw [← isSome_onlinePlayer_iff, ← Option.isSome_iff_exists, location, onlinePlayer,
    Option.isSome_map, Option.isSome_map]

/-- Is the player in a mode in which players may be put anywhere? -/
def Flies (p : Platform) (who : String) : Prop :=
  p.gameMode who = some .creative ∨ p.gameMode who = some .spectator

instance (p : Platform) (who : String) : Decidable (p.Flies who) :=
  inferInstanceAs (Decidable (_ ∨ _))

theorem flies_iff : p.Flies who ↔ (p.gameMode who).any GameMode.ignoresTerrain = true := by
  unfold Flies
  cases p.gameMode who with
  | none => simp
  | some mode => cases mode <;> simp [GameMode.ignoresTerrain]

end Platform

namespace Executor

variable {playerOnly : String} {p : Platform} {s : Sender} {b : Bindings} {data : Value}
  {who who' : String} {l l' place : Location}

/-! ## Landing -/

theorem landing_of_free (h : p.Flies who ∨ p.isSafe place = true) :
    landing p who place = place := by
  unfold landing
  rw [if_pos]
  rwa [Bool.or_eq_true, ← Platform.flies_iff]

theorem landing_of_not_free (h : ¬ (p.Flies who ∨ p.isSafe place = true)) :
    landing p who place = p.onGround place := by
  unfold landing
  rw [if_neg]
  rwa [Bool.or_eq_true, ← Platform.flies_iff]

theorem landing_eq (p : Platform) (who : String) (place : Location) :
    landing p who place = { place with y := (landing p who place).y } := by
  unfold landing
  split <;> rfl

theorem isSafe_landing (hfinite : p.HasFiniteGrounds) (hworld : place.world ∈ p.worldNames)
    (hfoot : ¬ p.Flies who) : p.isSafe (landing p who place) = true := by
  by_cases hsafe : p.isSafe place = true
  · rwa [landing_of_free (.inr hsafe)]
  · rw [landing_of_not_free (not_or.2 ⟨hfoot, hsafe⟩)]
    exact Platform.isSafe_onGround hfinite hworld

/-! ## Destinations -/

/-- The payload gives the position: its coordinates as numbers, with blanks around them, and the
world that it names, or else the one that the player is in. -/
structure Gives (p : Platform) (data : Value) (who : String) (place : Location) : Prop where
  x : (data.getText? "x").bind coordinate? = some place.x
  y : (data.getText? "y").bind coordinate? = some place.y
  z : (data.getText? "z").bind coordinate? = some place.z
  world : (data.getText? "world").or ((p.location who).map Location.world) = some place.world

/-- The player that the payload names is online, and this is where the player is to go. -/
inductive Destined (p : Platform) (data : Value) : String → Location → Prop where
  | toPlayer {who other : String} {l : Location} (target : data.getText? "who" = some who)
      (online : who ∈ p.onlineNames) (named : data.getText? "toPlayer" = some other)
      (there : p.location other = some l) : Destined p data who l
  | toPosition {who : String} {place : Location} (target : data.getText? "who" = some who)
      (online : who ∈ p.onlineNames) (unnamed : data.getText? "toPlayer" = none)
      (gives : Gives p data who place) (world : place.world ∈ p.worldNames) :
      Destined p data who (landing p who place)

theorem Gives.teleportTo (h : Gives p data who place) (hworld : place.world ∈ p.worldNames) :
    ∃ x y z, data.getText? "x" = some x ∧ data.getText? "y" = some y ∧
      data.getText? "z" = some z ∧
      teleportTo p who place.world x y z = moveTo p who (landing p who place) := by
  obtain ⟨x, hx, hx'⟩ := Option.bind_eq_some_iff.1 h.x
  obtain ⟨y, hy, hy'⟩ := Option.bind_eq_some_iff.1 h.y
  obtain ⟨z, hz, hz'⟩ := Option.bind_eq_some_iff.1 h.z
  refine ⟨x, y, z, hx, hy, hz, ?_⟩
  unfold Executor.teleportTo
  simp only [hx', hy', hz']
  rw [if_pos (Platform.hasWorld_iff.2 hworld)]

theorem teleport_of_destined (h : Destined p data who l) : teleport p data = moveTo p who l := by
  unfold teleport
  cases h with
  | toPlayer target online named there =>
    simp only [target, Platform.isNone_onlinePlayer_iff, online, named, there, not_true_eq_false,
      if_false]
  | toPosition target online unnamed gives world =>
    obtain ⟨x, y, z, hx, hy, hz, hmove⟩ := gives.teleportTo world
    simp only [target, Platform.isNone_onlinePlayer_iff, online, unnamed, gives.world, hx, hy, hz,
      hmove, not_true_eq_false, if_false]

/-- Written coordinates lead nowhere unless they are numbers and there is the world. -/
theorem teleportTo_cases (p : Platform) (who world x y z : String) :
    ((teleportTo p who world x y z).effects = [] ∧ (teleportTo p who world x y z).platform = p) ∨
      ∃ place : Location, place.world = world ∧ world ∈ p.worldNames ∧
        coordinate? x = some place.x ∧ coordinate? y = some place.y ∧
        coordinate? z = some place.z := by
  unfold teleportTo
  split
  · rename_i vx vy vz hx hy hz
    split
    · rename_i hworld
      exact .inr ⟨{ world, x := vx, y := vy, z := vz }, rfl, Platform.hasWorld_iff.1 hworld,
        hx, hy, hz⟩
    · exact .inl ⟨rfl, rfl⟩
  · exact .inl ⟨rfl, rfl⟩

theorem teleport_of_undestined (h : ∀ who l, ¬ Destined p data who l) :
    (teleport p data).effects = [] ∧ (teleport p data).platform = p := by
  unfold teleport
  cases target : data.getText? "who" with
  | none => exact ⟨rfl, rfl⟩
  | some who =>
    by_cases online : who ∈ p.onlineNames
    · simp only [Platform.isNone_onlinePlayer_iff, online, not_true_eq_false, if_false]
      cases named : data.getText? "toPlayer" with
      | some other =>
        cases there : p.location other with
        | none =>
          simp only [there]
          exact ⟨rfl, rfl⟩
        | some l => exact absurd (.toPlayer target online named there) (h who l)
      | none =>
        dsimp only
        split
        · rename_i world x y z hworld hx hy hz
          rcases teleportTo_cases p who world x y z with hstill | ⟨place, rfl, hin, hx', hy', hz'⟩
          · exact hstill
          · have gives : Gives p data who place :=
              ⟨by simp [hx, hx'], by simp [hy, hy'], by simp [hz, hz'], hworld⟩
            exact absurd (.toPosition target online named gives hin) (h who _)
        · exact ⟨rfl, rfl⟩
    · simp only [Platform.isNone_onlinePlayer_iff, online, not_false_eq_true, if_true]
      exact ⟨rfl, rfl⟩

theorem exists_destined_iff :
    (∃ who l, Destined p data who l) ↔
      ∃ who, data.getText? "who" = some who ∧ who ∈ p.onlineNames ∧
        ((∃ other, data.getText? "toPlayer" = some other ∧ other ∈ p.onlineNames) ∨
          data.getText? "toPlayer" = none ∧
            ∃ place, Gives p data who place ∧ place.world ∈ p.worldNames) := by
  constructor
  · rintro ⟨who, l, h⟩
    cases h with
    | toPlayer target online named there =>
      exact ⟨who, target, online, .inl ⟨_, named, Platform.exists_location_iff.1 ⟨l, there⟩⟩⟩
    | toPosition target online unnamed gives world =>
      exact ⟨who, target, online, .inr ⟨unnamed, _, gives, world⟩⟩
  · rintro ⟨who, target, online, ⟨other, named, hother⟩ | ⟨unnamed, place, gives, world⟩⟩
    · obtain ⟨l, there⟩ := Platform.exists_location_iff.2 hother
      exact ⟨who, l, .toPlayer target online named there⟩
    · exact ⟨who, _, .toPosition target online unnamed gives world⟩

theorem Destined.target (h : Destined p data who l) : data.getText? "who" = some who := by
  cases h with
  | toPlayer target _ _ _ => exact target
  | toPosition target _ _ _ _ => exact target

theorem Destined.there {other : String} (h : Destined p data who l)
    (hnamed : data.getText? "toPlayer" = some other) : p.location other = some l := by
  cases h with
  | toPlayer _ _ named there =>
    obtain rfl := Option.some.inj (hnamed.symm.trans named)
    exact there
  | toPosition _ _ unnamed _ _ => rw [unnamed] at hnamed; cases hnamed

/-- A payload without a player to go to puts the player at the height that it gives, unless the
player is on foot and would not be safe there. -/
theorem Destined.position (hfinite : p.HasFiniteGrounds) (h : Destined p data who l)
    (hunnamed : data.getText? "toPlayer" = none) :
    ∃ place, Gives p data who place ∧ l = { place with y := l.y } ∧
      (p.Flies who ∨ p.isSafe place = true → l.y = place.y) ∧
      (¬ (p.Flies who ∨ p.isSafe place = true) → l.y = (p.onGround place).y) ∧
      (¬ p.Flies who → p.isSafe l = true) := by
  cases h with
  | toPlayer _ _ named _ => rw [hunnamed] at named; cases named
  | @toPosition place _ _ _ gives world =>
    refine ⟨place, gives, landing_eq p who place, ?_, ?_, ?_⟩
    · intro hfree
      rw [landing_of_free hfree]
    · intro hunsafe
      rw [landing_of_not_free hunsafe]
    · exact isSafe_landing hfinite world

theorem runEntry_teleport {name : String} (hname : ActionKind.ofName? name = some .teleport)
    (entries : List (String × Value)) :
    (runEntry playerOnly p s b (name, .map entries)).2 =
      teleport p (b.substitute (.map entries)) := by
  unfold runEntry
  rw [hname]
  rfl

/-- **Teleports do what their payload says.** Let the heights of all worlds be finite numbers, and
`data` the mapping of a teleport with the bound texts put in. Then

* there is no effect, and the platform stays as it is, or a single teleport, and the platform is as
  that leaves it;
* there is one exactly if `who` is the name of a player online and either `toPlayer` is one too, or
  `toPlayer` is no text and the mapping gives a position in a world of the platform;
* it leads to the place of the player named by `toPlayer`, or to the position, at the height given
  if the player is in creative or spectator mode or would be safe there, and otherwise on the ground
  there; so every other player who is sent to a position is safe. -/
theorem teleport_decided (hfinite : p.HasFiniteGrounds) (playerOnly : String) (s : Sender)
    (b : Bindings) {name : String} (hname : ActionKind.ofName? name = some .teleport)
    (entries : List (String × Value)) :
    let data := b.substitute (.map entries)
    let done := (runEntry playerOnly p s b (name, .map entries)).2
    (done.effects = [] ∧ done.platform = p ∨
      ∃ who l, done.effects = [.teleport who l] ∧ done.platform = p.teleport who l) ∧
    (done.effects ≠ [] ↔
      ∃ who, data.getText? "who" = some who ∧ who ∈ p.onlineNames ∧
        ((∃ other, data.getText? "toPlayer" = some other ∧ other ∈ p.onlineNames) ∨
          data.getText? "toPlayer" = none ∧
            ∃ place, Gives p data who place ∧ place.world ∈ p.worldNames)) ∧
    ∀ who l, done.effects = [.teleport who l] →
      data.getText? "who" = some who ∧
      (∀ other, data.getText? "toPlayer" = some other → p.location other = some l) ∧
      (data.getText? "toPlayer" = none →
        ∃ place, Gives p data who place ∧ l = { place with y := l.y } ∧
          (p.Flies who ∨ p.isSafe place = true → l.y = place.y) ∧
          (¬ (p.Flies who ∨ p.isSafe place = true) → l.y = (p.onGround place).y) ∧
          (¬ p.Flies who → p.isSafe l = true)) := by
  intro data done
  have hdone : done = teleport p data := runEntry_teleport hname entries
  rw [hdone]
  by_cases h : ∃ who l, Destined p data who l
  · have hasked := exists_destined_iff.1 h
    obtain ⟨who, l, h⟩ := h
    rw [teleport_of_destined h]
    refine ⟨.inr ⟨who, l, rfl, rfl⟩, iff_of_true (List.cons_ne_nil _ _) hasked, ?_⟩
    intro who' l' hto
    obtain ⟨rfl, rfl⟩ : who = who' ∧ l = l' := by simpa [moveTo] using hto
    exact ⟨h.target, fun other => h.there, h.position hfinite⟩
  · have hasked := mt exists_destined_iff.2 h
    obtain ⟨heffects, hplatform⟩ := teleport_of_undestined fun who l hto => h ⟨who, l, hto⟩
    refine ⟨.inl ⟨heffects, hplatform⟩, iff_of_false (absurd heffects) hasked, ?_⟩
    intro who l hto
    rw [heffects] at hto
    cases hto

def hills : Platform where
  players :=
    [{ name := "Ana", id := ⟨1⟩, location := { world := "hills", x := 0, y := 64, z := 0 } }]
  worlds := [{ name := "hills", ground := 64 }]

def leap : List (String × Value) :=
  [("who", .text "[name]"), ("x", .text " 10"), ("y", .text "200.5"), ("z", .text "-3.5")]

/-- Who is sent into the air comes to stand on the ground. -/
theorem leap_lands_safely :
    let b : Bindings := ⟨[("[name]", "Ana")], List.pairwise_singleton _ _⟩
    hills.HasFiniteGrounds ∧ ActionKind.ofName? "Teleport" = some .teleport ∧
      ∃ l, (runEntry "" hills .console b ("Teleport", .map leap)).2.effects =
          [.teleport "Ana" l] ∧ hills.isSafe l = true := by
  intro b
  have hfinite : hills.HasFiniteGrounds := by
    intro w hw
    obtain rfl := List.mem_singleton.1 hw
    decide
  have hname : ActionKind.ofName? "Teleport" = some .teleport := by decide +kernel
  obtain ⟨hone, hasked, hleads⟩ := teleport_decided hfinite "" .console b hname leap
  have hwho : (b.substitute (.map leap)).getText? "who" = some "Ana" := by decide +kernel
  have hunnamed : (b.substitute (.map leap)).getText? "toPlayer" = none := by decide +kernel
  have gives : Gives hills (b.substitute (.map leap)) "Ana"
      { world := "hills", x := 10, y := 200.5, z := -3.5 } :=
    ⟨by decide +kernel, by decide +kernel, by decide +kernel, by decide +kernel⟩
  have hgone := hasked.2
    ⟨"Ana", hwho, by decide +kernel, .inr ⟨hunnamed, _, gives, by decide +kernel⟩⟩
  rcases hone with ⟨hstill, -⟩ | ⟨who, l, hto, -⟩
  · exact absurd hstill hgone
  obtain ⟨hwho', -, hposition⟩ := hleads who l hto
  obtain rfl := Option.some.inj (hwho.symm.trans hwho')
  obtain ⟨_, -, -, -, -, hsafe⟩ := hposition hunnamed
  exact ⟨hfinite, hname, l, hto, hsafe (by decide)⟩

end Executor

end CustomCommands
