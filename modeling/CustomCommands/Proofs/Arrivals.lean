import CustomCommands.Proofs.Census

/-!
# Where a teleport is seen

A teleport moves the first player of a name, and whoever asks for the place of a name is told of
the first one who is online. The two are the same player unless somebody of the name who is not
online comes before (`Platform.First.onlineNamed`, `Platform.First.onlineNamed_teleport`), and
then nobody sees the teleport. Who is online, and in which mode, is as it was in any case.
-/

namespace CustomCommands.Platform

variable {p : Platform} {name who : String} {q : Player} {before rest : List Player}

/-! ## The first of a name -/

/-- `q` is the first of its name among the players, with others in front of it and behind. -/
structure First (p : Platform) (before : List Player) (q : Player) (rest : List Player) : Prop where
  players : p.players = before ++ q :: rest
  others : ∀ x ∈ before, x.name ≠ q.name

theorem exists_first (h : p.player who = some q) :
    q.name = who ∧ ∃ before rest, p.First before q rest := by
  obtain ⟨hname, before, rest, hplayers, hothers⟩ := List.find?_eq_some_iff_append.1 h
  obtain rfl := eq_of_beq hname
  exact ⟨rfl, before, rest, hplayers, fun x hx => by simpa using hothers x hx⟩

theorem exists_player (h : (p.onlinePlayer who).isSome) : ∃ q, p.player who = some q := by
  obtain ⟨x, hx⟩ := Option.isSome_iff_exists.1 (Option.isSome_map.symm.trans h)
  have hfound := List.find?_some (p := fun x : Player => x.online && x.name == who) hx
  exact Option.isSome_iff_exists.1
    (List.find?_isSome.2 ⟨x, List.mem_of_find?_eq_some hx, (Bool.and_eq_true_iff.1 hfound).2⟩)

theorem updateFirst_append (change : Player → Player) (hothers : ∀ x ∈ before, x.name ≠ q.name) :
    updateFirst q.name change (before ++ q :: rest) = before ++ change q :: rest := by
  induction before with
  | nil => rw [List.nil_append, updateFirst, if_pos (beq_self_eq_true _)]; rfl
  | cons x before ih =>
    obtain ⟨hx, hothers⟩ := List.forall_mem_cons.1 hothers
    rw [List.cons_append, updateFirst, if_neg (by simpa using hx), ih hothers, List.cons_append]

theorem First.teleport (h : p.First before q rest) (l : Location) :
    (p.teleport q.name l).First before { q with location := l } rest := by
  refine ⟨?_, h.others⟩
  rw [Platform.teleport, h.players]
  exact updateFirst_append _ h.others

/-! ## Who is asked for -/

/-- If the first of the name is online, it is who is asked for. -/
theorem First.onlineNamed (h : p.First before q rest) (honline : q.online = true) :
    p.onlineNamed q.name = some q := by
  have hnone : before.find? (fun x => x.online && x.name == q.name) = none :=
    List.find?_eq_none.2 fun x hx => by simp [h.others x hx]
  rw [Platform.onlineNamed, h.players, List.find?_append, hnone, Option.none_or,
    List.find?_cons_of_pos (by simp [honline])]

/-- If it is not, or another name is asked for, the teleport makes no difference. -/
theorem First.onlineNamed_teleport (h : p.First before q rest)
    (hnot : q.online = false ∨ q.name ≠ name) (l : Location) :
    (p.teleport q.name l).onlineNamed name = p.onlineNamed name := by
  have hmiss : (q.online && q.name == name) = false := by
    rw [Bool.and_eq_false_iff]
    exact hnot.imp_right beq_false_of_ne
  have hskip (x : Player) (hx : (x.online && x.name == name) = false) :
      (before ++ x :: rest).find? (fun x => x.online && x.name == name) =
        (before ++ rest).find? fun x => x.online && x.name == name := by
    rw [List.find?_append, List.find?_append, List.find?_cons_of_neg (by simp [hx])]
  rw [Platform.onlineNamed, Platform.onlineNamed, (h.teleport l).players, h.players, hskip q hmiss,
    hskip { q with location := l } hmiss]

theorem First.gameMode_teleport (h : p.First before q rest) (name : String) (l : Location) :
    (p.teleport q.name l).gameMode name = p.gameMode name := by
  rw [gameMode, gameMode]
  by_cases hnot : q.online = false ∨ q.name ≠ name
  · rw [h.onlineNamed_teleport hnot]
  · obtain ⟨honline, rfl⟩ : q.online = true ∧ q.name = name := by simpa using hnot
    have hmoved : (p.teleport q.name l).onlineNamed q.name = some { q with location := l } :=
      (h.teleport l).onlineNamed honline
    rw [hmoved, h.onlineNamed honline]
    rfl

theorem onlineNames_eq (p : Platform) :
    p.onlineNames = (p.census.players.filter Registration.online).map Registration.name := by
  unfold onlineNames census
  rw [List.filter_map, List.map_map]
  rfl

/-! ## What is seen -/

/-- **Where a teleport is seen.** Let a player of a name be online, and somebody of that name be
teleported. The names online are as they were, and who is online of every name, and in which mode;
and all other names are where they were. The player that the teleport moves is the first of the
name, and every other player is where it was. If the first one is online, it is who is asked for,
and the name is now at the place of the teleport. If not, the name is where it was. -/
theorem teleport_seen (p : Platform) (who : String) (l : Location)
    (hwho : (p.onlinePlayer who).isSome) :
    let after := p.teleport who l
    after.onlineNames = p.onlineNames ∧
    (∀ name, after.onlinePlayer name = p.onlinePlayer name ∧
      after.gameMode name = p.gameMode name ∧
      (name ≠ who → after.location name = p.location name)) ∧
    ∃ q, p.player who = some q ∧
      (∃ before rest, (∀ x ∈ before, x.name ≠ who) ∧ p.players = before ++ q :: rest ∧
        after.players = before ++ { q with location := l } :: rest) ∧
      (q.online = true → p.onlineNamed who = some q ∧ after.location who = some l) ∧
      (q.online = false → after.location who = p.location who) := by
  obtain ⟨q, hq⟩ := exists_player hwho
  obtain ⟨rfl, before, rest, hfirst⟩ := exists_first hq
  intro after
  refine ⟨?_, fun name => ⟨?_, hfirst.gameMode_teleport name l, fun hne => ?_⟩, q, hq,
    ⟨before, rest, hfirst.others, hfirst.players, (hfirst.teleport l).players⟩,
    fun honline => ⟨hfirst.onlineNamed honline, ?_⟩, fun hoffline => ?_⟩
  · rw [onlineNames_eq, census_teleport, ← onlineNames_eq]
  · rw [onlinePlayer_eq, census_teleport, ← onlinePlayer_eq]
  · rw [location, hfirst.onlineNamed_teleport (.inr hne.symm), ← location]
  · have hmoved : after.onlineNamed q.name = some { q with location := l } :=
      (hfirst.teleport l).onlineNamed honline
    rw [location, hmoved, Option.map_some]
  · rw [location, hfirst.onlineNamed_teleport (.inl hoffline), ← location]

def namesakes (online : Bool) : Platform where
  players :=
    [{ name := "Ada", id := ⟨1⟩, online, location := { world := "world", x := 0, y := 64, z := 0 } },
      { name := "Ada", id := ⟨2⟩, location := { world := "nether", x := 1, y := 32, z := 1 } }]

def summit : Location :=
  { world := "hills", x := 5, y := 90, z := 7 }

/-- The first of two players online is moved, and seen where it was moved to. -/
theorem namesakes_seen :
    ((namesakes true).onlinePlayer "Ada").isSome ∧
      ((namesakes true).teleport "Ada" summit).location "Ada" = some summit := by
  have hwho : ((namesakes true).onlinePlayer "Ada").isSome := by decide
  obtain ⟨-, -, q, hq, -, hseen, -⟩ := teleport_seen (namesakes true) "Ada" summit hwho
  have honline : q.online = true := by
    obtain rfl : _ = q := Option.some.inj hq
    rfl
  exact ⟨hwho, (hseen honline).2⟩

/-- Where the first is not online, it is moved all the same, and the one who is online is seen
where it was. -/
theorem namesakes_unseen :
    let after := (namesakes false).teleport "Ada" summit
    (namesakes false).onlinePlayer "Ada" = some ⟨2⟩ ∧
      after.location "Ada" = (namesakes false).location "Ada" ∧
      (after.location "Ada").map Location.world = some "nether" ∧
      (after.player "Ada").map Player.location = some summit := by
  refine ⟨by decide, rfl, by decide, rfl⟩

end CustomCommands.Platform
