import CustomCommands.Proofs.Residents

/-!
# How the players of a world file are addressed

Players are looked up by their names in any letter case, after the word `console`, and balances by
identifier. Of entries that share a name or an identifier the last one counts
(`Assoc.get?_ofList_of_last`). So an entry is addressed as itself if it is the last of its name
(`WorldFile.sender_of_last`), and has a balance of its own if it is the last of its identifier
(`WorldFile.balance_of_last`).
-/

namespace CustomCommands

/-- A list that goes with one that is cut is cut at the same place. -/
theorem exists_cut_of_forall₂ {α β : Type} {R : α → β → Prop} {before after : List α} {a : α}
    {bs : List β} (h : List.Forall₂ R (before ++ a :: after) bs) :
    ∃ front b back, bs = front ++ b :: back ∧ front.length = before.length ∧ R a b ∧
      List.Forall₂ R after back := by
  induction before generalizing bs with
  | nil =>
    cases h with
    | cons hab hrest => exact ⟨[], _, _, rfl, rfl, hab, hrest⟩
  | cons x before ih =>
    cases h with
    | @cons _ y _ _ _ hrest =>
      obtain ⟨front, b, back, rfl, hlength, hab, hback⟩ := ih hrest
      exact ⟨y :: front, b, back, rfl, congrArg Nat.succ hlength, hab, hback⟩

theorem exists_mem_of_forall₂ {α β : Type} {R : α → β → Prop} {as : List α} {bs : List β} {b : β}
    (h : List.Forall₂ R as bs) (hb : b ∈ bs) : ∃ a ∈ as, R a b := by
  induction h with
  | nil => cases hb
  | cons hab _ ih =>
    rcases List.mem_cons.1 hb with rfl | hb
    · exact ⟨_, List.mem_cons_self, hab⟩
    · obtain ⟨a, ha, hR⟩ := ih hb
      exact ⟨a, List.mem_cons_of_mem _ ha, hR⟩

namespace WorldFile

variable {f : WorldFile} {fresh : Nat → Uuid} {sim : Simulation} {e : PlayerEntry} {q : Player}
  {before after : List PlayerEntry} {players front back : List (PlayerEntry × Player)}

/-! ## Identifiers -/

/-- The identifiers at hand for the players of a file are all different, and the file gives none of
them. -/
structure Fresh (f : WorldFile) (fresh : Nat → Uuid) : Prop where
  distinct : ∀ j < f.players.length, ∀ i < j, fresh i ≠ fresh j
  unused : ∀ i < f.players.length, ∀ x ∈ f.players, x.id ≠ some (fresh i)

/-- Two players have different identifiers unless both are given the same. -/
theorem Fresh.ne (h : f.Fresh fresh) {x : PlayerEntry} {i j : Nat} (he : e ∈ f.players)
    (hx : x ∈ f.players) (hij : i < j) (hj : j < f.players.length)
    (hgiven : ∀ own, e.id = some own → x.id ≠ some own) :
    x.id.getD (fresh j) ≠ e.id.getD (fresh i) := by
  intro heq
  cases hid : e.id with
  | some own =>
    cases hid' : x.id with
    | some own' => exact hgiven own hid (by simpa [hid, hid'] using heq)
    | none => exact h.unused j hj e he (by simpa [hid, hid'] using heq.symm)
  | none =>
    cases hid' : x.id with
    | some own' => exact h.unused i (Nat.lt_trans hij hj) x hx (by simpa [hid, hid'] using heq)
    | none => exact h.distinct j hj i hij (by simpa [hid, hid'] using heq.symm)

/-! ## The entries of a simulation -/

/-- The player of an entry stands among the players where the entry stands in the file, and what
comes after it are the players of the entries that come after. -/
theorem exists_player_of_entry
    (h : List.Forall₂ (fun x p => p.1 = x.1 ∧ f.player (fresh x.2) x.1 = .ok p.2)
      f.players.zipIdx players) (hplayers : f.players = before ++ e :: after) :
    ∃ front q back, players = front ++ (e, q) :: back ∧ front.length = before.length ∧
      f.player (fresh before.length) e = .ok q ∧
      ∀ p ∈ back, p.1 ∈ after ∧
        ∃ i, before.length < i ∧ i < f.players.length ∧ f.player (fresh i) p.1 = .ok p.2 := by
  have hcount : f.players.length = before.length + 1 + after.length := by
    rw [hplayers, List.length_append, List.length_cons, Nat.add_right_comm, Nat.add_assoc]
  rw [hplayers, List.zipIdx_append, List.zipIdx_cons, Nat.zero_add] at h
  obtain ⟨front, ⟨e', q⟩, back, rfl, hlength, ⟨rfl, hq⟩, hback⟩ := exists_cut_of_forall₂ h
  rw [List.length_zipIdx] at hlength
  refine ⟨front, q, back, rfl, hlength, hq, fun p hp => ?_⟩
  obtain ⟨⟨x, i⟩, hx, heq, hplayer⟩ := exists_mem_of_forall₂ hback hp
  simp only at heq hplayer
  rw [← heq] at hx hplayer
  exact ⟨List.fst_mem_of_mem_zipIdx hx, i, List.le_snd_of_mem_zipIdx hx,
    hcount ▸ List.snd_lt_add_of_mem_zipIdx hx, hplayer⟩

theorem sender_of_last
    (hsenders : sim.senders = Assoc.ofList
      ((front ++ (e, q) :: back).map fun p => (Text.lower p.1.name, senderOf p.1 p.2)))
    (hlast : ∀ p ∈ back, Text.lower p.1.name ≠ Text.lower e.name) :
    sim.player? e.name = some (senderOf e q) := by
  rw [Simulation.player?, hsenders]
  exact Assoc.get?_ofList_of_last (a := (e, q))
    (fun p : PlayerEntry × Player => Text.lower p.1.name) (fun p => senderOf p.1 p.2) hlast

theorem balances_foldl_setBalance (players : List (PlayerEntry × Player)) (a : Accounts Float) :
    (players.foldl (fun a p => a.setBalance p.2.id p.1.balance) a).balances =
      (players.map fun p => (p.2.id, p.1.balance)).foldl (fun m (k, v) => Assoc.insert k v m)
        a.balances := by
  induction players generalizing a with
  | nil => rfl
  | cons p players ih => rw [List.foldl_cons, ih, List.map_cons, List.foldl_cons]; rfl

theorem balance_of_last (hlast : ∀ p ∈ back, p.2.id ≠ q.id) :
    ((front ++ (e, q) :: back).foldl (fun a p => a.setBalance p.2.id p.1.balance)
      ({} : Accounts Float)).balance q.id = e.balance := by
  have hfound : Assoc.get? q.id (Assoc.ofList
      ((front ++ (e, q) :: back).map fun p => (p.2.id, p.1.balance))) = some e.balance :=
    Assoc.get?_ofList_of_last (a := (e, q)) (fun p : PlayerEntry × Player => p.2.id)
      (fun p => p.1.balance) hlast
  rw [Accounts.balance, balances_foldl_setBalance]
  exact congrArg (Option.getD · _) hfound

/-! ## Addressing -/

/-- **How the players of a world file are addressed.** Let a simulation be built from a world file,
and let an entry's name not come again, in any letter case, in a later entry. Then there is a player
of the name where the entry stands, with the identifier that the entry gives, if it gives one.
Unless the name is `console` in any letter case, it finds a sender who is this player, under the
name as it is written, with the entry's permissions and no others. Whatever the name, if there is a
ledger and no later entry gives the same identifier, where those at hand are fresh, the name's
balance is that of the entry. -/
theorem declared_addressable (hbuild : f.build fresh = .ok sim)
    (hplayers : f.players = before ++ e :: after)
    (hname : ∀ x ∈ after, Text.lower x.name ≠ Text.lower e.name) :
    ∃ q, sim.platform.players[before.length]? = some q ∧ q.name = e.name ∧
      (∀ own, e.id = some own → q.id = own) ∧
      (Text.sameIgnoringCase e.name "console" = false →
        ∃ s, sim.sender? e.name = some s ∧ s.isPlayer = true ∧ s.name = e.name ∧
          s.id = some q.id ∧
          ∀ permission, s.has permission = true ↔ permission ∈ e.permissions) ∧
      (f.economy = true → f.Fresh fresh →
        (∀ own, e.id = some own → ∀ x ∈ after, x.id ≠ some own) →
        sim.balance e.name = some e.balance) := by
  obtain ⟨players, hpairs, -, hthere, haccounts, hsenders⟩ := exists_players hbuild
  obtain ⟨front, q, back, rfl, hlength, hq, hback⟩ := exists_player_of_entry hpairs hplayers
  obtain ⟨hsame, hid, -⟩ := player_ok hq
  have hfound : sim.player? e.name = some (senderOf e q) :=
    sender_of_last hsenders fun p hp => hname p.1 (hback p hp).1
  refine ⟨q, ?_, hsame, ?_, fun hword => ⟨senderOf e q, ?_, rfl, rfl, rfl, ?_⟩, ?_⟩
  · rw [hthere, List.map_append, List.getElem?_append_right (by simp [hlength])]
    simp [hlength]
  · intro own hown
    rw [hid, hown, Option.getD_some]
  · rw [Simulation.sender?, hword, hfound]
    rfl
  · intro permission
    simp [Sender.has, senderOf]
  · intro heconomy hfresh hgiven
    have hlast : ∀ p ∈ back, p.2.id ≠ q.id := by
      intro p hp
      obtain ⟨hmem, i, hi, hcount, hplayer⟩ := hback p hp
      rw [(player_ok hplayer).2.1, hid]
      refine hfresh.ne (by simp [hplayers]) (by simp [hplayers, hmem]) hi hcount ?_
      exact fun own hown => hgiven own hown p.1 hmem
    rw [Simulation.balance, Simulation.balanceIn, hfound, haccounts, heconomy]
    exact congrArg some (balance_of_last hlast)

/-- Two players whose names differ in their letters' case, and one without an identifier. -/
def harbour : WorldFile where
  players :=
    [{ name := "ada", id := some ⟨1⟩, balance := 5, permissions := ["dock"] },
      { name := "Ada", id := some ⟨2⟩, balance := 7, permissions := ["sail", "fish"] },
      { name := "Ben", balance := 9 }]

/-- The last one of the name is addressed as itself. -/
theorem harbour_addressed :
    ∃ sim s, harbour.build (fun i => .ofRandom (Nat.pow 2 100 + i)) = .ok sim ∧
      sim.sender? "Ada" = some s ∧ s.name = "Ada" ∧ s.id = some ⟨2⟩ ∧ s.has "fish" = true ∧
      s.has "dock" = false ∧ sim.balance "Ada" = some 7 := by
  obtain ⟨sim, hbuild⟩ : ∃ sim, harbour.build (fun i => .ofRandom (Nat.pow 2 100 + i)) = .ok sim :=
    ⟨_, rfl⟩
  have hfresh : harbour.Fresh fun i => .ofRandom (Nat.pow 2 100 + i) :=
    ⟨by decide +kernel, by decide +kernel⟩
  have hplayers : harbour.players = harbour.players.take 1 ++ _ :: harbour.players.drop 2 := rfl
  obtain ⟨q, -, -, hid, hsender, hbalance⟩ :=
    declared_addressable hbuild hplayers (by decide +kernel)
  obtain ⟨s, hs, -, hname, hsame, hhas⟩ := hsender (by decide +kernel)
  refine ⟨sim, s, hbuild, hs, hname, ?_, (hhas "fish").2 (by decide), ?_, ?_⟩
  · rw [hsame, hid ⟨2⟩ rfl]
  · rw [Bool.eq_false_iff, Ne, hhas]
    decide
  · exact hbalance rfl hfresh (by decide)

/-- A player who has the word for the console as a name, two whose names differ in their letters'
case, and two of one identifier. -/
def crowd : WorldFile where
  players :=
    [{ name := "Console", id := some ⟨1⟩, permissions := ["dock"] },
      { name := "Ada", id := some ⟨2⟩, balance := 5, permissions := ["sail"] },
      { name := "ada", id := some ⟨3⟩, balance := 7 },
      { name := "Ben", id := some ⟨4⟩, balance := 1 },
      { name := "Cyd", id := some ⟨4⟩, balance := 2 }]

/-- The file is accepted. `Console` is taken for the console, `Ada` for the other player of the
name, and the balance of `Ben` is that of `Cyd`. -/
theorem crowd_mistaken :
    ∃ sim, crowd.build (fun _ => default) = .ok sim ∧
      (sim.sender? "Console").map Sender.isPlayer = some false ∧
      (sim.sender? "Ada").map (fun s => (s.name, s.id, s.has "sail")) =
        some ("ada", some ⟨3⟩, false) ∧
      sim.balance "Ada" = some 7 ∧ sim.balance "Ben" = some 2 := by
  have hlower : Text.asciiLower "Console" = "console" := by decide +kernel
  have hword : Text.sameIgnoringCase "Console" "console" = true := by
    rw [Text.sameIgnoringCase, hlower]
    decide +kernel
  refine ⟨_, rfl, ?_, by decide +kernel, by decide +kernel, by decide +kernel⟩
  rw [Simulation.sender?, hword]
  rfl

end WorldFile

end CustomCommands
