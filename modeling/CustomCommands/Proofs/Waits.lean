import CustomCommands.Proofs.CooldownGate

/-!
# Waits outlast loads

A load replaces every command, and the cooldowns stay. `Standing` says of a
history that a wait which is not over was set last: no call of the same name goes
through before its end, so nothing can have renewed it. Every operation keeps
this (`standing_step`), and so a player has to wait exactly while any earlier
call of a command of this name makes him (`waits_outlast_loads`).

Cooldowns go by the name as it is spelled, and labels do not: a command that
comes back from a load in other letters is the same one to all who call it, and
none of its waits is left (`respelled_forgets`).
-/

namespace CustomCommands

/-- A wait that is not over was set by the last call that makes the player wait. -/
def Success.Standing (history : List Success) (now : Nat) : Prop :=
  ∀ command actor, ∀ x ∈ history, x.Delays command actor → now < x.expiry →
    lastWait? command actor history = some x

theorem Success.Standing.later {history : List Success} {before now : Nat}
    (h : Standing history before) (hle : before ≤ now) : Standing history now :=
  fun command actor x hx hdelays hlt => h command actor x hx hdelays (Nat.lt_of_le_of_lt hle hlt)

theorem Success.of_lastWait? {command : String} {actor : Uuid} {history : List Success}
    {x : Success} (h : lastWait? command actor history = some x) :
    x ∈ history ∧ x.Delays command actor := by
  unfold lastWait? at h
  exact ⟨List.mem_reverse.1 (List.mem_of_find?_eq_some h), by simpa using List.find?_some h⟩

namespace Dispatcher

variable {N : Type} [Currency N]

/-! ## Calls that set a wait -/

theorem isSome_cooldown {c : Command} (h : 1000 * c.cooldownSeconds ≠ 0) : c.cooldown.isSome := by
  cases hc : c.cooldown with
  | some text => rfl
  | none => simp [Command.cooldownSeconds, hc] at h

/-- A call that makes its player wait went through when no wait was left. -/
theorem not_active_of_success {now : Nat} {d : Dispatcher N} {op : Operation N} {x : Success}
    (h : d.success? now op = some x) (hset : x.cooldown ≠ 0) :
    d.cooldowns.isActive x.command x.actor now = false := by
  unfold success? at h
  split at h
  case h_3 => cases h
  all_goals
    split at h
    case h_2 => cases h
    case h_1 hs hc hok =>
      cases h
      obtain ⟨c', r, hc', -, ha, -⟩ := dispatch_ok hok
      cases hc.symm.trans hc'
      rcases allow_ok ha with ⟨hnone, -⟩ | ⟨actor', ledger, hs', hw, -⟩
      · cases hs.symm.trans hnone
      · cases hs.symm.trans hs'
        rw [mustWait, isSome_cooldown hset, Bool.true_and] at hw
        exact hw

/-! ## The invariant -/

theorem standing_step {history : List Success} {before now : Nat} {d : Dispatcher N}
    (h : Tracks history before d) (hstanding : Success.Standing history before)
    (hle : before ≤ now) (op : Operation N) :
    Success.Standing (history ++ (d.success? now op).toList) now := by
  intro command actor x hx hdelays hlive
  rw [Success.lastWait?_append]
  rcases List.mem_append.1 hx with hx | hx
  · have hlast := hstanding command actor x hx hdelays (by omega)
    have hactive : d.cooldowns.isActive command actor now = true := by
      have hkept := h.kept command actor x hlast (by omega)
      simp only [Cooldowns.isActive, hkept, Option.any_some, decide_eq_true_eq]
      exact hlive
    -- A call of the same player and name would have been rejected.
    have hnone : (d.success? now op).filter (Success.Delays command actor) = none := by
      refine Option.filter_eq_none_iff.2 fun y hy hdelays' => ?_
      obtain ⟨hset, rfl, rfl⟩ := of_decide_eq_true hdelays'
      rw [not_active_of_success hy hset] at hactive
      cases hactive
    rw [hnone, Option.none_or, hlast]
  · rw [Option.mem_toList.1 hx, Option.filter_some, if_pos (decide_eq_true hdelays), Option.some_or]

/-! ## Loads in between -/

/-- **Waits outlast loads.** Take any run, with readings of the clock that never decrease, from a
dispatcher without cooldowns and without tasks. A player who then calls a command with a cooldown
by a path that matches is told to wait exactly if any of the player's calls in the run, of a
command whose name was spelled the same, set a cooldown that is not over, whatever was loaded
since. Calls of a name in other letters do not count, though labels find it in any. -/
theorem waits_outlast_loads (r : UnitReaders) (first : Dispatcher N)
    (hw : first.cooldowns.commands = []) (hq : first.queue.items = []) (past : Run N) (now : Nat)
    (s : Sender) (actor : Uuid) (label : String) (args : List String) (c : Command)
    (found : Resolution) (ho : Run.InOrder (past ++ [(now, .dispatch s label args)]))
    (hs : s.id = some actor) (hc : (first.run r past).command? label = some c)
    (hm : (c.tree.matchPath s (first.run r past).identity args).value = .resolved found)
    (hcooldown : c.cooldown.isSome) :
    ((first.run r past).dispatch now s label args).value = .error .onCooldown ↔
      ∃ x ∈ first.successes r past, x.cooldown ≠ 0 ∧ x.command = c.name ∧ x.actor = actor ∧
        now < x.instant + min x.cooldown Cooldowns.maxDuration := by
  obtain ⟨htracks, hstanding⟩ := past_induction r
    (P := fun history now d => Tracks history now d ∧ Success.Standing history now)
    (fun _ _ _ _ h hle => ⟨h.1.later hle, h.2.later hle⟩)
    (fun _ _ _ _ op h hle => ⟨tracks_step r h.1 hle op, standing_step h.1 h.2 hle op⟩)
    ⟨tracks_start hw hq, nofun⟩ ho
  rw [dispatch_onCooldown_iff hs hc hm, mustWait_iff htracks]
  constructor
  · rintro ⟨-, x, hlast, hlive⟩
    obtain ⟨hx, hdelays⟩ := Success.of_lastWait? hlast
    exact ⟨x, hx, hdelays.1, hdelays.2.1, hdelays.2.2, hlive⟩
  · rintro ⟨x, hx, hset, hname, hactor, hlive⟩
    exact ⟨hcooldown, x, hstanding _ _ x hx ⟨hset, hname, hactor⟩ hlive, hlive⟩

/-- Five seconds after a call, and a load that changed the aliases, there are five more to wait. -/
theorem warp_waits_after_load :
    let later := withWarp.run .standard
      [(0, .execute walker "WARP" []), (4000, .load [{ warp with aliases := ["w"] }])]
    (later.dispatch 5000 walker "w" []).value = .error .onCooldown := by
  intro later
  have hc : later.command? "w" = some { warp with aliases := ["w"] } := by
    simp only [later, command?, run, step, load_catalogue]
    rfl
  have hmem : (⟨0, ⟨1⟩, "warp", 10000⟩ : Success) ∈ withWarp.successes .standard
      [(0, .execute walker "WARP" []), (4000, .load [{ warp with aliases := ["w"] }])] := by
    decide +kernel
  exact (waits_outlast_loads .standard withWarp rfl rfl
    [(0, .execute walker "WARP" []), (4000, .load [{ warp with aliases := ["w"] }])] 5000 walker ⟨1⟩
    "w" [] { warp with aliases := ["w"] } ⟨.root warp.tree, .ofSender "Alice"⟩
    (by simp [Run.InOrder]) rfl hc rfl rfl).2 ⟨_, hmem, by decide, rfl, rfl, by decide⟩

def capitalWarp : Command :=
  { warp with name := "Warp" }

/-- A command that comes back in other letters has the same key, and lets the player pass who has
nine more seconds to wait. -/
theorem respelled_forgets :
    let past : Run Rat := [(0, .dispatch walker "warp" []), (500, .load [capitalWarp])]
    let later := withWarp.run .standard past
    withWarp.successes .standard past = [⟨0, ⟨1⟩, "warp", 10000⟩] ∧
      later.command? "warp" = some capitalWarp ∧
      capitalWarp.key = warp.key ∧ capitalWarp.cooldown.isSome ∧
      (later.dispatch 1000 walker "warp" []).value = .ok (.completed "Warp" ⟨1, 0⟩) := by
  intro past later
  have hc : later.command? "warp" = some capitalWarp := by
    simp only [past, later, command?, run, step, load_catalogue]
    rfl
  exact ⟨by decide +kernel, hc, by decide +kernel, rfl, execute_eq_some.1 (by decide +kernel)⟩

end Dispatcher

end CustomCommands
