import CustomCommands.Dispatcher

/-!
# What a call does

One lemma for each stage of a call: what paying leaves (`charge_ok`,
`charge_error`), what the gates leave (`allow_ok`, `allow_error`), what running
leaves (`perform_eq`), and from these what a whole call leaves
(`dispatch_ok`, `dispatch_error`). Later modules take a call apart with the last
two and open none of its stages.
-/

namespace CustomCommands.Dispatcher

variable {N : Type}

/-! ## Waiting and running -/

/-- A cooldown that starts is entered and its clean-up queued for the instant of its end. -/
theorem startCooldown_eq (now : Nat) (c : Command) (actor : Uuid) (d : Dispatcher N) :
    d.startCooldown now c actor =
      if c.cooldownSeconds = 0 then d
      else
        let duration := 1000 * c.cooldownSeconds
        let expiry := now + min duration Cooldowns.maxDuration
        { d with
          cooldowns := (d.cooldowns.start c.name actor duration now).1
          queue := d.queue.insert expiry (.cleanup { command := c.name, actor, expiry }) } := by
  unfold startCooldown Cooldowns.start
  by_cases h : c.cooldownSeconds = 0
  · simp [h]
  · have hpos : 1000 * c.cooldownSeconds ≠ 0 := by omega
    simp only [if_neg hpos, if_neg h]

theorem startCooldown_ledger (now : Nat) (c : Command) (actor : Uuid) (d : Dispatcher N) :
    (d.startCooldown now c actor).ledger = d.ledger := by
  rw [startCooldown_eq]
  split <;> rfl

theorem startCooldown_cooldowns (now : Nat) (c : Command) (actor : Uuid) (d : Dispatcher N) :
    (d.startCooldown now c actor).cooldowns =
      (d.cooldowns.start c.name actor (1000 * c.cooldownSeconds) now).1 := rfl

/-- What stands at the end of a path is put off if there is a countdown, and run otherwise. -/
theorem perform_eq (now : Nat) (s : Sender) (c : Command) (r : Resolution) (d : Dispatcher N) :
    (∃ delay, r.place.node.traits.delay = some delay ∧ d.perform now s c r =
      { value := .scheduled c.name delay.seconds
        after :=
          { d with
            queue := d.queue.insert now
              (.phased (.start s delay r.place.node.traits.actions r.bindings)) } }) ∨
    (r.place.node.traits.delay = none ∧ ∃ summary platform effects notices,
      d.perform now s c r =
        { value := .completed c.name summary
          after := { d with platform }
          effects
          notices }) := by
  unfold perform
  cases hd : r.place.node.traits.delay with
  | some delay => exact .inl ⟨delay, rfl, by simp only [hd]⟩
  | none => exact .inr ⟨rfl, _, _, _, _, by simp only [hd]; rfl⟩

theorem perform_keeps (now : Nat) (s : Sender) (c : Command) (r : Resolution) (d : Dispatcher N) :
    (d.perform now s c r).after.ledger = d.ledger ∧
      (d.perform now s c r).after.cooldowns = d.cooldowns := by
  rcases perform_eq now s c r d with
    ⟨delay, -, hp⟩ | ⟨-, summary, platform, effects, notices, hp⟩ <;>
    rw [hp] <;> exact ⟨rfl, rfl⟩

variable [Currency N]

/-! ## Paying -/

section Paying

variable {L : Type} [Bank L N] {price : Price} {actor : Uuid} {bank bank' : Option L}

def cost (N : Type) [Currency N] (price : Price) : N :=
  Currency.ofPrice price

/-- What was paid was nothing, or one withdrawal of the whole cost. -/
theorem charge_ok (h : (charge price actor bank).value = (.ok (), bank')) :
    (Currency.isPositive (cost N price) = false ∧ bank' = bank) ∨
    (Currency.isPositive (cost N price) = true ∧ ∃ l l', bank = some l ∧
      Bank.has actor (cost N price) l = true ∧
      Bank.withdraw actor (cost N price) l = (true, l') ∧ bank' = some l') := by
  dsimp only [charge] at h
  unfold cost
  split at h
  · rename_i hp
    cases h
    exact .inl ⟨by simpa using hp, rfl⟩
  · rename_i hp
    right
    refine ⟨by simpa using hp, ?_⟩
    split at h
    · cases h
    · rename_i l
      split at h
      · cases h
      · rename_i hhas
        split at h
        · rename_i l' hw
          cases h
          exact ⟨l, l', rfl, by simpa using hhas, hw, rfl⟩
        · cases h

theorem charge_error {e : Rejection} (h : (charge price actor bank).value = (.error e, bank')) :
    e ≠ .onCooldown ∧ (bank' = bank ∨
      ∃ l l', bank = some l ∧ Bank.withdraw actor (cost N price) l = (false, l') ∧
        bank' = some l') := by
  dsimp only [charge] at h
  unfold cost
  split at h
  · cases h
  · split at h
    · cases h; exact ⟨nofun, .inl rfl⟩
    · rename_i l
      split at h
      · cases h; exact ⟨nofun, .inl rfl⟩
      · split at h
        · cases h
        · rename_i l' hw
          cases h
          exact ⟨nofun, .inr ⟨l, l', rfl, hw, rfl⟩⟩

end Paying

/-! ## The gates -/

variable {now : Nat} {s : Sender} {c : Command} {d : Dispatcher N}

/-- Whoever gets through the gates is no player, or has not to wait, has paid, and waits from
now on. -/
theorem allow_ok (h : (d.allow now s c).value = .ok ()) :
    (s.id = none ∧ (d.allow now s c).after = d) ∨
    ∃ actor ledger, s.id = some actor ∧ d.mustWait now c actor = false ∧
      (charge c.price actor d.ledger).value = (.ok (), ledger) ∧
      (d.allow now s c).after = ({ d with ledger } : Dispatcher N).startCooldown now c actor := by
  unfold allow at h ⊢
  split at h
  · rename_i hs
    simp only [hs]
    exact .inl ⟨trivial, trivial⟩
  · rename_i actor hs
    right
    split at h
    · cases h
    · rename_i hw
      simp only at h
      refine ⟨actor, (charge c.price actor d.ledger).value.2, hs, by simpa using hw, ?_, ?_⟩
      · rw [← h]
      · simp only [hw, h, Bool.false_eq_true, ↓reduceIte]

/-- Whoever does not get through the gates leaves everything but perhaps the ledger. -/
theorem allow_error {e : Rejection} (h : (d.allow now s c).value = .error e) :
    ∃ actor, s.id = some actor ∧
      ((d.mustWait now c actor = true ∧ e = .onCooldown ∧ (d.allow now s c).after = d) ∨
      ∃ ledger, d.mustWait now c actor = false ∧
        (charge c.price actor d.ledger).value = (.error e, ledger) ∧
        (d.allow now s c).after = { d with ledger }) := by
  unfold allow at h ⊢
  split at h
  · cases h
  · rename_i actor hs
    refine ⟨actor, hs, ?_⟩
    split at h
    · rename_i hw
      cases h
      simp only [hw, ↓reduceIte]
      exact .inl ⟨trivial, trivial, trivial⟩
    · rename_i hw
      simp only at h
      right
      refine ⟨(charge c.price actor d.ledger).value.2, by simpa using hw, ?_, ?_⟩
      · rw [← h]
      · simp only [hw, h, Bool.false_eq_true, ↓reduceIte]

/-! ## Whole calls -/

variable {label : String} {args : List String}

/-- A call that went through found a command and a path, passed the gates, and was run. -/
theorem dispatch_ok {i : Invocation} (h : (d.dispatch now s label args).value = .ok i) :
    ∃ c r, d.command? label = some c ∧
      (c.tree.matchPath s d.identity args).value = .resolved r ∧
      (d.allow now s c).value = .ok () ∧
      i = ((d.allow now s c).after.perform now s c r).value ∧
      (d.dispatch now s label args).after = ((d.allow now s c).after.perform now s c r).after ∧
      (d.dispatch now s label args).effects =
        ((d.allow now s c).after.perform now s c r).effects := by
  unfold dispatch at h ⊢
  split at h
  · cases h
  · rename_i c hc
    simp only [Act.noting] at h
    split at h
    · rename_i r hr
      simp only [invoke, Act.noting] at h
      split at h
      · cases h
      · rename_i ha
        refine ⟨c, r, hc, hr, ha, ?_⟩
        simp only [hr, invoke, ha, Act.noting, Act.map]
        simp only [Act.map, Except.ok.injEq] at h
        exact ⟨h.symm, trivial, trivial⟩
    all_goals cases h

/-- What is left of a rejected call: nothing was shown, and at most the gates have changed
anything. -/
theorem dispatch_error {e : Rejection} (h : (d.dispatch now s label args).value = .error e) :
    (d.dispatch now s label args).effects = [] ∧
      ((d.dispatch now s label args).after = d ∨
        ∃ c, (d.allow now s c).value = .error e ∧
          (d.dispatch now s label args).after = (d.allow now s c).after) := by
  unfold dispatch at h ⊢
  split at h
  · rename_i hc
    simp [reject]
  · rename_i c hc
    simp only [Act.noting] at h
    split at h
    · rename_i r hr
      simp only [hr, Act.noting]
      simp only [invoke, Act.noting] at h ⊢
      split at h
      · rename_i e' ha
        cases h
        simp only [reject]
        exact ⟨trivial, .inr ⟨c, ha, rfl⟩⟩
      · cases h
    all_goals
      rename_i hr
      simp [hr, reject, Act.noting]

/-- A call leaves everything but the players, the balances, the cooldowns and the queue. -/
theorem dispatch_frame (now : Nat) (s : Sender) (label : String) (args : List String)
    (d : Dispatcher N) : ∃ platform ledger cooldowns queue,
      (d.dispatch now s label args).after = { d with platform, ledger, cooldowns, queue } := by
  cases h : (d.dispatch now s label args).value with
  | error e =>
    obtain ⟨-, ha | ⟨c, hc, ha⟩⟩ := dispatch_error h
    · exact ⟨_, _, _, _, ha⟩
    · rw [ha]
      obtain ⟨actor, -, ⟨-, -, ha⟩ | ⟨ledger, -, -, ha⟩⟩ := allow_error hc <;>
        exact ⟨_, _, _, _, ha⟩
  | ok i =>
    obtain ⟨c, r, -, -, ha, -, hafter, -⟩ := dispatch_ok h
    rw [hafter]
    rcases perform_eq now s c r (d.allow now s c).after with
      ⟨delay, -, hp⟩ | ⟨-, summary, platform, effects, notices, hp⟩ <;>
      rcases allow_ok ha with ⟨-, hd⟩ | ⟨actor, ledger, -, -, -, hd⟩ <;>
      rw [hp, hd] <;> exact ⟨_, _, _, _, rfl⟩

theorem dispatch_catalogue (now : Nat) (s : Sender) (label : String) (args : List String)
    (d : Dispatcher N) : (d.dispatch now s label args).after.catalogue = d.catalogue := by
  obtain ⟨platform, ledger, cooldowns, queue, h⟩ := dispatch_frame now s label args d
  rw [h]

theorem dispatch_of_resolved {r : Resolution} (hc : d.command? label = some c)
    (hr : (c.tree.matchPath s d.identity args).value = .resolved r) :
    (d.dispatch now s label args).value = (d.invoke now s c r).value := by
  simp [dispatch, hc, hr, Act.noting]

theorem execute_eq_some {i : Invocation} :
    (d.execute now s label args).value = some i ↔
      (d.dispatch now s label args).value = .ok i := by
  dsimp only [execute]
  split
  · rename_i hd
    rw [hd, Option.some.injEq, Except.ok.injEq]
  · rename_i hd
    rw [hd]
    exact ⟨nofun, nofun⟩

theorem execute_after (now : Nat) (s : Sender) (label : String) (args : List String)
    (d : Dispatcher N) :
    (d.execute now s label args).after = (d.dispatch now s label args).after := by
  dsimp only [execute]
  split <;> rfl

end CustomCommands.Dispatcher
